import Localize.Number.Binary
import Localize.Unicode.Blank
import Localize.Unicode.Decimal

/-!
# Numbers written as texts

White space may stand around a number and a sign before it, the digits may be those of any script,
and a single underscore may stand between two digits.

* `Text.integer` — a whole number in a base; in the bases two, eight and sixteen the mark of the
  base may stand before the digits.
* `Text.fraction?` — a number with a point or an exponent, or one of the words for what is not
  finite.
-/

set_option autoImplicit false

namespace Localize

namespace Text

/-- Why a text is not read as a whole number. -/
inductive IntegerFault
  | unreadable
  /-- There are more digits than are read. -/
  | digits (count : Nat)
deriving DecidableEq, Repr

/-- The value of a digit in any base: a decimal digit of any script, or a letter. -/
def digitValue? (c : CodePoint) : Option Nat :=
  match c.decimal? with
  | some d => some d
  | none =>
    if 0x61 ≤ c.val ∧ c.val ≤ 0x7A then some (c.val - 0x57)
    else if 0x41 ≤ c.val ∧ c.val ≤ 0x5A then some (c.val - 0x37)
    else none

/-- The values of digits in a base, single underscores between them passed over. -/
def digitsIn? (base : Nat) (t : Text) : Option (List Nat) :=
  let groups := splitOn "_" t
  if groups.any (·.isEmpty) then none
  else groups.flatten.mapM fun c => (digitValue? c).filter (· < base)

/-- Takes the sign off a text: whether it is a minus, and what is left. -/
def unsigned (t : Text) : Bool × Text :=
  if startsWith "-" t then (true, t.drop 1)
  else (false, if startsWith "+" t then t.drop 1 else t)

/-- The letter that marks a base after a zero. -/
def baseLetter (base : Nat) : List Text :=
  if base = 2 then ["0b", "0B"] else if base = 8 then ["0o", "0O"]
  else if base = 16 then ["0x", "0X"] else []

/-- Takes the mark of a base off a text, and an underscore after it. -/
def withoutBase (base : Nat) (t : Text) : Text :=
  match (baseLetter base).findSome? fun mark => after? mark t with
  | some rest => (after? "_" rest).getD rest
  | none => t

/-- A base in which the number of digits read has no limit. -/
def isBinaryBase (base : Nat) : Bool := base = 2 || base = 8 || base = 16

/-- The most decimal digits that are read. -/
def digitLimit : Nat := 4300

/-- Reads a whole number in a base. -/
def integer (base : Nat) (t : Text) : Except IntegerFault Int :=
  let (negative, body) := unsigned (strip t)
  match digitsIn? base (withoutBase base body) with
  | none => .error .unreadable
  | some digits =>
    if !isBinaryBase base ∧ digitLimit < digits.length then .error (.digits digits.length)
    else
      let n : Int := (numeral base digits : Nat)
      .ok (if negative then -n else n)

/-- Cuts a text at the letter of an exponent. -/
def breakExponent (t : Text) : Text × Option Text :=
  let isMark (c : CodePoint) : Bool := c = 'e' || c = 'E'
  match t.dropWhile (!isMark ·) with
  | [] => (t, none)
  | _ :: exponent => (t.takeWhile (!isMark ·), some exponent)

/-- The decimal digits of a part of a number, which may be empty. -/
def partDigits? (t : Text) : Option (List Nat) := if t = [] then some [] else digitsIn? 10 t

/-- The value of an exponent. -/
def exponentValue? (t : Text) : Option Int :=
  let (negative, digits) := unsigned t
  (digitsIn? 10 digits).map fun digits =>
    let n : Int := (numeral 10 digits : Nat)
    if negative then -n else n

/-- Reads a number without its sign. -/
def magnitude? (negative : Bool) (t : Text) : Option Binary64 := do
  let word := t.map fun c =>
    if 0x41 ≤ c.val ∧ c.val ≤ 0x5A then CodePoint.ofNat (c.val + 0x20) else c
  if word = ("inf" : Text) ∨ word = ("infinity" : Text) then return .infinite negative
  else if word = ("nan" : Text) then return .nan
  else
    let (significand, exponent) := breakExponent t
    let (whole, part) := (breakOn "." significand).getD (significand, [])
    let wholeDigits ← partDigits? whole
    let partDigits ← partDigits? part
    let digits := wholeDigits ++ partDigits
    if digits = [] then none
    else
      let power ← (exponent.map exponentValue?).getD (some 0)
      return .ofDecimal negative (numeral 10 digits) digits.length (power - partDigits.length)

/-- Reads a number that need not be whole. -/
def fraction? (t : Text) : Option Binary64 :=
  let (negative, body) := unsigned (strip t)
  magnitude? negative body

end Text

end Localize
