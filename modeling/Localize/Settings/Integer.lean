import Localize.Unicode.Blank

/-!
# Whole numbers in settings

A number in settings may come as a text.  At its plainest that is a minus, if any, and digits that
do not begin with a zero.  A text that is not written like this is cleaned once (`cleaned?`) and
then has to be: white space around it goes, and a sign, zeros at the front, zeros behind a point,
and single underscores between digits.

Among the zeros at the front underscores may stand, and a minus may stand behind them.

* `readWritten` — the number that a text writes, or why there is none.
-/

set_option autoImplicit false

namespace Localize

namespace Settings

/-- Why a text is no whole number. -/
inductive IntegerFault
  | unreadable
  | oversized
deriving DecidableEq, Repr

/-- The most digits that are read. -/
def digitLimit : Nat := 4300

/-- White space around a number; the control separators are none. -/
def isPadding (c : CodePoint) : Bool := c.isBlank && !(0x1C ≤ c.val && c.val ≤ 0x1F)

/-- Takes a minus off a text: whether there is one, and what is left. -/
def unsigned (t : Text) : Bool × Text :=
  match Text.after? "-" t with
  | some rest => (true, rest)
  | none => (false, t)

/-- The number that a text writes at its plainest. -/
def plain? (t : Text) : Option Int :=
  let (negative, digits) := unsigned t
  if digits = [] ∨ !digits.all CodePoint.isDigit ∨ digitLimit < digits.length
      ∨ (1 < digits.length ∧ digits.head? = some (CodePoint.ofChar '0')) then none
  else
    let n : Int := (Text.decimalOf digits : Nat)
    some (if negative then -n else n)

/-- A text begins with more digits than are read. -/
def isOversized (t : Text) : Bool :=
  let digits := (unsigned t).2.takeWhile CodePoint.isDigit
  digitLimit < digits.length && digits.head? ≠ some (CodePoint.ofChar '0')

/-- What follows zeros and the underscores among them, of which the last was passed just before.
Before a point the last of them stays, and so it does at the end. -/
def skipZeros? (last : CodePoint) : Text → Option Text
  | [] => some [last]
  | c :: rest =>
    if c = '0' ∨ c = '_' then skipZeros? c rest
    else if c.isDigit ∨ c = '-' then some (c :: rest)
    else if c = '.' then some (last :: c :: rest)
    else none

/-- A text that begins with a digit, without zeros at the front. -/
def withoutZeros? : Text → Option Text
  | [] => none
  | c :: rest =>
    if c = '0' then skipZeros? c rest else if c.isDigit then some (c :: rest) else none

/-- A text without a point and the zeros behind it. -/
def withoutPoint (t : Text) : Text :=
  match Text.breakOn "." t with
  | some (whole, part) =>
    if part ≠ [] ∧ part.all (· = CodePoint.ofChar '0') then whole else t
  | none => t

/-- A text without underscores, if there is but one at a time and none at either end. -/
def withoutUnderscores (t : Text) : Text :=
  let groups := Text.splitOn "_" t
  if groups.any (·.isEmpty) then t else groups.flatten

/-- A text cleaned of all that is allowed beside the plainest writing. -/
def cleaned? (t : Text) : Option Text := do
  let t := Text.trim isPadding t
  let (negative, body) :=
    match Text.after? "+" t with
    | some rest => (false, rest)
    | none => unsigned t
  let body := withoutUnderscores (withoutPoint (← withoutZeros? body))
  return if negative then "-" ++ body else body

/-- The number that a text writes. -/
def readWritten (t : Text) : Except IntegerFault Int :=
  if isOversized t then .error .oversized
  else
    match (plain? t).or ((cleaned? t).bind plain?) with
    | some i => .ok i
    | none => .error .unreadable

end Settings

end Localize
