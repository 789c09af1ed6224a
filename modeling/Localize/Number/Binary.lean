import Localize.Text.Basic

/-!
# Binary floating-point numbers

Numbers of 64 bits, written out: a finite one is a sign, a mantissa below `2 ^ 53` and a power of
two.  The library reads, rounds, prints, adds and multiplies them, and each of these is a question
about fractions and is answered exactly before it is rounded.

* `roundDiv` — a fraction to the nearest whole number, a tie to the even neighbour.
* `Binary64.ofRatio` — a fraction to the nearest binary number, by `roundDiv` on the mantissa.
* `Binary64.round` — to a number of decimal places and back.
* `Binary64.equals` — whether two numbers have one value, as the two zeros do.
* `Binary64.add`, `Binary64.mul` — the nearest number to a sum and a product.
-/

set_option autoImplicit false

namespace Localize

/-- The whole number nearest to a fraction; a tie goes to the even neighbour. -/
def roundDiv (num den : Nat) : Nat :=
  let q := num / den
  let twice := 2 * (num % den)
  if twice < den then q
  else if den < twice then q + 1
  else if q % 2 = 0 then q else q + 1

/-- A binary number of 64 bits.  A finite one is `mantissa * 2 ^ exponent`; the mantissa has 53
binary digits unless the exponent is the least one. -/
inductive Binary64
  | nan
  | infinite (negative : Bool)
  | finite (negative : Bool) (mantissa : Nat) (exponent : Int)
deriving DecidableEq, Repr, Inhabited

namespace Binary64

/-- The least exponent. -/
def minExponent : Int := -1074

/-- The greatest exponent of a finite number. -/
def maxExponent : Int := 971

/-- Zero, of either sign. -/
def zero (negative : Bool) : Binary64 := .finite negative 0 minExponent

/-- A fraction times a power of two, as a fraction. -/
def scale (num den : Nat) (power : Int) : Nat × Nat :=
  if 0 ≤ power then (num * Nat.pow 2 power.toNat, den) else (num, den * Nat.pow 2 (-power).toNat)

/-- The exponent that gives the mantissa of a fraction its 53 binary digits, as far as the least
exponent allows. -/
def exponentFor (num den : Nat) : Int :=
  let guess : Int := (Nat.log2 num : Int) - Nat.log2 den - 52
  let (n, d) := scale num den (-guess)
  max minExponent (if n < d * Nat.pow 2 52 then guess - 1 else guess)

/-- The binary number nearest to a fraction; a tie goes to the even mantissa. -/
def ofRatio (negative : Bool) (num den : Nat) : Binary64 :=
  if num = 0 then zero negative
  else
    let exponent := exponentFor num den
    let (n, d) := scale num den (-exponent)
    let mantissa := roundDiv n d
    let (mantissa, exponent) :=
      if mantissa = Nat.pow 2 53 then (Nat.pow 2 52, exponent + 1) else (mantissa, exponent)
    if maxExponent < exponent then .infinite negative else .finite negative mantissa exponent

/-- The binary number nearest to `digits * 10 ^ power`, where `digits` has `width` decimal digits
at most.  Powers far outside the range are not worked out. -/
def ofDecimal (negative : Bool) (digits width : Nat) (power : Int) : Binary64 :=
  if digits = 0 then zero negative
  else if 400 < power then .infinite negative
  else if power + width < -400 then zero negative
  else if 0 ≤ power then ofRatio negative (digits * Nat.pow 10 power.toNat) 1
  else ofRatio negative digits (Nat.pow 10 (-power).toNat)

/-- The binary number nearest to an integer. -/
def ofInt (i : Int) : Binary64 := ofRatio (i < 0) i.natAbs 1

/-- The value without its sign as a fraction; a number that is not finite has none. -/
def ratio? : Binary64 → Option (Nat × Nat)
  | finite _ mantissa exponent => some (scale mantissa 1 exponent)
  | _ => none

/-- The number is below zero, or is the negative zero. -/
def isNegative : Binary64 → Bool
  | nan => false
  | infinite negative | finite negative _ _ => negative

/-- The integer a number is equal to, if there is one. -/
def toInt? (x : Binary64) : Option Int := do
  let (num, den) ← x.ratio?
  if num % den = 0 then
    let n : Int := (num / den : Nat)
    return if x.isNegative then -n else n
  else none

/-- The number is not zero; what is not a number is not zero either. -/
def isNonzero : Binary64 → Bool
  | finite _ mantissa _ => mantissa ≠ 0
  | _ => true

/-- The multiple of `10 ^ -places` nearest to a number, counted in such units; a tie goes to the
even neighbour. -/
def units? (places : Nat) (x : Binary64) : Option Nat :=
  x.ratio?.map fun (num, den) => roundDiv (num * Nat.pow 10 places) den

/-- A number rounded to decimal places and read back. -/
def round (places : Nat) (x : Binary64) : Binary64 :=
  match x.units? places with
  | some units => ofRatio x.isNegative units (Nat.pow 10 places)
  | none => x

/-! ## Arithmetic -/

/-- A number with its sign turned. -/
def neg : Binary64 → Binary64
  | nan => nan
  | infinite negative => infinite (!negative)
  | finite negative mantissa exponent => finite (!negative) mantissa exponent

/-- A mantissa with a sign, as a multiple of a power of two that is not greater than its own. -/
def aligned (negative : Bool) (mantissa : Nat) (exponent least : Int) : Int :=
  let n : Int := (mantissa * Nat.pow 2 (exponent - least).toNat : Nat)
  if negative then -n else n

/-- Two numbers have one value.  What is not a number has none. -/
def equals : Binary64 → Binary64 → Bool
  | infinite s, infinite t => s = t
  | finite s m e, finite t n f => aligned s m e (min e f) = aligned t n f (min e f)
  | _, _ => false

/-- The sum of two numbers. -/
def add : Binary64 → Binary64 → Binary64
  | nan, _ | _, nan => nan
  | infinite s, infinite t => if s = t then infinite s else nan
  | infinite s, _ | _, infinite s => infinite s
  | finite s m e, finite t n f =>
    let least := min e f
    let sum := aligned s m e least + aligned t n f least
    if sum = 0 then zero (s && t)
    else
      let (num, den) := scale sum.natAbs 1 least
      ofRatio (sum < 0) num den

/-- The product of two numbers. -/
def mul : Binary64 → Binary64 → Binary64
  | nan, _ | _, nan => nan
  | infinite s, x | x, infinite s => if x.isNonzero then infinite (s != x.isNegative) else nan
  | finite s m e, finite t n f =>
    let (num, den) := scale (m * n) 1 (e + f)
    ofRatio (s != t) num den

end Binary64

end Localize
