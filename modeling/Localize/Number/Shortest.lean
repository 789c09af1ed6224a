import Localize.Number.Binary

/-!
# Decimal text of binary numbers

A binary number is shown with the fewest digits that read back as it, and of those the nearest to
it.  `shortest` finds them: the numbers that read back form an interval around the value, and for
one, two, … digits the value has two neighbours on the decimal grid of that many digits.  The first
grid with a neighbour in the interval wins; of two neighbours the nearer is taken, of two equally
near the even one.  Seventeen digits always suffice.

`Binary64.toText` lays the digits out: positional from `1e-4` up to `1e16`, with a point and a
digit behind it always there, and with an exponent of two digits at least outside.  `fixed` is the
other layout, with a given number of places.
-/

set_option autoImplicit false

namespace Localize

namespace Binary64

/-- A finite number with its rounding interval, all in one unit: `value`, `low` and `high` times
`unit.1 / unit.2`. -/
structure Interval where
  low : Nat
  value : Nat
  high : Nat
  /-- The ends read back too. -/
  closed : Bool
  unit : Nat × Nat

/-- The rounding interval of a mantissa and an exponent.  Below a power of two the neighbours are
half as far away. -/
def intervalOf (mantissa : Nat) (exponent : Int) : Interval where
  low :=
    if mantissa = Nat.pow 2 52 ∧ minExponent < exponent then 4 * mantissa - 1
    else 4 * mantissa - 2
  value := 4 * mantissa
  high := 4 * mantissa + 2
  closed := mantissa % 2 = 0
  unit := scale 1 1 (exponent - 2)

/-- `digits * 10 ^ power` as a fraction. -/
def decimalRatio (digits : Nat) (power : Int) : Nat × Nat :=
  if 0 ≤ power then (digits * Nat.pow 10 power.toNat, 1) else (digits, Nat.pow 10 (-power).toNat)

/-- Raises a power of ten until the next one is above the fraction, or lowers it until it is no
longer above; `fuel` bounds the number of steps. -/
def settlePower (num den : Nat) : Nat → Int → Int
  | 0, power => power
  | fuel + 1, power =>
    let (n, d) := decimalRatio 1 power
    if num * d < n * den then settlePower num den fuel (power - 1)
    else
      let (n, d) := decimalRatio 1 (power + 1)
      if n * den ≤ num * d then settlePower num den fuel (power + 1) else power

/-- The power of ten of the first digit of a fraction. -/
def leadingPower (num den : Nat) : Int :=
  settlePower num den 8 (((Nat.log2 num : Int) - Nat.log2 den) * 30103 / 100000)

/-- The neighbours of the value on the grid of `10 ^ power` that read back, the nearer one first. -/
def neighbour? (i : Interval) (power : Int) : Option Nat :=
  let (gn, gd) := decimalRatio 1 power
  -- In units of `1 / (gd * i.unit.2)`, a step of the grid is `step`, and the value `at' i.value`.
  let step := gn * i.unit.2
  let at' (n : Nat) := n * i.unit.1 * gd
  let inside (n : Nat) :=
    let p := n * step
    if i.closed then at' i.low ≤ p && p ≤ at' i.high else at' i.low < p && p < at' i.high
  let below := at' i.value / step
  let above := below + 1
  let near := roundDiv (at' i.value) step
  if near = below then
    (if inside below then some below else if inside above then some above else none)
  else (if inside above then some above else if inside below then some below else none)

/-- Tries grids of more and more digits. -/
def search (i : Interval) : Nat → Int → Nat × Int
  | 0, power => (i.value, power)
  | fuel + 1, power =>
    match neighbour? i power with
    | some n => (n, power)
    | none => search i fuel (power - 1)

/-- The fewest digits that read back as `mantissa * 2 ^ exponent`, with the power of ten of the
last one.  The mantissa is not zero. -/
def shortest (mantissa : Nat) (exponent : Int) : Nat × Int :=
  let i := intervalOf mantissa exponent
  search i 18 (leadingPower (i.value * i.unit.1) i.unit.2)

/-! ## Layout -/

/-- Decimal digits without zeros at the end, and how many zeros were dropped; `fuel` bounds their
number. -/
def dropZeros : Nat → Nat → Nat → Nat × Nat
  | 0, digits, dropped => (digits, dropped)
  | fuel + 1, digits, dropped =>
    if digits ≠ 0 ∧ digits % 10 = 0 then dropZeros fuel (digits / 10) (dropped + 1)
    else (digits, dropped)

/-- Where positional notation begins and ends, as positions of the point before the first digit:
from `0.0001` up to below `1e16`. -/
def positional (point : Int) : Bool := -4 < point && point ≤ 16

/-- An exponent, with its sign and two digits at least. -/
def exponentText (e : Int) : Text :=
  (if e < 0 then "e-" else "e+") ++ Text.padLeft '0' 2 (Text.ofNat e.natAbs)

/-- Lays out digits of which the point stands `point` places after the start. -/
def layout (digits : Text) (point : Int) : Text :=
  if positional point then
    if point ≤ 0 then "0." ++ List.replicate (-point).toNat (CodePoint.ofChar '0') ++ digits
    else
      let whole := digits.take point.toNat
      let part := digits.drop point.toNat
      whole ++ List.replicate (point.toNat - whole.length) (CodePoint.ofChar '0') ++ "."
        ++ (if part = [] then ("0" : Text) else part)
  else
    let part := digits.drop 1
    digits.take 1 ++ (if part = [] then [] else ("." : Text) ++ part) ++ exponentText (point - 1)

/-- The text of a number: the fewest digits that read back. -/
def toText : Binary64 → Text
  | nan => "nan"
  | infinite negative => if negative then "-inf" else "inf"
  | finite negative mantissa exponent =>
    let sign : Text := if negative then "-" else []
    if mantissa = 0 then sign ++ "0.0"
    else
      let (digits, power) := shortest mantissa exponent
      let (digits, dropped) := dropZeros 20 digits 0
      let shown := Text.ofNat digits
      sign ++ layout shown (power + dropped + shown.length)

/-- A whole number of units of `10 ^ -places`, with the point in its place. -/
def placed (places units : Nat) : Text :=
  let shown := Text.padLeft '0' (places + 1) (Text.ofNat units)
  let whole := shown.length - places
  shown.take whole ++ (if places = 0 then [] else ("." : Text) ++ shown.drop whole)

/-- The text of a number with a fixed number of places; a tie goes to the even neighbour. -/
def fixed (places : Nat) (x : Binary64) : Text :=
  match x.units? places with
  | some units => (if x.isNegative then ("-" : Text) else []) ++ placed places units
  | none => x.toText

end Binary64

end Localize
