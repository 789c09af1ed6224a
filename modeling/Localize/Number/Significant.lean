import Localize.Number.Shortest

/-!
# Decimal text with a given number of digits

Where a layout asks for a number of digits, the value is rounded to them exactly, and a tie goes to
the even neighbour.  `scientific` has one digit before the point and an exponent; `general` is
positional as long as the point falls among the digits asked for, or at most four places before
them, and drops zeros at the end.

Neither writes a sign.  Both can be asked to keep what they would drop (`whole`): the point that has
nothing behind it, and zeros at the end.
-/

set_option autoImplicit false

namespace Localize

namespace Binary64

/-- The first digits of a fraction that is not zero, as many as are asked for, and the power of ten
of the first one. -/
def leadingDigits (count num den : Nat) : Nat × Int :=
  let leading := leadingPower num den
  let (n, d) := decimalRatio 1 (leading - count + 1)
  let digits := roundDiv (num * d) (den * n)
  if digits = Nat.pow 10 count then (Nat.pow 10 (count - 1), leading + 1) else (digits, leading)

/-- The digits of a number and the power of ten of the first one; those of zero are zeros. -/
def digitsOf (count : Nat) (x : Binary64) : Option (Text × Int) :=
  x.ratio?.map fun (num, den) =>
    if num = 0 then (List.replicate count (CodePoint.ofChar '0'), 0)
    else
      let (digits, power) := leadingDigits count num den
      (Text.ofNat digits, power)

/-- Digits with the point after the first few of them. -/
def pointed (whole : Bool) (before : Nat) (digits : Text) : Text :=
  let part := digits.drop before
  digits.take before ++ (if part = [] ∧ !whole then [] else ("." : Text) ++ part)

/-- Digits without zeros at the end. -/
def trimmed (digits : Text) : Text :=
  (digits.reverse.dropWhile fun c => c = CodePoint.ofChar '0').reverse

/-- The text of a number that is not finite, without its sign. -/
def unbounded : Binary64 → Text
  | nan => "nan"
  | _ => "inf"

/-- A number with one digit before the point, a number of places behind it, and an exponent. -/
def scientific (whole : Bool) (places : Nat) (x : Binary64) : Text :=
  match x.digitsOf (places + 1) with
  | some (digits, power) => pointed whole 1 digits ++ exponentText power
  | none => x.unbounded

/-- A number with a number of digits, in the shorter notation. -/
def general (whole : Bool) (count : Nat) (x : Binary64) : Text :=
  let count := max count 1
  match x.digitsOf count with
  | none => x.unbounded
  | some (digits, power) =>
    let kept := if whole then digits else trimmed digits
    if power < -4 ∨ count ≤ power then
      pointed whole 1 (if kept = [] then ("0" : Text) else kept) ++ exponentText power
    else if power < 0 then
      "0." ++ List.replicate (-power - 1).toNat (CodePoint.ofChar '0') ++ kept
    else
      let before := power.toNat + 1
      let zeros := List.replicate (before - kept.length) (CodePoint.ofChar '0')
      pointed whole before (kept ++ zeros)

/-- A number with a number of places, without its sign. -/
def positionalText (whole : Bool) (places : Nat) (x : Binary64) : Text :=
  match x.units? places with
  | some units => placed places units ++ (if whole ∧ places = 0 then ("." : Text) else [])
  | none => x.unbounded

end Binary64

end Localize
