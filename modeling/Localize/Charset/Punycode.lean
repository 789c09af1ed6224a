import Localize.Charset.Fault

/-!
# Punycode

A text in ASCII, a hyphen, and letters and digits that say where other code points go.  They write
numbers in base 36 whose digits end themselves: the first digit that is below a threshold is the
last.  Each number is how far it is from the place of the code point before to that of the next,
counting all places of a text and after them those for the next code point.

Names of domains are cut into labels at points, and a label in ASCII is read as it is.
-/

set_option autoImplicit false

namespace Localize

namespace Charset

/-- The text of bytes in ASCII. -/
def readAscii : Nat → Bytes → Except DecodeError Text
  | _, [] => .ok []
  | pos, b :: rest =>
    if isAsciiByte b then do return CodePoint.ofNat b.toNat :: (← readAscii (pos + 1) rest)
    else .error ⟨"ascii", pos, b, 1, "ordinal not in range(128)"⟩

namespace Punycode

/-- The value of a digit of either case. -/
def digit? (c : CodePoint) : Option Nat :=
  if 0x41 ≤ c.val ∧ c.val ≤ 0x5A then some (c.val - 0x41)
  else if 0x61 ≤ c.val ∧ c.val ≤ 0x7A then some (c.val - 0x61)
  else if 0x30 ≤ c.val ∧ c.val ≤ 0x39 then some (c.val - 0x30 + 26)
  else none

/-- The code point of the other case, of a small letter of ASCII. -/
def upper (c : CodePoint) : CodePoint :=
  if 0x61 ≤ c.val ∧ c.val ≤ 0x7A then CodePoint.ofNat (c.val - 0x20) else c

/-- The threshold for a digit, given how many digits stand before it. -/
def threshold (before bias : Nat) : Nat := min 26 (max 1 (36 * (before + 1) - bias))

/-- Reads a number: its value and what follows.  `weight` is what the next digit counts for. -/
def number (bias : Nat) : Nat → Nat → Nat → Text → Except Fault (Nat × Text)
  | _, _, _, [] => .error .unfinished
  | before, weight, sum, c :: rest =>
    match digit? c with
    | none => .error (.notDigit (upper c))
    | some d =>
      let t := threshold before bias
      let sum := sum + d * weight
      if d < t then .ok (sum, rest) else number bias (before + 1) (weight * (36 - t)) sum rest

/-- Halves the scale of a distance until it is small, and counts how often. -/
def settle : Nat → Nat → Nat → Nat
  | 0, delta, count => count + 36 * delta / (delta + 38)
  | fuel + 1, delta, count =>
    if 455 < delta then settle fuel (delta / 35) (count + 36)
    else count + 36 * delta / (delta + 38)

/-- The bias after a number, which is the first or another, with a number of code points read. -/
def adapt (delta : Nat) (isFirst : Bool) (size : Nat) : Nat :=
  let delta := if isFirst then delta / 700 else delta / 2
  let delta := delta + delta / size
  settle delta.log2 delta 0

/-- Puts code points into a text.  `place` is where the next would go at the earliest, and `code` is
the code point that goes there. -/
def insertFrom : Nat → Bool → Nat → Nat → Nat → Text → Text → Except Fault Text
  | 0, _, _, _, _, base, _ => .ok base
  | fuel + 1, isFirst, code, place, bias, base, written =>
    if written = [] then .ok base
    else do
      let (delta, written) ← number bias 0 1 0 written
      let places := base.length + 1
      let code := code + (place + delta) / places
      if 0x10FFFF < code then throw (.outside code)
      else
        let place := (place + delta) % places
        let base := base.take place ++ [CodePoint.ofNat code] ++ base.drop place
        insertFrom fuel false code (place + 1) (adapt delta isFirst base.length) base written

/-- Reads bytes in Punycode. -/
def read (data : Bytes) : Except Fault Text := do
  let backwards := data.reverse
  let written := (backwards.takeWhile (· ≠ 0x2D)).reverse
  let base := (backwards.drop (written.length + 1)).reverse
  let base ← (readAscii 0 base).mapError .bytes
  let written ← (readAscii 0 written).mapError .bytes
  insertFrom written.length true 0x80 0 72 base written

/-- Reads labels in ASCII with points between them, the last of which may have more to come. -/
def readLabels (final : Bool) (data : Bytes) : Part := do
  let text ← readAscii 0 data
  let unfinished := if final then [] else text.reverse.takeWhile (· ≠ CodePoint.ofChar '.')
  let size := text.length - unfinished.length
  return (text.take size, data.drop size)

end Punycode

end Charset

end Localize
