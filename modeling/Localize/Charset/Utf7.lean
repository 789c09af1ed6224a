import Localize.Charset.Fault
import Localize.Text.Base64

/-!
# UTF-7

A code point of ASCII stands for itself, except for the plus sign.  A plus sign opens a *shifted*
section, in which letters of base 64 write units of UTF-16, six bits each; a minus behind it belongs
to it.  A plus sign with a minus behind it is a plus sign.

A section that is not closed at the end of a piece is left over as a whole.
-/

set_option autoImplicit false

namespace Localize

namespace Charset

/-- A shifted section as far as it is read. -/
structure Shift where
  /-- Position of the plus sign. -/
  start : Nat
  opening : UInt8
  /-- The bytes read, the latest first. -/
  taken : Bytes
  /-- The code points read, the latest first. -/
  written : Text := []
  /-- The bits that make no unit yet, and how many they are. -/
  buffer : Nat := 0
  bits : Nat := 0
  /-- The first half of a surrogate pair. -/
  high : Option Nat := none

namespace Shift

/-- What is read, and the half of a pair that waits. -/
def flushed (s : Shift) : Text := (s.high.toList.map CodePoint.ofNat) ++ s.written

/-- A section after a unit. -/
def addUnit (s : Shift) (unit : Nat) : Shift :=
  match s.high with
  | some high =>
    if 0xDC00 ≤ unit ∧ unit ≤ 0xDFFF then
      let joined := 0x10000 + (high - 0xD800) * 0x400 + (unit - 0xDC00)
      { s with written := CodePoint.ofNat joined :: s.written, high := none }
    else if 0xD800 ≤ unit ∧ unit ≤ 0xDBFF then
      { s with written := s.flushed, high := some unit }
    else { s with written := CodePoint.ofNat unit :: s.flushed, high := none }
  | none =>
    if 0xD800 ≤ unit ∧ unit ≤ 0xDBFF then { s with high := some unit }
    else { s with written := CodePoint.ofNat unit :: s.written }

/-- A section after a letter. -/
def add (s : Shift) (b : UInt8) (six : Nat) : Shift :=
  let buffer := s.buffer * 0x40 + six
  let bits := s.bits + 6
  let s := { s with taken := b :: s.taken }
  if bits < 16 then { s with buffer, bits }
  else
    let rest := Nat.pow 2 (bits - 16)
    let s := s.addUnit (buffer / rest)
    { s with buffer := buffer % rest, bits := bits - 16 }

/-- Bits are left that do not make a unit. -/
def isPartial (s : Shift) : Bool := 6 ≤ s.bits

/-- Bits are left that should be zero and are not. -/
def isUnpadded (s : Shift) : Bool := 0 < s.bits && s.buffer ≠ 0

/-- What is wrong with a section, of which some more bytes than those of the section are counted. -/
def fault (s : Shift) (more : Nat) (reason : Text) : Part :=
  .error ⟨"utf7", s.start, s.opening, s.taken.length + more, reason⟩

/-- What is read and what is left over if a piece ends in a section. -/
def cut (s : Shift) (final : Bool) : Part :=
  if !final then .ok ([], s.taken.reverse)
  else if s.high.isSome ∨ s.isPartial ∨ s.isUnpadded then
    s.fault 0 "unterminated shift sequence"
  else .ok (s.written.reverse, [])

end Shift

/-- A section is opened and nothing is in it yet. -/
def Shift.isFresh (s : Shift) : Bool := s.taken.length = 1

/-- Reads UTF-7 from a position on, in a shifted section or outside. -/
def readUtf7 (final : Bool) : Nat → Option Shift → Bytes → Part
  | _, none, [] => .ok ([], [])
  | _, some s, [] => s.cut final
  | pos, none, b :: rest =>
    if b = 0x2B then
      readUtf7 final (pos + 1) (some { start := pos, opening := b, taken := [b] }) rest
    else if isAsciiByte b then
      Part.cons (CodePoint.ofNat b.toNat) (readUtf7 final (pos + 1) none rest)
    else .error ⟨"utf7", pos, b, 1, "unexpected special character"⟩
  | pos, some s, b :: rest =>
    match Base64.sextet? b.toNat with
    | some six => readUtf7 final (pos + 1) (some (s.add b six)) rest
    | none =>
      let plain := isAsciiByte b
      let written := (if plain then s.flushed else s.written).reverse
      if s.isFresh then
        if b = 0x2D then Part.cons '+' (readUtf7 final (pos + 1) none rest)
        else s.fault 1 "ill-formed sequence"
      else if s.isPartial then s.fault 1 "partial character in shift sequence"
      else if s.isUnpadded then s.fault 1 "non-zero padding bits in shift sequence"
      else if b = 0x2D then Part.prepend written (readUtf7 final (pos + 1) none rest)
      else if plain then
        Part.prepend (written ++ [CodePoint.ofNat b.toNat]) (readUtf7 final (pos + 1) none rest)
      else .error ⟨"utf7", pos, b, 1, "unexpected special character"⟩

end Charset

end Localize
