import Localize.Text.Basic

/-!
# UTF-8

Texts as bytes and back.  Both directions can fail and both say where.

* Writing fails at a surrogate: a run of them is one error, and its place counts code points.
* Reading fails at the first byte that no code point can have there.  The error covers the bytes of
  the code point read so far, the offending byte left out unless it is the first; its place counts
  bytes.

The encoding is the shortest one, so overlong forms are refused, as are forms of surrogates and of
numbers past the last code point: the range allowed for the second byte depends on the first
(`Utf8.lead?`).
-/

set_option autoImplicit false

namespace Localize

/-- Contents of a file. -/
abbrev Bytes := List UInt8

namespace Utf8

/-! ## Writing -/

/-- The bytes of a code point. -/
def encodeOne (c : CodePoint) : Bytes :=
  let n := c.val
  let tail (k : Nat) : UInt8 := UInt8.ofNat (0x80 + n / Nat.pow 0x40 k % 0x40)
  if n < 0x80 then [UInt8.ofNat n]
  else if n < 0x800 then [UInt8.ofNat (0xC0 + n / 0x40), tail 0]
  else if n < 0x10000 then [UInt8.ofNat (0xE0 + n / 0x1000), tail 1, tail 0]
  else [UInt8.ofNat (0xF0 + n / 0x40000), tail 2, tail 1, tail 0]

/-- A run of surrogates in a text that was to be written. -/
structure EncodeError where
  /-- Position of the first of them. -/
  start : Nat
  first : CodePoint
  count : Nat
deriving DecidableEq, Repr

/-- The bytes of a text that begins at a position. -/
def encodeFrom : Nat → Text → Except EncodeError Bytes
  | _, [] => .ok []
  | pos, c :: t =>
    if c.isSurrogate then
      .error ⟨pos, c, ((c :: t).takeWhile CodePoint.isSurrogate).length⟩
    else do
      let rest ← encodeFrom (pos + 1) t
      return encodeOne c ++ rest

/-- The bytes of a text. -/
def encode (t : Text) : Except EncodeError Bytes := encodeFrom 0 t

/-- The bytes of a text, surrogates left out. -/
def encodeLossy (t : Text) : Bytes := (t.filter (!·.isSurrogate)).flatMap encodeOne

/-- How a message shows a code point that cannot be written. -/
def codeText (c : CodePoint) : Text :=
  if c.val < 0x10000 then "\\u" ++ Text.hex 4 c.val else "\\U" ++ Text.hex 8 c.val

/-- What is said of a text that cannot be written. -/
def EncodeError.message (e : EncodeError) : Text :=
  if e.count = 1 then
    "'utf-8' codec can't encode character '" ++ codeText e.first ++ "' in position "
      ++ Text.ofNat e.start ++ ": surrogates not allowed"
  else
    "'utf-8' codec can't encode characters in position " ++ Text.ofNat e.start ++ "-"
      ++ Text.ofNat (e.start + e.count - 1) ++ ": surrogates not allowed"

/-! ## Reading -/

/-- What is wrong with a byte sequence. -/
inductive Fault
  | start
  | continuation
  | truncated
deriving DecidableEq, Repr

/-- Bytes that stand for no code point. -/
structure DecodeError where
  /-- Position of the first of them. -/
  start : Nat
  first : UInt8
  count : Nat
  fault : Fault
deriving DecidableEq, Repr

/-- What a first byte announces: how many bytes follow, the range of the second, and the bits the
first byte contributes. -/
structure Lead where
  follow : Nat
  low : Nat
  high : Nat
  bits : Nat

/-- The first bytes there are. -/
def lead? (b : UInt8) : Option Lead :=
  let n := b.toNat
  if n < 0x80 then some ⟨0, 0x80, 0xBF, n⟩
  else if n < 0xC2 then none
  else if n < 0xE0 then some ⟨1, 0x80, 0xBF, n - 0xC0⟩
  else if n = 0xE0 then some ⟨2, 0xA0, 0xBF, 0⟩
  else if n = 0xED then some ⟨2, 0x80, 0x9F, 0xD⟩
  else if n < 0xF0 then some ⟨2, 0x80, 0xBF, n - 0xE0⟩
  else if n = 0xF0 then some ⟨3, 0x90, 0xBF, 0⟩
  else if n < 0xF4 then some ⟨3, 0x80, 0xBF, n - 0xF0⟩
  else if n = 0xF4 then some ⟨3, 0x80, 0x8F, 4⟩
  else none

/-- Reads the bytes that follow a first one: the number they complete, or what is wrong and how
many bytes were read so far. -/
def follow : Nat → Nat → Nat → Nat → Nat → Bytes → Except (Fault × Nat) Nat
  | 0, _, _, bits, _, _ => .ok bits
  | _ + 1, _, _, _, taken, [] => .error (.truncated, taken)
  | owed + 1, low, high, bits, taken, b :: rest =>
    if low ≤ b.toNat ∧ b.toNat ≤ high then
      follow owed 0x80 0xBF (bits * 0x40 + (b.toNat - 0x80)) (taken + 1) rest
    else .error (.continuation, taken)

/-- The code point that bytes begin with, and how many bytes follow its first. -/
def first (b : UInt8) (rest : Bytes) : Except (Fault × Nat) (CodePoint × Nat) :=
  match lead? b with
  | none => .error (.start, 1)
  | some lead => do
    let n ← follow lead.follow lead.low lead.high lead.bits 1 rest
    return (CodePoint.ofNat n, lead.follow)

/-- The text of bytes that begin at a position, of which the first `skip` are already read. -/
def decodeFrom : Nat → Nat → Bytes → Except DecodeError Text
  | _, _, [] => .ok []
  | pos, skip + 1, _ :: rest => decodeFrom (pos + 1) skip rest
  | pos, 0, b :: rest =>
    match first b rest with
    | .error (fault, count) => .error ⟨pos, b, count, fault⟩
    | .ok (c, more) => do
      let t ← decodeFrom (pos + 1) more rest
      return c :: t

/-- The text of bytes. -/
def decode (bytes : Bytes) : Except DecodeError Text := decodeFrom 0 0 bytes

/-- The byte order mark. -/
def mark : Bytes := [0xEF, 0xBB, 0xBF]

/-- The text of bytes after a byte order mark, if there is one; places count from behind it. -/
def decodeMarked (bytes : Bytes) : Except DecodeError Text :=
  match bytes with
  | 0xEF :: 0xBB :: 0xBF :: rest => decode rest
  | _ => decode bytes

/-- The words for a fault. -/
def Fault.message : Fault → Text
  | start => "invalid start byte"
  | continuation => "invalid continuation byte"
  | truncated => "unexpected end of data"

/-- What is said of bytes that stand for no text. -/
def DecodeError.message (e : DecodeError) : Text :=
  if e.count = 1 then
    "'utf-8' codec can't decode byte 0x" ++ Text.hex 2 e.first.toNat ++ " in position "
      ++ Text.ofNat e.start ++ ": " ++ e.fault.message
  else
    "'utf-8' codec can't decode bytes in position " ++ Text.ofNat e.start ++ "-"
      ++ Text.ofNat (e.start + e.count - 1) ++ ": " ++ e.fault.message

end Utf8

end Localize
