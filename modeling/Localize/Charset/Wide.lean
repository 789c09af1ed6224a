import Localize.Charset.Fault

/-!
# UTF-16 and UTF-32

Numbers of two or of four bytes, in one of two byte orders.  In UTF-16 a code point past the first
65536 is two numbers, the halves of a surrogate pair, and half a pair alone is an error; in UTF-32
it is an error in any case.

Bytes come in pieces.  What is left over at the end of a piece waits for the next one, unless the
piece is the last (`final`).
-/

set_option autoImplicit false

namespace Localize

namespace Charset

/-- A number by its bytes. -/
def numberOf (order : ByteOrder) (bytes : Bytes) : Nat :=
  let bytes :=
    match order with
    | .little => bytes.reverse
    | .big => bytes
  bytes.foldl (fun n b => n * 0x100 + b.toNat) 0

/-- The name of a charset with its byte order. -/
def orderedName (name : Text) : ByteOrder → Text
  | .little => name ++ "-le"
  | .big => name ++ "-be"

/-- Reads UTF-16 from a position on. -/
def readUtf16 (order : ByteOrder) (final : Bool) : Nat → Bytes → Part
  | _, [] => .ok ([], [])
  | pos, [a] =>
    if final then .error ⟨orderedName "utf-16" order, pos, a, 1, "truncated data"⟩
    else .ok ([], [a])
  | pos, a :: b :: rest =>
    let fault (count : Nat) (reason : Text) : Part :=
      .error ⟨orderedName "utf-16" order, pos, a, count, reason⟩
    let unit := numberOf order [a, b]
    if unit < 0xD800 ∨ 0xDFFF < unit then
      Part.cons (CodePoint.ofNat unit) (readUtf16 order final (pos + 2) rest)
    else if 0xDBFF < unit then fault 2 "illegal encoding"
    else
      match rest with
      | c :: d :: rest =>
        let low := numberOf order [c, d]
        if 0xDC00 ≤ low ∧ low ≤ 0xDFFF then
          Part.cons (CodePoint.ofNat (0x10000 + (unit - 0xD800) * 0x400 + (low - 0xDC00)))
            (readUtf16 order final (pos + 4) rest)
        else fault 2 "illegal UTF-16 surrogate"
      | rest =>
        if final then fault (2 + rest.length) "unexpected end of data"
        else .ok ([], a :: b :: rest)

/-- Reads UTF-32 from a position on. -/
def readUtf32 (order : ByteOrder) (final : Bool) : Nat → Bytes → Part
  | pos, a :: b :: c :: d :: rest =>
    let fault (reason : Text) : Part :=
      .error ⟨orderedName "utf-32" order, pos, a, 4, reason⟩
    let n := numberOf order [a, b, c, d]
    if 0xD800 ≤ n ∧ n ≤ 0xDFFF then
      fault "code point in surrogate code point range(0xd800, 0xe000)"
    else if 0x110000 ≤ n then fault "code point not in range(0x110000)"
    else Part.cons (CodePoint.ofNat n) (readUtf32 order final (pos + 4) rest)
  | pos, rest =>
    match final, rest with
    | true, a :: more =>
      .error ⟨orderedName "utf-32" order, pos, a, more.length + 1, "truncated data"⟩
    | _, rest => .ok ([], rest)

end Charset

end Localize
