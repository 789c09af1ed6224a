import Localize.Text.Basic

/-!
# Escapes in wordings

A wording is spliced into a quoted literal of the built asset, so its backslashes and quotes
have to be escaped (`embed`).  Catalogs that were extracted from compiled assets may already hold
escapes of their own, `\u2019` for an apostrophe; embedding those would double the backslash and
show the escape to the reader.  `decode` therefore restores the code points first, and `forSplice`
is the two in order.

`decode` reads two forms, `\u` with four hexadecimal digits and `\x` with two.  A backslash right
after a backslash never begins one, whatever came of the first.  Two `\u` escapes that are the
halves of a surrogate pair make one code point; half a pair alone makes a lone surrogate.
-/

set_option autoImplicit false

namespace Localize

namespace Escape

/-- The number that hexadecimal digits stand for. -/
def hexValue? (digits : Text) : Option Nat :=
  (digits.mapM CodePoint.hexDigit?).map (Text.numeral 16)

/-- The code point an escape stands for, given what follows its backslash, and how many code
points the escape takes up after the backslash. -/
def afterBackslash? : Text → Option (CodePoint × Nat)
  | 0x75 :: a :: b :: c :: d :: rest => do
    let unit ← hexValue? [a, b, c, d]
    let pair : Option (CodePoint × Nat) :=
      match rest with
      | 0x5C :: 0x75 :: e :: f :: g :: h :: _ => do
        let low ← hexValue? [e, f, g, h]
        if 0xD800 ≤ unit ∧ unit ≤ 0xDBFF ∧ 0xDC00 ≤ low ∧ low ≤ 0xDFFF then
          some (CodePoint.ofNat (0x10000 + (unit - 0xD800) * 0x400 + (low - 0xDC00)), 11)
        else none
      | _ => none
    return pair.getD (CodePoint.ofNat unit, 5)
  | 0x78 :: a :: b :: _ => do
    let unit ← hexValue? [a, b]
    return (CodePoint.ofNat unit, 3)
  | _ => none

/-- Decodes a text of which the first `skip` code points belong to an escape already decoded;
`shielded` says that a backslash stands right before the text. -/
def decodeFrom : Nat → Bool → Text → Text
  | _, _, [] => []
  | skip + 1, _, c :: t => decodeFrom skip (c = '\\') t
  | 0, shielded, c :: t =>
    if c = '\\' ∧ shielded = false then
      match afterBackslash? t with
      | some (code, taken) => code :: decodeFrom taken true t
      | none => c :: decodeFrom 0 true t
    else c :: decodeFrom 0 (c = '\\') t

/-- Puts the code points that `\u` and `\x` escapes stand for in their place. -/
def decode (t : Text) : Text := decodeFrom 0 false t

/-- How one code point is written inside a quoted literal. -/
def embedOne (c : CodePoint) : Text :=
  if c = '\\' ∨ c = '\'' ∨ c = '"' then ['\\', c] else [c]

/-- Puts a backslash before every backslash and quote. -/
def embed (t : Text) : Text := t.flatMap embedOne

/-- Makes a wording ready to stand in a quoted literal. -/
def forSplice (t : Text) : Text := embed (decode t)

end Escape

end Localize
