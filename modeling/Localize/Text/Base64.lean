import Localize.Text.Utf8

/-!
# Base 64

Four letters write three bytes, six bits each.  Reading is lenient: what is no letter is passed
over, and so is a padding mark, unless it completes a group of at least two letters.  There the
bytes end, whatever follows.
-/

set_option autoImplicit false

namespace Localize

namespace Base64

/-- The six bits of the letter with a number. -/
def sextet? (n : Nat) : Option Nat :=
  if 0x41 ≤ n ∧ n ≤ 0x5A then some (n - 0x41)
  else if 0x61 ≤ n ∧ n ≤ 0x7A then some (n - 0x61 + 26)
  else if 0x30 ≤ n ∧ n ≤ 0x39 then some (n - 0x30 + 52)
  else if n = 0x2B then some 62
  else if n = 0x2F then some 63
  else none

/-- The whole bytes of a group of letters. -/
def bytesOf : List Nat → Bytes
  | a :: b :: rest =>
    UInt8.ofNat (a * 4 + b / 16) ::
      match rest with
      | [] => []
      | c :: rest =>
        UInt8.ofNat (b % 16 * 16 + c / 4) ::
          match rest with
          | [] => []
          | d :: _ => [UInt8.ofNat (c % 4 * 64 + d)]
  | _ => []

/-- The bytes of a text, after the letters of a group and a number of padding marks behind them;
none, if the text ends inside a group. -/
def decodeFrom : List Nat → Nat → Text → Option Bytes
  | group, _, [] => if group = [] then some [] else none
  | group, pads, c :: rest =>
    if c = '=' then
      if group.length < 2 then decodeFrom group pads rest
      else if 3 ≤ group.length + pads then some (bytesOf group)
      else decodeFrom group (pads + 1) rest
    else
      match sextet? c.val with
      | none => decodeFrom group pads rest
      | some six =>
        if group.length = 3 then do
          let more ← decodeFrom [] 0 rest
          return bytesOf (group ++ [six]) ++ more
        else decodeFrom (group ++ [six]) 0 rest

/-- The bytes of a text, if it is in ASCII. -/
def decode? (t : Text) : Option Bytes :=
  if t.all fun c => c.val < 0x80 then decodeFrom [] 0 t else none

end Base64

end Localize
