import Localize.Text.Utf8

/-!
# What can be wrong with bytes

A charset is a way to write a text as bytes.  Bytes that are said to be in one may stand for no code
point, or for one that there is not.
-/

set_option autoImplicit false

namespace Localize

/-- The order of the bytes of a number. -/
inductive ByteOrder
  | little
  | big
deriving DecidableEq, Repr

namespace Charset

/-- Bytes that stand for no code point. -/
structure DecodeError where
  /-- The name that the charset has in messages. -/
  charset : Text
  /-- Position of the first of the bytes. -/
  start : Nat
  first : UInt8
  count : Nat
  reason : Text
deriving DecidableEq, Repr

/-- Why bytes are not read as a text. -/
inductive Fault
  | bytes (error : DecodeError)
  /-- The byte order mark is missing that a charset of this name begins with. -/
  | unmarked (charset : Text)
  /-- A code point that should be a digit of a number. -/
  | notDigit (c : CodePoint)
  /-- A number without an end. -/
  | unfinished
  /-- A number that is past the last code point. -/
  | outside (number : Nat)
  /-- Nothing can be read in the charset. -/
  | undefined
deriving DecidableEq, Repr

/-- What is said of bytes that stand for no code point. -/
def DecodeError.message (e : DecodeError) : Text :=
  let opening := "'" ++ e.charset ++ "' codec can't decode "
  if e.count = 1 then
    opening ++ "byte 0x" ++ Text.hex 2 e.first.toNat ++ " in position " ++ Text.ofNat e.start
      ++ ": " ++ e.reason
  else
    opening ++ "bytes in position " ++ Text.ofNat e.start ++ "-"
      ++ Text.ofNat (e.start + e.count - 1) ++ ": " ++ e.reason

/-- What is said of bytes that are not read as a text. -/
def Fault.message : Fault → Text
  | bytes error => error.message
  | unmarked charset => charset ++ " stream does not start with BOM"
  | notDigit c => "Invalid extended code point '" ++ [c] ++ "'"
  | unfinished => "incomplete punicode string"
  | outside number => "Invalid character U+" ++ Text.hex 1 number
  | undefined => "undefined encoding"

/-- What bytes in UTF-8 stand for no code point. -/
def DecodeError.ofUtf8 (e : Utf8.DecodeError) : DecodeError :=
  ⟨"utf-8", e.start, e.first, e.count, e.fault.message⟩

/-- What bytes come to: a text, and the bytes that are left over. -/
abbrev Part := Except DecodeError (Text × Bytes)

/-- A code point in front of what the rest comes to. -/
def Part.cons (c : CodePoint) (p : Part) : Part := p.map fun (t, rest) => (c :: t, rest)

/-- A text in front of what the rest comes to. -/
def Part.prepend (t : Text) (p : Part) : Part := p.map fun (u, rest) => (t ++ u, rest)

/-- A byte of ASCII. -/
def isAsciiByte (b : UInt8) : Bool := b.toNat < 0x80

end Charset

end Localize
