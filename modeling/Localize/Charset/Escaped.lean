import Localize.Charset.Step

/-!
# Latin 1 with escapes

Bytes are code points, as in Latin 1, and a backslash writes others: by a number in hexadecimal, or,
unless the charset is the *raw* one, by a number in octal or by a letter.  A backslash in front of
anything else stands for itself.  Names of code points are not known.
-/

set_option autoImplicit false

namespace Localize

namespace Charset

namespace Escaped

/-- The code point of a byte. -/
def codeOf (b : UInt8) : CodePoint := CodePoint.ofNat b.toNat

/-- What a letter after a backslash stands for. -/
def letter? (c : CodePoint) : Option Text :=
  match c.toChar? with
  | some '\n' => some []
  | some '\\' => some [0x5C]
  | some '\'' => some [0x27]
  | some '"' => some [0x22]
  | some 'b' => some [0x08]
  | some 'f' => some [0x0C]
  | some 't' => some [0x09]
  | some 'n' => some [0x0A]
  | some 'r' => some [0x0D]
  | some 'v' => some [0x0B]
  | some 'a' => some [0x07]
  | _ => none

/-- How many digits a letter after a backslash asks for. -/
def width? (raw : Bool) (c : CodePoint) : Option Nat :=
  if c = 'x' ∧ !raw then some 2
  else if c = 'u' then some 4
  else if c = 'U' then some 8
  else none

/-- What is said if there are fewer digits than a letter asks for. -/
def truncated (c : CodePoint) (width : Nat) : Text :=
  "truncated \\" ++ [c] ++ List.replicate width (CodePoint.ofChar 'X') ++ " escape"

/-- What a number in hexadecimal stands for, after a backslash and a letter. -/
def numeral (raw : Bool) (c : CodePoint) (width : Nat) (rest : Bytes) : Step :=
  let written := (rest.take width).map codeOf
  let digits := written.takeWhile CodePoint.isHexDigit
  if digits.length = width then
    let n := Text.numeral 16 (digits.filterMap CodePoint.hexDigit?)
    if n < 0x110000 then .read [CodePoint.ofNat n] (width + 2)
    else
      .illegal (width + 2) (if raw then "\\Uxxxxxxxx out of range" else "illegal Unicode character")
  else if digits.length < written.length then .illegal (digits.length + 2) (truncated c width)
  else .short (truncated c width)

/-- A code point by its name, after a backslash and a letter. -/
def named (rest : Bytes) : Step :=
  let malformed : Text := "malformed \\N character escape"
  match rest with
  | [] => .short malformed
  | 0x7B :: rest =>
    let name := rest.takeWhile (· ≠ 0x7D)
    if name.length = rest.length then .short malformed
    else if name = [] then .illegal 3 malformed
    else .illegal (name.length + 4) "unknown Unicode character name"
  | _ => .illegal 2 malformed

/-- A byte that is a digit in octal. -/
def isOctal (b : UInt8) : Bool := 0x30 ≤ b.toNat && b.toNat ≤ 0x37

/-- What a backslash and the byte behind it begin. -/
def afterBackslash (raw : Bool) (b : UInt8) (rest : Bytes) : Step :=
  let c := codeOf b
  match width? raw c, raw with
  | some width, _ => numeral raw c width rest
  | none, true => .read [0x5C, c] 2
  | none, false =>
    if c = 'N' then named rest
    else if isOctal b then
      let digits := b :: (rest.take 2).takeWhile isOctal
      let n := Text.numeral 8 (digits.map fun d => d.toNat - 0x30)
      .read [CodePoint.ofNat n] (digits.length + 1)
    else .read ((letter? c).getD [0x5C, c]) 2

/-- What bytes begin with. -/
def step (raw final : Bool) (b : UInt8) (rest : Bytes) : Step :=
  if b = 0x5C then
    match rest with
    | c :: rest => afterBackslash raw c rest
    | [] => if raw ∧ final then .read [0x5C] 1 else .short "\\ at end of string"
  else .read [codeOf b] 1

/-- Reads Latin 1 with escapes. -/
def read (raw final : Bool) (data : Bytes) : Part :=
  readPlainSteps (if raw then "rawunicodeescape" else "unicodeescape") final (step raw final) data

end Escaped

end Charset

end Localize
