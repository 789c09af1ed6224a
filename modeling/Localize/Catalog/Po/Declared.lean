import Localize.Charset.Name

/-!
# The charset that a catalog declares

The header of a catalog says what charset the catalog is in.  It has to be found in bytes that
cannot be read yet, so it is looked for in every line, byte by byte, and the first line that gives
the name of a charset counts.
-/

set_option autoImplicit false

namespace Localize

namespace Po

/-- A code point that the name of a charset may have. -/
def isNamePart (c : CodePoint) : Bool :=
  c.isLetter || c.isDigit || c = '_' || c = '-' || c = ':' || c = '.'

/-- The name of a charset that a line gives. -/
def declaredName? (line : Text) : Option Text := do
  let (_, rest) ← Text.breakOn "Content-Type:" line
  let stretches := Text.splitOn " charset=" (rest.drop 1)
  let names := (stretches.drop 1).map (·.takeWhile isNamePart)
  names.find? (· ≠ [])

/-- The charset of a catalog: the one it declares, or UTF-8. -/
def declaredCharset (bytes : Bytes) : Charset :=
  let lines := Text.splitOn "\n" (bytes.map fun b => CodePoint.ofNat b.toNat)
  (lines.findSome? fun line => declaredName? line >>= Charset.ofName?).getD .utf8

end Po

end Localize
