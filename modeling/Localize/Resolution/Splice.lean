import Localize.Nugget.Scan
import Localize.Resolution.Policy

/-!
# Localizing a text

Every nugget gives way to the text of its outcome, and every other code point stays where it is.
On the way the nuggets are counted, and those among them that got a wording, and the warnings are
gathered in the order of the nuggets.  A placeholder that cannot be read stops it.
-/

set_option autoImplicit false

namespace Localize

/-- A text with its nuggets resolved, and what happened to them. -/
structure Localized where
  text : Text
  nuggets : Nat
  translated : Nat
  warnings : List MissingKey
deriving DecidableEq, Repr

namespace Localized

/-- The empty stretch. -/
def nothing : Localized := ⟨[], 0, 0, []⟩

/-- Two stretches as one. -/
def append (r s : Localized) : Localized :=
  ⟨r.text ++ s.text, r.nuggets + s.nuggets, r.translated + s.translated,
    r.warnings ++ s.warnings⟩

instance : Append Localized := ⟨append⟩

end Localized

/-- Resolves one piece of a text. -/
def Piece.localize (p : Policy) (asset : Text) : Piece → Except OversizedPlaceholder Localized
  | .plain c => .ok ⟨[c], 0, 0, []⟩
  | .nugget n => do
    let (outcome, warning) ← p.resolve n asset
    return ⟨outcome.text, 1, if outcome.isTranslated then 1 else 0, warning.toList⟩

/-- Resolves pieces, from left to right. -/
def Policy.localizePieces (p : Policy) (asset : Text) :
    List Piece → Except OversizedPlaceholder Localized
  | [] => .ok .nothing
  | piece :: rest => do
    let first ← piece.localize p asset
    let others ← p.localizePieces asset rest
    return first ++ others

/-- Resolves the nuggets of a text in their places. -/
def Policy.localize (p : Policy) (text asset : Text) : Except OversizedPlaceholder Localized :=
  p.localizePieces asset (Nugget.scan text)

end Localize
