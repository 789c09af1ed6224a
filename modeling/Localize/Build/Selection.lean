import Localize.Settings.Schema

/-!
# Which assets are rewritten

Settings select assets by parts of their names.  Leaving out wins over taking in, and an empty list
of what is to be taken in takes in nothing.
-/

set_option autoImplicit false

namespace Localize

namespace AssetSettings

/-- One of the parts stands in the name. -/
def matchesAny (parts : List Text) (name : Text) : Bool := parts.any fun part => part.contains name

/-- The asset of a name is to be rewritten. -/
def selects (s : AssetSettings) (name : Text) : Bool :=
  !(s.excluded.any (matchesAny · name)) && s.included.all (matchesAny · name)

end AssetSettings

end Localize
