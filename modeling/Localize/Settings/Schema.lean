import Localize.Files.Path

/-!
# Settings

What a run is told, section by section, with the values that hold where nothing is said.  How a
document becomes settings, and what can be wrong with it, is in `Localize.Settings.Validate`.
-/

set_option autoImplicit false

namespace Localize

/-- How much is logged. -/
inductive LogLevel
  | debug
  | info
  | human
  | warn
  | error
deriving DecidableEq, Repr, Inhabited

namespace LogLevel

/-- The word for a level. -/
def name : LogLevel → Text
  | debug => "debug"
  | info => "info"
  | human => "human"
  | warn => "warn"
  | error => "error"

/-- All levels, the quietest last. -/
def all : List LogLevel := [debug, info, human, warn, error]

/-- The level a word stands for. -/
def ofName? (t : Text) : Option LogLevel := all.find? fun level => level.name = t

end LogLevel

/-- The catalog of the run's locale. -/
structure CatalogSettings where
  /-- Without a catalog nothing is translated. -/
  path : Option Path := none
  /-- Where the table is written down, if anywhere. -/
  lookupDir : Option Path := none
  includeFuzzy : Bool := false
deriving DecidableEq, Repr, Inhabited

/-- What becomes of nuggets without a wording. -/
structure NuggetSettings where
  removeBrackets : Bool := false
  warnOnMissing : Bool := true
deriving DecidableEq, Repr, Inhabited

/-- Which assets are rewritten, by parts of their names. -/
structure AssetSettings where
  excluded : Option (List Text) := none
  included : Option (List Text) := none
deriving DecidableEq, Repr, Inhabited

/-- Where assets are read and written. -/
structure BuildSettings where
  inputDir : Path := Path.ofText "dist"
  /-- Without an output directory assets are rewritten where they are. -/
  outputDir : Option Path := none
  /-- How many assets are worked on at a time. -/
  workers : Nat := 4
deriving DecidableEq, Repr, Inhabited

/-- What is logged, and where. -/
structure LoggingSettings where
  level : LogLevel := .human
  file : Option Path := none
  verbose : Int := 0
deriving DecidableEq, Repr, Inhabited

/-- What a run is told. -/
structure Settings where
  locale : Text := "default"
  catalog : CatalogSettings := {}
  nuggets : NuggetSettings := {}
  assets : AssetSettings := {}
  build : BuildSettings := {}
  logging : LoggingSettings := {}
deriving DecidableEq, Repr, Inhabited

end Localize
