import Localize.Value.Arguments

/-!
# Parts by name

Some things can be put together from outside, part by part, each part given by its name.  What is
put together says which parts it needs and which it may have (`Assembly.check`).
-/

set_option autoImplicit false

namespace Localize

/-- What can be put together from parts. -/
inductive Assembly
  | nugget
  | missingKey
  | assetResult
  | buildResult
  | report
deriving DecidableEq, Repr

namespace Assembly

/-- The name under which parts that do not fit are refused. -/
def name : Assembly → Text
  | nugget => "Nugget.__init__"
  | missingKey => "MissingTranslation.__init__"
  | assetResult => "AssetResult.__init__"
  | buildResult => "BuildResult.__init__"
  | report => "BuildReport.__init__"

/-- The parts that are needed. -/
def needed : Assembly → List Text
  | nugget => ["raw", "start", "end", "text", "key"]
  | missingKey => ["asset", "key", "locale"]
  | assetResult => ["name", "status"]
  | buildResult => ["locale", "catalog", "input_dir", "output_dir"]
  | report => [
    "locale", "catalog", "status", "duration_seconds", "assets_total", "assets_rewritten",
    "assets_skipped", "nuggets_found", "nuggets_translated"]

/-- The parts that may be left out. -/
def optional : Assembly → List Text
  | nugget => ["format_args", "comment"]
  | missingKey => []
  | assetResult => ["nuggets", "translated", "warnings"]
  | buildResult => ["duration_seconds", "assets"]
  | report => ["rewritten", "missing"]

/-- Checks the parts that are given. -/
def check (a : Assembly) (parts : Arguments) : Except ArgumentError Unit :=
  parts.check a.name a.needed a.optional

end Assembly

end Localize
