import Localize.Build.Result
import Localize.Log.Record

/-!
# Events of a build

What a build logs.  Some events are for people and tell what it does; the others are for those who
look into it.
-/

set_option autoImplicit false

namespace Localize

namespace BuildEvent

/-! ## For people -/

/-- An event for people. -/
def told (name : Text) (fields : Arguments) : Record :=
  ⟨"easyi18n.build", Level.human, .event name fields⟩

/-- The build has no catalog. -/
def defaultPass (locale : Text) : Record :=
  told "catalog.default_pass" [("locale", .text locale)]

/-- The catalog has become a table. -/
def catalogLoaded (path : Text) (entries : Nat) : Record :=
  told "catalog.loaded" [("path", .text path), ("entries", .int entries)]

/-- The table was written down. -/
def lookupWritten (path : Text) : Record :=
  told "catalog.lookup_written" [("path", .text path)]

/-- An asset was rewritten. -/
def assetRewritten (a : AssetResult) : Record :=
  told "asset.rewritten"
    [("asset", .text a.name), ("nuggets", .int a.nuggets), ("translated", .int a.translated)]

/-- A wording is missing. -/
def missing (m : MissingKey) : Record :=
  told "translation.missing"
    [("asset", .text m.asset), ("key", .text m.key), ("locale", .text m.locale)]

/-- The build is at its end. -/
def complete (b : BuildResult) : Record :=
  told "build.complete"
    [("assets", .int b.assets.length), ("rewritten", .int b.rewritten.length),
      ("warnings", .int b.warnings.length)]

/-! ## For those who look into it -/

/-- A catalog was read. -/
def catalogParsed (locale : Text) (entries skipped : Nat) : Record :=
  ⟨"easyi18n.catalog.gettext", Level.debug, .event "catalog.gettext.parsed"
    [("locale", .text locale), ("entries", .int entries), ("skipped", .int skipped)]⟩

/-- A catalog was loaded from its file. -/
def tableLoaded (locale path : Text) (entries : Nat) : Record :=
  ⟨"easyi18n.catalog.base", Level.info, .event "catalog.loaded"
    [("locale", .text locale), ("path", .text path), ("entries", .int entries)]⟩

/-- A table was written to its file. -/
def tableWritten (locale path : Text) : Record :=
  ⟨"easyi18n.catalog.base", Level.info, .event "catalog.lookup_written"
    [("locale", .text locale), ("path", .text path)]⟩

/-- A nugget has no wording. -/
def nuggetMissing (m : MissingKey) : Record :=
  ⟨"easyi18n.nuggets.resolver", Level.debug, .event "nugget.missing"
    [("asset", .text m.asset), ("key", .text m.key), ("locale", .text m.locale)]⟩

/-- An event of the build as a whole. -/
def ofBuild (locale : Text) (level : Int) (name : Text) (fields : Arguments) : Record :=
  ⟨"easyi18n.assets.runner", level,
    .event name (("component", .text "build_runner") :: ("locale", .text locale) :: fields)⟩

/-- The settings leave an asset out. -/
def assetSkipped (locale asset : Text) : Record :=
  ofBuild locale Level.debug "asset.skipped" [("asset", .text asset)]

/-- The assets are known. -/
def started (locale : Text) (assets : Nat) (inPlace : Bool) : Record :=
  ofBuild locale Level.info "build.start" [("assets", .int assets), ("in_place", .bool inPlace)]

/-- The build is at its end. -/
def finished (b : BuildResult) : Record :=
  ofBuild b.locale Level.info "build.complete"
    [("assets", .int b.assets.length), ("rewritten", .int b.rewritten.length),
      ("nuggets", .int b.nuggets), ("translated", .int b.translated),
      ("warnings", .int b.warnings.length), ("duration", b.duration.rounded.toValue)]

/-- A report was written. -/
def reportWritten (path : Text) : Record :=
  ⟨"easyi18n.features.report", Level.info, .event "report.written" [("path", .text path)]⟩

end BuildEvent

end Localize
