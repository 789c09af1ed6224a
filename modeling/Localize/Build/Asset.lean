import Localize.Build.Event
import Localize.Build.Selection
import Localize.Catalog.Ingest
import Localize.Resolution.Splice

/-!
# Assets

The assets of a build are the files below its input directory, named by their paths from there on.
If the output directory lies inside the input directory, what is in it is output and no asset.

`processAsset` works on one asset without writing anything.  It gives what it has to log and what
becomes of the asset; a failure comes with what was logged before it.
-/

set_option autoImplicit false

namespace Localize

/-- Why a build fails. -/
inductive BuildError
  | catalog (cause : CatalogError)
  | noInput (path : Path)
  | unreadable (asset : Text) (cause : FileError)
  | unwritable (asset : Text) (cause : FileError)
  /-- A placeholder of a nugget cannot be read. -/
  | placeholder (cause : OversizedPlaceholder)
  /-- A text cannot be written as bytes. -/
  | unencodable (cause : Utf8.EncodeError)
  /-- Something else about a file. -/
  | file (cause : FileError)
deriving DecidableEq, Repr

/-- The failure of a build by a failed operation on a file.  If the system could not be asked, it is
not put down to what the operation was for. -/
def BuildError.ofFile (wrap : FileError → BuildError) (e : FileError) : BuildError :=
  if e.isUnaskable then .file e else wrap e

/-- What is said of a build that fails. -/
def BuildError.message : BuildError → Text
  | catalog cause => cause.message
  | noInput path => "Input directory not found: " ++ path.toText
  | unreadable asset cause => "Could not read asset " ++ asset ++ ": " ++ cause.message
  | unwritable asset cause => "Could not write asset " ++ asset ++ ": " ++ cause.message
  | placeholder cause => cause.message
  | unencodable cause => cause.message
  | file cause => cause.message

namespace Settings

/-! ## Directories -/

/-- The directory that assets are read from. -/
def inputDir (s : Settings) : Path := s.build.inputDir

/-- The directory that assets are written to. -/
def outputDir (s : Settings) : Path := s.build.outputDir.getD s.build.inputDir

/-- Assets are written where they are read. -/
def inPlace (s : Settings) (cwd : Location) : Bool :=
  s.outputDir.resolve cwd = s.inputDir.resolve cwd

/-- The path of an asset in a directory. -/
def assetPath (directory : Path) (name : Text) : Path := directory.join (Path.ofText name)

/-- Assets are written where they are read, as far as the system can be asked about it. -/
def inPlace? (s : Settings) (cwd : Location) : Except FileError Bool := do
  s.outputDir.checkAskable
  s.inputDir.checkAskable
  return s.inPlace cwd

/-- A place is output and holds no asset. -/
def isOutput (s : Settings) (cwd place : Location) : Bool :=
  !s.inPlace cwd && (s.outputDir.resolve cwd).isUnder place

/-- The name of an asset by the names of its directories and its own. -/
def assetName (names : Location) : Text := Text.join Path.slash names

/-- The names of the assets, ordered directory by directory.  A system breaks its search off where it
does not take a path, or where directories lie too deep inside one another; this one does not. -/
def assetNames (s : Settings) (tree : Tree) : Except FileError (List Text) := do
  s.outputDir.checkAskable
  let below ←
    match tree.isDirectory s.inputDir, tree.locate s.inputDir with
    | .error e, _ => throw e
    | .ok true, .ok place => pure (tree.filesUnder place)
    | _, _ => pure []
  let input := s.inputDir.resolve tree.cwd
  return (below.filter fun names => !s.isOutput tree.cwd (input ++ names)).map assetName

end Settings

/-! ## Working on one asset -/

/-- The end of the name of a source map. -/
def sourceMapSuffix : Text := ".map"

/-- The keys of nuggets that are found without a wording, up to one whose outcome fails. -/
def Policy.missesOf (p : Policy) (asset : Text) : List Nugget → List MissingKey
  | [] => []
  | n :: rest =>
    (p.warning? n.key asset).toList ++
      (match p.outcome n with
       | .ok _ => p.missesOf asset rest
       | .error _ => [])

/-- What becomes of an asset, and its new text if it has one. -/
structure Processed where
  result : AssetResult
  text : Option Text
deriving DecidableEq, Repr

/-- What becomes of an asset that is text. -/
def processText (p : Policy) (name text : Text) : Except BuildError Processed :=
  match p.localize text name with
  | .error e => .error (.placeholder e)
  | .ok r =>
    let changed := r.text ≠ text
    .ok
      { result :=
          { name, status := if changed then .rewritten else .unchanged, nuggets := r.nuggets,
            translated := r.translated, warnings := r.warnings }
        text := if changed then some r.text else none }

/-- Works on one asset: what there is to log, and what becomes of it. -/
def processAsset (s : Settings) (p : Policy) (tree : Tree) (name : Text) :
    List Record × Except BuildError Processed :=
  if Text.endsWith sourceMapSuffix name then ([], .ok ⟨{ name, status := .sourceMap }, none⟩)
  else if !s.assets.selects name then
    ([BuildEvent.assetSkipped s.locale name], .ok ⟨{ name, status := .skipped }, none⟩)
  else
    match tree.readFile (Settings.assetPath s.inputDir name) with
    | .error e => ([], .error (.ofFile (.unreadable name) e))
    | .ok bytes =>
      match Utf8.decode bytes with
      | .error _ => ([], .ok ⟨{ name, status := .binary }, none⟩)
      | .ok text =>
        let nuggets := (Nugget.nuggets text).map (·.nugget)
        ((p.missesOf name nuggets).map BuildEvent.nuggetMissing, processText p name text)

end Localize
