import Localize.Build.Asset
import Localize.Log.Sinks
import Localize.Report

/-!
# Running a build

A build first gets its table, then finds its assets, then works on all of them, and only then
writes.  So a failure before the first asset is written leaves all assets as they were.

Several workers may share the assets.  In which order their tasks are done is not for the build to
say; it is given as a *schedule*, and the results are put back into the order of the assets.  The
workers do not know what is known of the run: what they log comes without it.  If some assets fail,
all are worked on nevertheless, and the build fails as the first of them in the schedule did.

A run is a computation on a `Run`: the tree, where records go, and what has been shown and logged
so far.  A run that fails keeps all of these.
-/

set_option autoImplicit false

namespace Localize

/-- The order in which tasks are done, for every number of tasks. -/
structure Schedule where
  order : Nat → List Nat
  perm : ∀ n, (order n).Perm (List.range n)

/-- One task after the other. -/
def Schedule.inOrder : Schedule := ⟨List.range, fun _ => .refl _⟩

/-- A record that was logged, and what was known of the run where it was. -/
structure Logged where
  record : Record
  context : Arguments

/-- A run so far. -/
structure Run where
  tree : Tree
  sinks : Sinks := {}
  /-- The time that is written into logs. -/
  time : Text := []
  /-- What has been shown. -/
  shown : Text := []
  trace : List Logged := []

/-- A computation of a run, which may fail. -/
abbrev Build (α : Type) := ExceptT BuildError (StateM Run) α

namespace Build

/-! ## Logging -/

/-- A run after a record is logged, with or without what is known of the run. -/
def logTo (known : Bool) (r : Record) (run : Run) : Run :=
  let sinks := if known then run.sinks else { run.sinks with context := [] }
  let (shown, tree) := sinks.emit run.time r run.tree
  { run with tree, shown := run.shown ++ shown, trace := run.trace ++ [⟨r, sinks.context⟩] }

/-- Logs a record. -/
def log (r : Record) : Build Unit := modify (logTo true r)

/-- Changes the tree, or fails. -/
def change (wrap : FileError → BuildError) (f : Tree → Except FileError Tree) : Build Unit := do
  match f (← get).tree with
  | .ok tree => modify fun run => { run with tree }
  | .error e => throw (.ofFile wrap e)

/-- Makes a directory and those it lies in. -/
def makeDirectories (wrap : FileError → BuildError) (p : Path) : Build Unit := do
  let (outcome, tree) := (← get).tree.makeDirectories p
  modify fun run => { run with tree }
  match outcome with
  | .ok () => return
  | .error e => throw (.ofFile wrap e)

/-! ## The table -/

/-- Reads the table of a locale from its catalog. -/
def loadTable (locale : Text) (path : Path) (includeFuzzy : Bool) : Build Table := do
  let tree := (← get).tree
  match tree.readFile path with
  | .error e => throw (.ofFile (fun e => .catalog (.unreadable path.toText e)) e)
  | .ok bytes =>
    match Catalog.ingest locale includeFuzzy bytes tree.fileNamed? with
    | .error e => throw (.catalog e)
    | .ok r =>
      log (BuildEvent.catalogParsed locale r.table.size r.skipped)
      log (BuildEvent.tableLoaded locale path.toText r.table.size)
      return r.table

/-- Writes a text to a file.  The file is emptied before the text becomes bytes. -/
def writeText (wrap : FileError → BuildError) (path : Path) (t : Text) : Build Unit := do
  change wrap (·.writeFile path [])
  match Utf8.encode t with
  | .error e => throw (.unencodable e)
  | .ok bytes => change wrap (·.writeFile path bytes)

/-- Writes the table of a locale to its file in a directory. -/
def writeTable (locale : Text) (table : Table) (directory : Path) : Build Path := do
  let target := Catalog.lookupTarget locale directory
  let wrap (e : FileError) : BuildError := .catalog (.lookupUnwritable target.toText e)
  makeDirectories wrap directory
  writeText wrap target (Catalog.lookupText table)
  log (BuildEvent.tableWritten locale target.toText)
  return target

/-- Gets the table, if there is a catalog, and with it the policy. -/
def loadPolicy (s : Settings) : Build Policy := do
  let table ←
    match s.catalog.path with
    | none => do
      log (BuildEvent.defaultPass s.locale)
      pure none
    | some path => do
      let table ← loadTable s.locale path s.catalog.includeFuzzy
      log (BuildEvent.catalogLoaded path.toText table.size)
      match s.catalog.lookupDir with
      | none => pure ()
      | some directory =>
        let target ← writeTable s.locale table directory
        log (BuildEvent.lookupWritten target.toText)
      pure (some table)
  return {
    table, locale := s.locale, removeBrackets := s.nuggets.removeBrackets,
    warnOnMissing := s.nuggets.warnOnMissing }

/-! ## Working on assets -/

/-- Works on an asset; its outcome may be a failure, but this does not fail. -/
def attempt (s : Settings) (p : Policy) (known : Bool) (name : Text) :
    Build (Except BuildError Processed) := do
  let (records, outcome) := processAsset s p (← get).tree name
  modify fun run => records.foldl (fun run r => logTo known r run) run
  return outcome

/-- Works on assets one after the other, up to the first that fails. -/
def processInOrder (s : Settings) (p : Policy) : List Text → Build (List Processed)
  | [] => return []
  | name :: rest => do
    match ← attempt s p true name with
    | .error e => throw e
    | .ok first => return first :: (← processInOrder s p rest)

/-- Works on the assets of a list of numbers, all of them. -/
def attemptAll (s : Settings) (p : Policy) (names : List Text) :
    List Nat → Build (List (Nat × Except BuildError Processed))
  | [] => return []
  | i :: rest => do
    let outcome ← attempt s p false (names[i]?.getD [])
    return (i, outcome) :: (← attemptAll s p names rest)

/-- Outcomes in the order in which they came, if none of them is a failure. -/
def succeeded : List (Nat × Except BuildError Processed) →
    Except BuildError (List (Nat × Processed))
  | [] => .ok []
  | (i, outcome) :: rest => do
    let first ← outcome
    return (i, first) :: (← succeeded rest)

/-- Works on assets by several workers. -/
def processScheduled (s : Settings) (p : Policy) (schedule : Schedule) (names : List Text) :
    Build (List Processed) := do
  let outcomes ← attemptAll s p names (schedule.order names.length)
  match succeeded outcomes with
  | .error e => throw e
  | .ok done => return (List.range names.length).filterMap fun i => done.lookup i

/-- Works on all assets. -/
def processAll (s : Settings) (p : Policy) (schedule : Schedule) (names : List Text) :
    Build (List Processed) :=
  if s.build.workers = 1 ∨ names.length ≤ 1 then processInOrder s p names
  else processScheduled s p schedule names

/-! ## Writing -/

/-- Writes an asset that has a new text; carries any other over, unless it is there already. -/
def write (s : Settings) (asset : Processed) : Build Unit := do
  let name := asset.result.name
  let wrap : FileError → BuildError := .unwritable name
  let target := Settings.assetPath s.outputDir name
  match asset.text with
  | some t =>
    makeDirectories wrap target.parent
    match Utf8.encode t with
    | .error e => throw (.unencodable e)
    | .ok bytes =>
      change wrap (·.writeFile target bytes)
      log (BuildEvent.assetRewritten asset.result)
  | none =>
    if s.inPlace (← get).tree.cwd then return
    else
      makeDirectories wrap target.parent
      change wrap (·.copyFile (Settings.assetPath s.inputDir name) target)

/-- Writes assets one after the other. -/
def writeAll (s : Settings) : List Processed → Build Unit
  | [] => return
  | asset :: rest => do
    write s asset
    writeAll s rest

/-! ## The run -/

/-- The result of a build. -/
def resultOf (s : Settings) (duration : Binary64) (processed : List Processed) : BuildResult where
  locale := s.locale
  catalog := s.catalog.path.map (·.toText)
  inputDir := s.inputDir.toText
  outputDir := s.outputDir.toText
  duration := .exact duration
  assets := processed.map (·.result)

/-- Logs records one after the other. -/
def logAll : List Record → Build Unit
  | [] => return
  | r :: rest => do
    log r
    logAll rest

/-- Runs a build that takes a time. -/
def run (s : Settings) (schedule : Schedule) (duration : Binary64) : Build BuildResult := do
  match (← get).tree.isDirectory s.inputDir with
  | .error e => throw (.file e)
  | .ok false => throw (.noInput s.inputDir)
  | .ok true =>
    let policy ← loadPolicy s
    let tree := (← get).tree
    match s.assetNames tree with
    | .error e => throw (.file e)
    | .ok names =>
      log (BuildEvent.started s.locale names.length (s.inPlace tree.cwd))
      let processed ← processAll s policy schedule names
      writeAll s processed
      let result := resultOf s duration processed
      logAll (result.warnings.map BuildEvent.missing)
      log (BuildEvent.complete result)
      log (BuildEvent.finished result)
      return result

/-! ## The report -/

/-- The text of a report in the format that goes with its file.  A report of a build has all the
cells that are shown, so it always has a text. -/
def reportText (report : Report) (path : Path) : Text :=
  match report.render (.ofFile path) with
  | .ok t => t
  | .error _ => []

/-- Writes a report to a file. -/
def writeReport (report : Report) (path : Path) : Build Path := do
  makeDirectories .file path.parent
  writeText .file path (reportText report path)
  log (BuildEvent.reportWritten path.toText)
  return path

end Build

end Localize
