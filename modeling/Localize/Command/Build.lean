import Localize.Command.Line
import Localize.Command.Result

/-!
# The build command

Builds the assets of a directory for one locale.

What the options of the command line say (`BuildRequest.ofLine`) is laid over the settings of the
file and of the environment (`BuildRequest.options`), and the build is run by what comes of that.
Trouble with the settings, the catalog and the assets has an exit code each; a strict build has one
for wordings that are missing.
-/

set_option autoImplicit false

namespace Localize

namespace Command

/-! ## Options -/

/-- What can be said to a build. -/
inductive BuildOption
  | config
  | outputDir
  | locale
  | catalog
  | lookupDir
  | removeBrackets
  | keepBrackets
  | warnMissing
  | ignoreMissing
  | including
  | excluding
  | workers
  | report
  | strict
  | verbose
  | logLevel
  | logFile
  | quiet
  | help
deriving DecidableEq, Repr

namespace BuildOption

/-- How the option is written. -/
def spellings : BuildOption → List Text
  | config => ["-c", "--config"]
  | outputDir => ["-o", "--output-dir"]
  | locale => ["-l", "--locale"]
  | catalog => ["-p", "--catalog"]
  | lookupDir => ["--lookup-dir"]
  | removeBrackets => ["--always-remove-brackets"]
  | keepBrackets => ["--keep-brackets"]
  | warnMissing => ["--warn-missing"]
  | ignoreMissing => ["--no-warn-missing"]
  | including => ["--include"]
  | excluding => ["--exclude"]
  | workers => ["-j", "--workers"]
  | report => ["--report"]
  | strict => ["--strict"]
  | verbose => ["-v", "--verbose"]
  | logLevel => ["--log-level"]
  | logFile => ["--log-file"]
  | quiet => ["--quiet"]
  | help => ["--help"]

/-- The option takes a value. -/
def takesValue : BuildOption → Bool
  | removeBrackets | keepBrackets | warnMissing | ignoreMissing | strict | verbose | quiet | help =>
    false
  | _ => true

/-- All options. -/
def all : List BuildOption := [
  config, outputDir, locale, catalog, lookupDir, removeBrackets, keepBrackets, warnMissing,
  ignoreMissing, including, excluding, workers, report, strict, verbose, logLevel, logFile, quiet,
  help]

/-- All ways to write options. -/
def forms : List (Form BuildOption) :=
  all.flatMap fun o => o.spellings.map fun spelling => ⟨spelling, o, o.takesValue⟩

/-- The kind of path that is the value of an option, and whether it has to be there. -/
def path? : BuildOption → Option (PathKind × Bool)
  | config => some (.any, true)
  | outputDir => some (.directory, false)
  | catalog => some (.file, false)
  | lookupDir => some (.directory, false)
  | report => some (.file, false)
  | logFile => some (.any, false)
  | _ => none

/-- Complains of a value that does not fit an option. -/
def complaint (tree : Tree) (o : BuildOption) (value : Text) : Except Complaint Unit :=
  match o.path? with
  | some (kind, mustExist) => (readPath tree kind mustExist value).map fun _ => ()
  | none =>
    match o with
    | workers =>
      match Text.integer 10 value with
      | .ok _ => .ok ()
      | .error _ => .error (.notInteger value)
    | logLevel =>
      match LogLevel.ofName? value with
      | some _ => .ok ()
      | none => .error (.notOneOf value (LogLevel.all.map LogLevel.name))
    | _ => .ok ()

/-- Checks the value of an option. -/
def check (tree : Tree) (o : BuildOption) (value : Text) : Except UsageError Unit :=
  (o.complaint tree value).mapError (.invalid o.spellings)

end BuildOption

/-! ## Requests -/

/-- What a build was told on its command line. -/
structure BuildRequest where
  config : Option Path := none
  inputDir : Option Path := none
  outputDir : Option Path := none
  locale : Option Text := none
  catalog : Option Path := none
  lookupDir : Option Path := none
  removeBrackets : Option Bool := none
  warnMissing : Option Bool := none
  including : List Text := []
  excluding : List Text := []
  workers : Option Int := none
  report : Option Path := none
  strict : Bool := false
  verbose : Nat := 0
  logLevel : Option LogLevel := none
  logFile : Option Path := none
  quiet : Bool := false
deriving DecidableEq, Repr

namespace BuildRequest

/-- What the usage line calls the directory of a build. -/
def operandName : Text := "[INPUT_DIR]"

/-- Checks the first operand. -/
def checkOperand (tree : Tree) : List Text → Except UsageError Unit
  | [] => .ok ()
  | word :: _ =>
    ((readPath tree .directory false word).map fun _ => ()).mapError (.invalid [operandName])

/-- Checks that at most one operand was given. -/
def checkRest (operands : List Text) : Except UsageError Unit :=
  if operands.length ≤ 1 then .ok () else .error (.operandsLeft (operands.drop 1))

/-- The request of a command line whose values have been checked. -/
def ofChecked (line : Line BuildOption) : BuildRequest :=
  let path (o : BuildOption) : Option Path := (line.value? o).map Path.ofText
  { config := path .config
    inputDir := line.operands.head?.map Path.ofText
    outputDir := path .outputDir
    locale := line.value? .locale
    catalog := path .catalog
    lookupDir := path .lookupDir
    removeBrackets := line.choice? .removeBrackets .keepBrackets
    warnMissing := line.choice? .warnMissing .ignoreMissing
    including := line.values .including
    excluding := line.values .excluding
    workers := (line.value? .workers).bind fun value => (Text.integer 10 value).toOption
    report := ((line.value? .report).filter (· ≠ [])).map Path.ofText
    strict := line.has .strict
    verbose := line.count .verbose
    logLevel := (line.value? .logLevel).bind LogLevel.ofName?
    logFile := path .logFile
    quiet := line.has .quiet }

/-- The request of a command line. -/
def ofLine (tree : Tree) (line : Line BuildOption) : Except UsageError BuildRequest := do
  line.checkGiven (BuildOption.check tree) line.given
  checkOperand tree line.operands
  checkRest line.operands
  return ofChecked line

/-- A value that may be absent. -/
def orNull {α : Type} (toValue : α → Value) : Option α → Value
  | some a => toValue a
  | none => .null

/-- A path as a value. -/
def pathValue (p : Path) : Value := .text p.toText

/-- What a request says about settings. -/
def options (r : BuildRequest) : Settings.Options := [
  ("locale", orNull .text r.locale),
  ("catalog", orNull pathValue r.catalog),
  ("lookup_dir", orNull pathValue r.lookupDir),
  ("always_remove_brackets", orNull .bool r.removeBrackets),
  ("warn_missing", orNull .bool r.warnMissing),
  ("exclude", .list (r.excluding.map .text)),
  ("include", .list (r.including.map .text)),
  ("input_dir", orNull pathValue r.inputDir),
  ("output_dir", orNull pathValue r.outputDir),
  ("workers", orNull .int r.workers),
  ("log_level", orNull (fun level => .text (LogLevel.name level)) r.logLevel),
  ("log_file", orNull pathValue r.logFile),
  ("verbose", .int r.verbose)]

/-- The settings of a build. -/
def settings (host : Host) (r : BuildRequest) : Except Settings.LoadError Settings :=
  Settings.load host.room host.tree r.config host.environment r.options

end BuildRequest

namespace Build

/-! ## Paths -/

/-- The path that a catalog stands for, if its text is the name of a file. -/
def catalogName? (tree : Tree) (p : Path) : Option Path := do
  let bytes ← (tree.readFile p).toOption
  let content ← (Utf8.decodeMarked bytes).toOption
  if content.length ≤ Tree.maxPath then return Path.ofText content else none

/-- The paths that settings lead to. -/
def settledPaths (tree : Tree) (s : Settings) : List Path :=
  [s.inputDir, s.outputDir] ++ s.catalog.path.toList
    ++ (s.catalog.path.bind (catalogName? tree)).toList ++ s.catalog.lookupDir.toList
    ++ s.logging.file.toList

/-- The paths that a request leads to, as far as they are known from what the host has. -/
def requestPaths (host : Host) (r : BuildRequest) : List Path :=
  let own := [r.config, r.inputDir, r.outputDir, r.catalog, r.lookupDir, r.report, r.logFile]
  own.flatMap Option.toList ++
    (match r.settings host with
     | .ok s => settledPaths host.tree s
     | .error _ => [])

/-- The paths that the words of a command line lead to. -/
def paths (host : Host) (words : List Text) : List Path :=
  match Line.read BuildOption.forms true words with
  | .ok line => requestPaths host (BuildRequest.ofChecked line)
  | .error _ => []

/-! ## The command -/

/-- How wide the banner is at least. -/
def bannerWidth : Nat := 50

/-- The line above what a build says. -/
def banner (s : Settings) : Text :=
  let source : Text :=
    match s.catalog.path with
    | some path => path.name
    | none => "default"
  let label := " easyi18n · " ++ s.locale ++ " · " ++ source ++ " "
  "\n─── " ++ label ++ List.replicate (bannerWidth - label.length) (CodePoint.ofChar '─') ++ "\n\n"

/-- A run whose logs are set up. -/
def start (host : Host) (tree : Tree) (sinks : Sinks) (s : Settings) : Run where
  tree
  sinks :=
    { sinks with context := Sinks.runContext s.locale (s.catalog.path.map fun p => p.toText) }
  time := host.time

/-- What is said of a build that fails, and its exit code, if the failure is one to report. -/
def reported? : BuildError → Option (Text × Nat)
  | .catalog cause => some ("Catalog error: " ++ cause.message, badCatalog)
  | .noInput path => some ("Build failed: " ++ BuildError.message (.noInput path), failed)
  | .unreadable asset cause =>
    some ("Build failed: " ++ BuildError.message (.unreadable asset cause), failed)
  | .unwritable asset cause =>
    some ("Build failed: " ++ BuildError.message (.unwritable asset cause), failed)
  | .placeholder _ | .unencodable _ | .file _ => none

/-- The exit code of a build that came to its end. -/
def exitCodeOf (r : BuildRequest) (result : BuildResult) : Nat :=
  if r.strict ∧ result.warnings ≠ [] then warned else 0

/-- What is said to whoever wants to hear it. -/
def said (r : BuildRequest) (t : Text) : Text := if r.quiet then [] else t

/-- The trouble with the file of a report, if that is why the report could not be written. -/
def savingTrouble? : BuildError → Option FileError
  | .file cause => if cause.isUnaskable then none else some cause
  | _ => none

/-- Writes the report that a request asks for, after a build. -/
def finish (r : BuildRequest) (result : BuildResult) (opening : Text) (run : Run) : Result :=
  let exitCode := exitCodeOf r result
  match r.report with
  | none => { tree := run.tree, exitCode, messages := opening ++ run.shown }
  | some path =>
    match Localize.Build.writeReport (.ofResult result) path run with
    | (.ok path, run) =>
      { tree := run.tree, exitCode
        messages := opening ++ run.shown
          ++ said r (Result.line ("Report saved to " ++ path.toText)) }
    | (.error cause, run) =>
      match savingTrouble? cause with
      | some cause =>
        { tree := run.tree, exitCode
          messages := opening ++ run.shown
            ++ Result.line ("Could not save report: " ++ cause.message) }
      | none => .broken run.tree (opening ++ run.shown) (.build cause)

/-- Runs a build by its settings. -/
def runWith (host : Host) (r : BuildRequest) (s : Settings) : Result :=
  match Sinks.configure host.tree s.logging r.quiet with
  | (.error cause, tree) => .broken tree [] (.file cause)
  | (.ok sinks, tree) =>
    let opening := said r (banner s)
    match Localize.Build.run s host.schedule host.duration (start host tree sinks s) with
    | (.ok result, run) => finish r result opening run
    | (.error cause, run) =>
      match reported? cause with
      | some (reason, exitCode) =>
        { tree := run.tree, exitCode, messages := opening ++ run.shown ++ Result.line reason }
      | none => .broken run.tree (opening ++ run.shown) (.build cause)

/-- Carries out a request. -/
def carryOut (host : Host) (r : BuildRequest) : Result :=
  match r.settings host with
  | .ok s => runWith host r s
  | .error cause =>
    if cause.isExpected then
      .refused host badSettings ("Configuration error: " ++ cause.message)
    else .broken host.tree [] (.settings cause)

/-- The help of the command. -/
def page : Page where
  path := "main build"
  operands := "[OPTIONS] [INPUT_DIR]"
  body := "  Translate the nuggets of a build output directory.

  INPUT_DIR: Build output directory (default: build.input_dir from config)

  Examples:

          # French build, written to dist-fr/
          $ easyi18n build dist -l fr -p locales/fr.po -o dist-fr

          # Default locale: only strip the brackets, in place
          $ easyi18n build dist -l en --always-remove-brackets

          # Only JS bundles, fail CI on missing translations
          $ easyi18n build dist -l de -p locales/de.po --include .js --strict

Options:
  -c, --config PATH               Path to the YAML configuration file
  -o, --output-dir DIRECTORY      Output directory (default: rewrite INPUT_DIR
                                  in place)
  -l, --locale TEXT               Locale identifier (e.g.: fr, es-ES)
  -p, --catalog FILE              Gettext (.po) catalog of the locale. Omit for
                                  the default locale pass
  --lookup-dir DIRECTORY          Write the ingested lookup table to <lookup-
                                  dir>/<locale>.json
  --always-remove-brackets / --keep-brackets
                                  Strip [[[ ]]] from nuggets that end up
                                  untranslated
  --warn-missing / --no-warn-missing
                                  Report keys missing from the catalog
  --include TEXT                  Only rewrite assets whose name contains this
                                  substring (repeatable)
  --exclude TEXT                  Skip assets whose name contains this substring
                                  (repeatable)
  -j, --workers INTEGER           Number of assets processed in parallel
  --report FILE                   Write a build report (.json or .md)
  --strict                        Exit with code 2 when translations are missing
  -v, --verbose                   Verbosity level (-v, -vv for more detail)
  --log-level [debug|info|human|warn|error]
                                  Explicit logging level
  --log-file PATH                 File to save structured logs (JSON)
  --quiet                         Quiet mode (errors only)
  --help                          Show this message and exit.
"

/-- Builds by the words of a command line. -/
def command (host : Host) (words : List Text) : Result :=
  match Line.read BuildOption.forms true words with
  | .error e => .usage host page e
  | .ok line =>
    if line.has .help then .help host page
    else
      match BuildRequest.ofLine host.tree line with
      | .error e => .usage host page e
      | .ok r => carryOut host r

end Build

end Command

end Localize
