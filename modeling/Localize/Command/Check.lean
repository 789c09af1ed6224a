import Localize.Command.Line
import Localize.Command.Result

/-!
# The command that checks settings

Loads settings as a build without options would, and says what they come to.
-/

set_option autoImplicit false

namespace Localize

namespace Command

/-- What can be said to a check. -/
inductive CheckOption
  | config
  | help
deriving DecidableEq, Repr

namespace Check

/-- How the option for the file is written. -/
def configSpellings : List Text := ["-c", "--config"]

/-- All ways to write options. -/
def forms : List (Form CheckOption) :=
  (configSpellings.map fun spelling => ⟨spelling, .config, true⟩) ++ [⟨"--help", .help, false⟩]

/-- The file that is to be checked, if one was given. -/
def file (tree : Tree) (line : Line CheckOption) : Except UsageError (Option Path) := do
  let file ←
    match line.value? .config with
    | none => pure none
    | some value => some <$> (readPath tree .any true value).mapError (.invalid configSpellings)
  if line.operands = [] then return file else throw (.operandsLeft line.operands)

/-- Settings that are checked: those of the file and the environment. -/
def settings (host : Host) (file : Option Path) : Except Settings.LoadError Settings :=
  Settings.load host.room host.tree file host.environment []

/-- A path, or what is said where there is none. -/
def pathOr (absent : Text) : Option Path → Text
  | some p => p.toText
  | none => absent

/-- What settings come to. -/
def summary (s : Settings) : Text :=
  Result.line "Valid configuration"
    ++ Result.line ("  Locale: " ++ s.locale)
    ++ Result.line ("  Catalog: " ++ pathOr "(default locale pass)" s.catalog.path)
    ++ Result.line ("  Input: " ++ s.build.inputDir.toText)
    ++ Result.line ("  Output: " ++ pathOr "(in place)" s.build.outputDir)

/-- Checks settings. -/
def carryOut (host : Host) (file : Option Path) : Result :=
  match settings host file with
  | .ok s => { tree := host.tree, output := summary s }
  | .error cause =>
    if cause.isMissing then .refused host badSettings ("Error: " ++ cause.message)
    else .refused host failed ("Invalid configuration: " ++ cause.message)

/-- The paths that the words of a command line lead to. -/
def paths (words : List Text) : List Path :=
  match Line.read forms true words with
  | .ok line => (line.values .config).map Path.ofText
  | .error _ => []

/-- The help of the command. -/
def page : Page where
  path := "main validate-config"
  operands := "[OPTIONS]"
  body := "  Validate a YAML configuration file.

Options:
  -c, --config PATH  Path to the configuration file to validate
  --help             Show this message and exit.
"

/-- Checks settings by the words of a command line. -/
def command (host : Host) (words : List Text) : Result :=
  match Line.read forms true words with
  | .error e => .usage host page e
  | .ok line =>
    if line.has .help then .help host page
    else
      match file host.tree line with
      | .error e => .usage host page e
      | .ok file => carryOut host file

end Check

end Command

end Localize
