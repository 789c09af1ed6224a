import Localize.Command.Build
import Localize.Command.Check
import Localize.Command.Scan

/-!
# The program

The program is a group of commands.  Its own options come before the name of a command, and the
words after the name belong to the command.
-/

set_option autoImplicit false

namespace Localize

namespace Command

/-- What can be said to the program itself. -/
inductive ProgramOption
  | version
  | help
deriving DecidableEq, Repr

namespace Program

/-- The version of the program. -/
def version : Text := "easyi18n, version 1.0.0\n"

/-- All ways to write options. -/
def forms : List (Form ProgramOption) := [
  ⟨"--version", .version, false⟩,
  ⟨"--help", .help, false⟩]

/-- The help of the program. -/
def page : Page where
  path := "main"
  operands := "[OPTIONS] COMMAND [ARGS]..."
  body := "  easyi18n - Build-time translation of [[[nuggets]]] in build output.

  Each run handles one locale: nuggets are looked up in the locale's gettext
  catalog, escaped, formatted and written back in place.

Options:
  --version  Show the version and exit.
  --help     Show this message and exit.

Commands:
  build            Translate the nuggets of a build output directory.
  scan             List the nuggets found in FILE.
  validate-config  Validate a YAML configuration file.
"

/-- All commands by their names. -/
def commands : List (Text × (Host → List Text → Result)) := [
  ("build", Build.command),
  ("scan", Scan.command),
  ("validate-config", Check.command)]

/-- The command of a name. -/
def command? (name : Text) : Option (Host → List Text → Result) := commands.lookup name

/-- The paths that the words of a command line lead to, as far as they are known from what the host
has.  With what stands at these paths more may be known. -/
def paths (host : Host) (words : List Text) : List Path :=
  match Line.read forms false words with
  | .error _ => []
  | .ok line =>
    match line.operands with
    | [] => []
    | name :: rest =>
      if name = ("build" : Text) then Build.paths host rest
      else if name = ("scan" : Text) then Scan.paths rest
      else if name = ("validate-config" : Text) then Check.paths rest
      else []

/-- What an option of the program asks for; the first one counts. -/
def answer? (host : Host) (line : Line ProgramOption) : Option Result :=
  line.given.head?.map fun g =>
    match g.option with
    | .version => { tree := host.tree, output := version }
    | .help => .help host page

/-- There is no command of a name.  A name that looks like an option is read as one first. -/
def unknown (host : Host) (name : Text) (rest : List Text) : Result :=
  match Line.read forms false (name :: rest) with
  | .error e => .usage host page e
  | .ok line =>
    let alike := Text.likest name (commands.map Prod.fst)
    (answer? host line).getD (.usage host page (.unknownCommand name alike))

/-- Runs the program by the words of its command line. -/
def run (host : Host) (words : List Text) : Result :=
  if words = [] then { tree := host.tree, exitCode := badUsage, messages := page.help }
  else
    match Line.read forms false words with
    | .error e => .usage host page e
    | .ok line =>
      match answer? host line, line.operands with
      | some outcome, _ => outcome
      | none, [] => .usage host page .commandMissing
      | none, name :: rest =>
        match command? name with
        | some command => command host rest
        | none => unknown host name rest

end Program

end Command

end Localize
