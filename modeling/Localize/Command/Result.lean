import Localize.Build.Run
import Localize.Command.Usage
import Localize.Settings.Load

/-!
# Results of commands

A command is a function of its host, which is all it can see: the tree, the environment, the order
in which workers get done, how long the work takes, and the time.  It gives the tree afterwards,
what it says, and its exit code.

Trouble that a command knows how to report becomes words and an exit code.  Any other is kept as it
is (`Result.failure`), and the exit code is that of a command that broke down.
-/

set_option autoImplicit false

namespace Localize

namespace Command

/-- What a command can see. -/
structure Host where
  tree : Tree
  environment : Settings.Environment := []
  schedule : Schedule := .inOrder
  /-- How long a build takes. -/
  duration : Binary64 := .zero false
  /-- The time that is written into logs. -/
  time : Text := []
  /-- How many calls can be made inside one another while settings are read. -/
  room : Nat := Settings.commonRoom

/-- Trouble that a command does not report. -/
inductive Failure
  | settings (cause : Settings.LoadError)
  | file (cause : FileError)
  | build (cause : BuildError)

/-- What is said of trouble that a command does not report. -/
def Failure.message : Failure → Text
  | settings cause => cause.message
  | file cause => cause.message
  | build cause => cause.message

/-- What comes of a command. -/
structure Result where
  tree : Tree
  exitCode : Nat := 0
  /-- The result, for whoever goes on with it. -/
  output : Text := []
  /-- What is said about the work. -/
  messages : Text := []
  failure : Option Failure := none

/-! ## Exit codes -/

/-- The exit code of a command that failed or broke down. -/
def failed : Nat := 1

/-- The exit code of a command line that is no good. -/
def badUsage : Nat := 2

/-- The exit code of a strict build with wordings missing. -/
def warned : Nat := 2

/-- The exit code of settings that are no good. -/
def badSettings : Nat := 3

/-- The exit code of a catalog that is no good. -/
def badCatalog : Nat := 4

namespace Result

/-- A line. -/
def line (t : Text) : Text := t ++ "\n"

/-- The help of a command was asked for. -/
def help (host : Host) (page : Page) : Result := { tree := host.tree, output := page.help }

/-- Nothing was done, for a reason. -/
def refused (host : Host) (exitCode : Nat) (reason : Text) : Result :=
  { tree := host.tree, exitCode, messages := line reason }

/-- The command broke down. -/
def broken (tree : Tree) (messages : Text) (failure : Failure) : Result :=
  { tree, exitCode := failed, messages, failure := some failure }

/-- The command line is no good.  At a path that the system cannot be asked about the command breaks
down. -/
def usage (host : Host) (page : Page) (e : UsageError) : Result :=
  match e with
  | .invalid _ (.unaskable cause) => broken host.tree [] (.file cause)
  | e => { tree := host.tree, exitCode := badUsage, messages := e.report page }

end Result

end Command

end Localize
