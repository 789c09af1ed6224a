import Localize.Files.Tree
import Localize.Text.Likeness
import Localize.Text.Quoted

/-!
# Usage

What a command expects of its command line, and what is said when that is not what it got.

Most complaints come with the line that shows how the command is used.  Those about an option with
a value too few or too many come alone (`UsageError.standsAlone`).
-/

set_option autoImplicit false

namespace Localize

namespace Command

/-! ## Pages -/

/-- How a command is called, and the text that explains it. -/
structure Page where
  /-- The words that call the command. -/
  path : Text
  /-- What follows these words. -/
  operands : Text
  /-- The explanation. -/
  body : Text

/-- The line that shows how the command is used. -/
def Page.usage (p : Page) : Text := "Usage: " ++ p.path ++ " " ++ p.operands ++ "\n"

/-- The whole help of a command. -/
def Page.help (p : Page) : Text := p.usage ++ "\n" ++ p.body

/-- Where more is to be found. -/
def Page.hint (p : Page) : Text := "Try '" ++ p.path ++ " --help' for help.\n"

/-! ## Complaints -/

/-- What a path is expected to lead to. -/
inductive PathKind
  | file
  | directory
  | any
deriving DecidableEq, Repr

/-- The word for what a path is expected to lead to. -/
def PathKind.title : PathKind → Text
  | file => "File"
  | directory => "Directory"
  | any => "Path"

/-- What is wrong with a value. -/
inductive Complaint
  | notThere (kind : PathKind) (path : Text)
  | isFile (kind : PathKind) (path : Text)
  | isDirectory (kind : PathKind) (path : Text)
  | notInteger (value : Text)
  | notOneOf (value : Text) (choices : List Text)
  /-- The system cannot be asked about the path. -/
  | unaskable (cause : FileError)
deriving DecidableEq, Repr

/-- What is said of a value. -/
def Complaint.message : Complaint → Text
  | notThere kind path => kind.title ++ " " ++ path.quoted ++ " does not exist."
  | isFile kind path => kind.title ++ " " ++ path.quoted ++ " is a file."
  | isDirectory kind path => kind.title ++ " " ++ path.quoted ++ " is a directory."
  | notInteger value => value.quoted ++ " is not a valid integer."
  | notOneOf value choices =>
    value.quoted ++ " is not one of " ++ Text.join ", " (choices.map Text.quoted) ++ "."
  | unaskable cause => cause.message

/-- What is wrong with a command line. -/
inductive UsageError
  /-- There is no such option; there may be some that are spelled alike. -/
  | unknownOption (spelling : Text) (alike : List Text)
  /-- An option at the end of the line lacks its value. -/
  | valueMissing (spelling : Text)
  /-- A switch has a value. -/
  | valueUnwanted (spelling : Text)
  | unknownCommand (name : Text) (alike : List Text)
  | commandMissing
  | operandMissing (name : Text)
  /-- Words are left over. -/
  | operandsLeft (words : List Text)
  /-- A value does not fit the parameter of these spellings. -/
  | invalid (spellings : List Text) (complaint : Complaint)
deriving DecidableEq, Repr

namespace UsageError

/-- A name in single quotes. -/
def marked (name : Text) : Text := "'" ++ name ++ "'"

/-- What may have been meant, as a sentence. -/
def guess : List Text → Text
  | [] => []
  | [name] => " Did you mean " ++ name.quoted ++ "?"
  | names => " (Did you mean one of: " ++ Text.join ", " (names.map Text.quoted) ++ "?)"

/-- What is said of a command line. -/
def message : UsageError → Text
  | unknownOption spelling alike => "No such option " ++ spelling.quoted ++ "." ++ guess alike
  | valueMissing spelling => "Option " ++ spelling.quoted ++ " requires an argument."
  | valueUnwanted spelling => "Option " ++ spelling.quoted ++ " does not take a value."
  | unknownCommand name alike => "No such command " ++ name.quoted ++ "." ++ guess alike
  | commandMissing => "Missing command."
  | operandMissing name => "Missing argument " ++ marked name ++ "."
  | operandsLeft words =>
    (if words.length = 1 then ("Got unexpected extra argument (" : Text)
      else "Got unexpected extra arguments (") ++ Text.join " " words ++ ")"
  | invalid spellings complaint =>
    "Invalid value for " ++ Text.join " / " (spellings.map marked) ++ ": " ++ complaint.message

/-- The complaint comes without a word on how the command is used. -/
def standsAlone : UsageError → Bool
  | valueMissing _ | valueUnwanted _ => true
  | _ => false

/-- A complaint as it is shown to the one who called a command. -/
def report (page : Page) (e : UsageError) : Text :=
  let usage : Text := if e.standsAlone then [] else page.usage ++ page.hint ++ "\n"
  usage ++ "Error: " ++ e.message ++ "\n"

end UsageError

/-! ## Values -/

/-- The path that a value writes, if what is there is of the kind that is expected.  That nothing is
there matters only if something must be. -/
def readPath (tree : Tree) (kind : PathKind) (mustExist : Bool) (value : Text) :
    Except Complaint Path :=
  match tree.statusRaw value with
  | .error cause =>
    let e : FileError := ⟨cause, value⟩
    if e.isUnaskable then .error (.unaskable e)
    else if mustExist then .error (.notThere kind value)
    else .ok (Path.ofText value)
  | .ok (.file _) =>
    if kind = .directory then .error (.isFile kind value) else .ok (Path.ofText value)
  | .ok .directory =>
    if kind = .file then .error (.isDirectory kind value) else .ok (Path.ofText value)

end Command

end Localize
