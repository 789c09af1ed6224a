import Localize.Command.Line
import Localize.Command.Result

/-!
# The scan command

Lists the nuggets of a file, for people or as JSON.
-/

set_option autoImplicit false

namespace Localize

namespace Command

/-- What can be said to a scan. -/
inductive ScanOption
  | json
  | help
deriving DecidableEq, Repr

namespace Scan

/-- All ways to write options. -/
def forms : List (Form ScanOption) := [
  ⟨"--json", .json, false⟩,
  ⟨"--help", .help, false⟩]

/-- What the usage line calls the file. -/
def operandName : Text := "FILE"

/-- The file that is to be scanned. -/
def operand (tree : Tree) : List Text → Except UsageError Path
  | [] => .error (.operandMissing operandName)
  | word :: rest => do
    let file ← (readPath tree .file true word).mapError (.invalid [operandName])
    if rest = [] then return file else throw (.operandsLeft rest)

/-! ## Listings -/

/-- A nugget as an object. -/
def toValue (l : Nugget.Located) : Value :=
  Value.ofFields [
    ("start", .int l.start),
    ("end", .int l.stop),
    ("text", .text l.nugget.text),
    ("key", .text l.nugget.key),
    ("format_args", .list (l.nugget.args.map .text)),
    ("comment", match l.nugget.comment with
      | some comment => .text comment
      | none => .null)]

/-- Nuggets as JSON. -/
def json (nuggets : List Nugget.Located) : Text :=
  Result.line (Json.pretty (.list (nuggets.map toValue)))

/-- The number of the line of a position, from one on. -/
def lineNumber (text : Text) (position : Nat) : Nat :=
  (text.take position).count (CodePoint.ofChar '\n') + 1

/-- A nugget in lines. -/
def shown (file : Path) (text : Text) (l : Nugget.Located) : Text :=
  let key := Text.replace "\n" "\\n" l.nugget.key
  let place := file.toText ++ ":" ++ Text.ofNat (lineNumber text l.start)
  let args : Text :=
    if l.nugget.args = [] then []
    else Result.line ("    args: " ++ Text.join ", " l.nugget.args)
  let comment : Text :=
    match l.nugget.comment with
    | none | some [] => []
    | some comment => Result.line ("    comment: " ++ comment)
  Result.line (place ++ ": " ++ key) ++ args ++ comment

/-- How many nuggets there are. -/
def total (nuggets : List Nugget.Located) : Text :=
  Result.line (Text.ofNat nuggets.length ++ " nugget(s)")

/-! ## The command -/

/-- Lists the nuggets of a text. -/
def list (host : Host) (file : Path) (text : Text) (asJson : Bool) : Result :=
  let nuggets := Nugget.nuggets text
  if asJson then { tree := host.tree, output := json nuggets }
  else
    { tree := host.tree
      output := (nuggets.map (shown file text)).flatten
      messages := total nuggets }

/-- Lists the nuggets of a file. -/
def carryOut (host : Host) (file : Path) (asJson : Bool) : Result :=
  match host.tree.readFile file with
  | .error cause => .broken host.tree [] (.file cause)
  | .ok bytes =>
    match Utf8.decode bytes with
    | .error _ => .refused host failed ("Not a UTF-8 text file: " ++ file.toText)
    | .ok text => list host file text asJson

/-- The paths that the words of a command line lead to. -/
def paths (words : List Text) : List Path :=
  match Line.read forms true words with
  | .ok line => line.operands.map Path.ofText
  | .error _ => []

/-- The help of the command. -/
def page : Page where
  path := "main scan"
  operands := "[OPTIONS] FILE"
  body := "  List the nuggets found in FILE.

Options:
  --json  Output in structured JSON format
  --help  Show this message and exit.
"

/-- Scans by the words of a command line. -/
def command (host : Host) (words : List Text) : Result :=
  match Line.read forms true words with
  | .error e => .usage host page e
  | .ok line =>
    if line.has .help then .help host page
    else
      match operand host.tree line.operands with
      | .error e => .usage host page e
      | .ok file => carryOut host file (line.has .json)

end Scan

end Command

end Localize
