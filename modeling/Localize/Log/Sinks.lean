import Localize.Files.Tree
import Localize.Json.Printer
import Localize.Log.Human
import Localize.Log.Record
import Localize.Settings.Schema

/-!
# Where log records go

A run has up to three sinks, set up once by its settings (`Sinks.configure`).

* A file takes every record, one JSON object to a line.
* The build's own events are shown to people as lines of text.
* The console takes the other records from a level on, one line each.

A quiet run keeps the file alone.  If there is no sink at all, trouble is still shown, without any
layout.
-/

set_option autoImplicit false

namespace Localize

/-- The sinks of a run, and what is known of it. -/
structure Sinks where
  /-- The place of the log file. -/
  file : Option Location := none
  /-- The build's own events are shown. -/
  human : Bool := false
  /-- The level from which the console takes records. -/
  console : Option Int := none
  /-- Fields of every record. -/
  context : Arguments := []

namespace Sinks

/-! ## Setting up -/

/-- How many times a run was told to say more, a level that says more counted in. -/
def verbosity (s : LoggingSettings) : Int :=
  match s.level with
  | .debug => max s.verbose 2
  | .info => max s.verbose 1
  | _ => s.verbose

/-- The level from which the console takes records. -/
def consoleLevel (s : LoggingSettings) : Int :=
  if s.level = .error then Level.error
  else
    let v := verbosity s
    if v = 0 then Level.warning else if v = 1 then Level.info else Level.debug

/-- The build's own events are shown at a level. -/
def showsHuman : LogLevel → Bool
  | .debug | .info | .human => true
  | .warn | .error => false

/-- Makes the log file ready: its directory is made, and the file if it is not there. -/
def openFile (tree : Tree) (p : Path) : Except FileError Location × Tree :=
  match tree.makeDirectories p.parent with
  | (.error e, tree) => (.error e, tree)
  | (.ok (), tree) =>
    let place := p.resolve tree.cwd
    let whole : Path := ⟨.absolute, place⟩
    match tree.status whole, tree.writeFile whole [] with
    | .ok (.file _), _ => (.ok place, tree)
    | _, .ok tree => (.ok place, tree)
    | _, .error e => (.error e, tree)

/-- The sinks of a run with a log file or without. -/
def ofSettings (s : LoggingSettings) (quiet : Bool) (file : Option Location) : Sinks :=
  if quiet then { file }
  else { file, human := showsHuman s.level, console := some (consoleLevel s) }

/-- Sets up the sinks of a run. -/
def configure (tree : Tree) (s : LoggingSettings) (quiet : Bool) : Except FileError Sinks × Tree :=
  match s.file with
  | none => (.ok (ofSettings s quiet none), tree)
  | some p =>
    match openFile tree p with
    | (.ok place, tree) => (.ok (ofSettings s quiet (some place)), tree)
    | (.error e, tree) => (.error e, tree)

/-- What is known of a run from its start. -/
def runContext (locale : Text) (catalog : Option Text) : Arguments :=
  let shown :=
    match catalog with
    | none | some [] => "(default)"
    | some t => t
  [("run_locale", .text locale), ("run_catalog", .text shown)]

/-! ## Layouts -/

/-- What is laid out of an entry: all but the fields by which a record is known as it is passed
on. -/
def laidOut (entry : Arguments) : Arguments :=
  entry.filter fun (name, _) => name ∉ (["_record", "_from_structlog"] : List Text)

/-- A record as a line of the log file. -/
def fileLine (entry : Arguments) : Text := Json.line (Value.ofFields (laidOut entry)) ++ "\n"

/-- What makes a text on the console unclear. -/
def unclear : Text := " \t=\r\n\"'"

/-- A value on the console: a text stands as it is unless that would be unclear. -/
def consoleValue (v : Value) : Text :=
  match v with
  | .text t => if t.any fun c => c ∈ unclear then t.quoted else t
  | v => v.quoted

/-- The level, as wide as the widest. -/
def consoleLevelText (level : Text) : Text := "[" ++ Text.padRight 9 level ++ "]"

/-- A text that stands below the line of a record, if the record has it.  What is no text cannot
stand there. -/
def block? (entry : Arguments) (name : Text) : Option (List Text) :=
  match entry.get? name with
  | none | some .null => some []
  | some (.text t) => some [t]
  | some _ => none

/-- What stands between a stack and an exception. -/
def blockRule : Text := List.replicate 79 (CodePoint.ofChar '=')

/-- The stack and the exception of a record, each on new lines. -/
def blocks (stack exception : List Text) : Text :=
  let feed : Text := "\n"
  stack.flatMap (feed ++ ·)
    ++ (if stack ≠ [] ∧ exception ≠ [] then feed ++ feed ++ blockRule ++ feed else [])
    ++ exception.flatMap (feed ++ ·)

/-- A record as a line of the console: the time, the level, the event and the logger, and the other
fields ordered by name.  A stack and an exception stand below it. -/
def consoleLine? (entry : Arguments) : Option Text := do
  let stack ← block? entry "stack"
  let exception ← block? entry "exception"
  let shown (name : Text) : Text :=
    match entry.get? name with
    | some v => v.shown
    | none => []
  let named : List Text :=
    ["timestamp", "level", "event", "logger", "logger_name", "stack", "exception"]
  let others :=
    ((laidOut entry).filter fun (name, _) => name ∉ named).mergeSort fun a b => Text.le a.1 b.1
  let bracketed (t : Text) : Text := "[" ++ t ++ "]"
  let columns := [shown "timestamp", consoleLevelText (shown "level"),
    Text.padRight 30 (shown "event"), bracketed (shown "logger")]
    ++ (entry.get? "logger_name").toList.map (fun v => bracketed v.shown)
    ++ others.map fun (name, v) => name ++ "=" ++ consoleValue v
  return Text.join " " columns ++ blocks stack exception ++ "\n"

/-- A record without layout: an event as a mapping, a message as its text. -/
def bareLine (r : Record) (entry : Arguments) : Text :=
  let shown :=
    match r.content with
    | .event .. => (Value.ofFields entry).quoted
    | .message .. => ((entry.get? "event").getD .null).shown
  shown ++ "\n"

/-- The line of a record for people. -/
def humanLine (r : Record) (context : Arguments) (time : Text) : Text :=
  match r.asEvent? context time with
  | none => []
  | some (name, fields) =>
    match Human.format name fields with
    | .ok (some line) => line ++ "\n"
    | _ => []

/-! ## Writing -/

/-- What sinks show of a record, and what they add to the log file. -/
def write (s : Sinks) (time : Text) (r : Record) : Text × Option Text :=
  let entry := r.entry? s.context time
  let isHuman := r.level = Level.human
  let shownToPeople := if s.human ∧ isHuman then humanLine r s.context time else []
  let shownOnConsole : Text :=
    match s.console, entry with
    | some level, some entry =>
      if level ≤ r.level ∧ !isHuman then (consoleLine? entry).getD [] else []
    | _, _ => []
  let shownBare : Text :=
    match entry with
    | some entry =>
      if s.file.isNone ∧ !s.human ∧ s.console.isNone ∧ Level.warning ≤ r.level then
        bareLine r entry
      else []
    | none => []
  let added := if s.file.isSome ∧ Level.debug ≤ r.level then entry.map fileLine else none
  (shownToPeople ++ shownOnConsole ++ shownBare, added)

/-- Writes a record: what is shown, and the tree with the log file as it is then. -/
def emit (s : Sinks) (time : Text) (r : Record) (tree : Tree) : Text × Tree :=
  let (shown, added) := s.write time r
  match s.file, added with
  | some place, some line => (shown, tree.append place (Utf8.encodeLossy line))
  | _, _ => (shown, tree)

end Sinks

end Localize
