import Localize.Catalog.Po.Line
import Localize.Unicode.Decimal

/-!
# Entries of a PO catalog

The lines of an entry come in a certain order, and `allowed` says which line may follow which.  An
entry is complete when a line comes that can only begin the next one after its string, or when the
catalog ends.  A catalog that ends in a comment loses the entry before it if nothing completed
that entry: the last line decides, and a comment says that nothing worth keeping is pending.
-/

set_option autoImplicit false

namespace Localize

namespace Po

/-- An entry of a catalog. -/
structure Entry where
  context : Text := []
  id : Text := []
  plural : Text := []
  string : Text := []
  /-- The forms of a plural entry by number, the latest first. -/
  forms : List (Nat × Text) := []
  flags : List Text := []
  obsolete : Bool := false
deriving DecidableEq, Repr, Inhabited

/-- The form of a plural entry with a given number. -/
def Entry.form (e : Entry) (number : Nat) : Text := (e.forms.lookup number).getD []

/-- Where a reader is: before everything, in the comment at the head of the catalog, or after a
line with a mark. -/
inductive Position
  | start
  | head
  | after (mark : Mark)
deriving DecidableEq, Repr

/-- A line with a mark may stand at a position. -/
def allowed (mark : Mark) (position : Position) : Bool :=
  match mark, position with
  | .continuation, .after .context | .continuation, .after .id | .continuation, .after .plural
  | .continuation, .after .string | .continuation, .after .form
  | .continuation, .after .previousId | .continuation, .after .previousPlural
  | .continuation, .after .previousContext => true
  | .continuation, _ => false
  | .translatorComment, .after .context => false
  | .translatorComment, _ => true
  | .context, .after .context | .context, .after .id | .context, .after .plural => false
  | .context, _ => true
  | .id, .after .id | .id, .after .plural => false
  | .id, _ => true
  | .plural, .after .translatorComment | .plural, .after .extractedComment
  | .plural, .after .previousContext | .plural, .after .previousId
  | .plural, .after .previousPlural | .plural, .after .id => true
  | .plural, _ => false
  | .string, .after .id | .string, .after .plural | .string, .after .translatorComment => true
  | .string, _ => false
  | .form, .after .id | .form, .after .form | .form, .after .plural
  | .form, .after .translatorComment => true
  | .form, _ => false
  | _, _ => true

/-- The position after a line with a mark. -/
def Position.next (position : Position) : Mark → Position
  | .continuation => position
  | .translatorComment =>
    match position with
    | .start | .head => .head
    | _ => .after .translatorComment
  | mark => .after mark

/-- A reader of entries. -/
structure Reader where
  position : Position := .start
  entry : Entry := {}
  /-- The number of the latest plural form. -/
  number : Nat := 0
  /-- Complete entries, the latest first. -/
  complete : List Entry := []
deriving Repr

namespace Reader

/-- The line begins a new entry if a string is there already. -/
def completes (r : Reader) (mark : Mark) : Bool :=
  match r.position, mark with
  | _, .plural | _, .string | _, .form | _, .continuation => false
  | .after .string, _ | .after .form, _ => true
  | _, _ => false

/-- Puts the current entry away if a line with a mark begins a new one. -/
def turn (r : Reader) (mark : Mark) : Reader :=
  if r.completes mark then { r with entry := {}, complete := r.entry :: r.complete } else r

/-- The string of a continuation goes to what the line before it was about. -/
def carryOn (r : Reader) (text : Text) : Entry :=
  let e := r.entry
  match r.position with
  | .after .context => { e with context := e.context ++ text }
  | .after .id => { e with id := e.id ++ text }
  | .after .plural => { e with plural := e.plural ++ text }
  | .after .string => { e with string := e.string ++ text }
  | .after .form => { e with forms := (r.number, e.form r.number ++ text) :: e.forms }
  | _ => e

/-- The number of a plural form, and the text after its first quote. -/
def form? (token : Text) : Option (Nat × Text) := do
  let number ← token[7]?
  let number ← number.decimal?
  let text :=
    match Text.breakOn "\"" token with
    | some (_, text) => text
    | none => token
  return (number, unescape text.dropLast)

/-- What a line makes of the entry it belongs to. -/
def fill (r : Reader) (line : Line) : Option Reader :=
  let text := unescape (inner line.token)
  let e := r.entry
  match line.mark with
  | .context => some { r with entry := { e with context := text } }
  | .id => some { r with entry := { e with id := text, obsolete := line.obsolete } }
  | .plural => some { r with entry := { e with plural := text } }
  | .string => some { r with entry := { e with string := text } }
  | .form => do
    let (number, text) ← form? line.token
    return { r with entry := { e with forms := (number, text) :: e.forms }, number := number }
  | .continuation => some { r with entry := r.carryOn text }
  | .flags =>
    let flags := (Text.splitOn "," (line.token.drop 3)).map Text.strip
    some { r with entry := { e with flags := e.flags ++ flags } }
  | _ => some r

/-- Takes one line in, if it may stand where it does. -/
def step (r : Reader) (line : Line) : Option Reader := do
  if allowed line.mark r.position then
    let filled ← (r.turn line.mark).fill line
    return { filled with position := r.position.next line.mark }
  else none

end Reader

/-- A line that is not as it should be. -/
structure Failure where
  /-- Counted from one. -/
  line : Nat
  fault : Fault
deriving DecidableEq, Repr

/-- Reads lines from a line number on; `comment` says that the last line that was not empty began
with a comment mark, and is `true` before any. -/
def readLines : Nat → Bool → Reader → List Text → Except Failure (List Entry)
  | _, comment, r, [] =>
    .ok (if comment then r.complete.reverse else (r.entry :: r.complete).reverse)
  | number, comment, r, line :: rest =>
    match Text.strip line with
    | [] => readLines (number + 1) comment r rest
    | stripped =>
      match Line.read stripped with
      | .error fault => .error ⟨number, fault⟩
      | .ok ⟨none, comment⟩ => readLines (number + 1) comment r rest
      | .ok ⟨some line, comment⟩ =>
        match r.step line with
        | some r => readLines (number + 1) comment r rest
        | none => .error ⟨number, .unexpected⟩

/-- The entries of a catalog given by its lines; a byte order mark before the first is no part of
it. -/
def entries (lines : List Text) : Except Failure (List Entry) :=
  match lines with
  | (0xFEFF :: first) :: rest => readLines 1 true {} (first :: rest)
  | lines => readLines 1 true {} lines

/-- The words for a fault, after the place of the line. -/
def Fault.message : Fault → Text
  | unexpected => []
  | bareQuote => ": unescaped double quote found"
  | strayContinuation => ": invalid continuation line"
  | unknownKeyword word => ": unknown keyword " ++ word

/-- What is said of a catalog with a line that is not as it should be. -/
def Failure.message (file : Option Text) (f : Failure) : Text :=
  "Syntax error in po file " ++ (match file with
    | some name => name ++ " "
    | none => [])
    ++ "(line " ++ Text.ofNat f.line ++ ")" ++ f.fault.message

end Po

end Localize
