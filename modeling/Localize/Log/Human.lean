import Localize.Value.Arguments

/-!
# What a build says to people

A handful of events say what a build does, step by step, and each has a line of text for people
(`Human.format`).  Every other event has none.  A line shows what the event carries, and a question
mark or a zero for what it lacks.
-/

set_option autoImplicit false

namespace Localize

namespace Human

/-- The longest text that is shown whole. -/
def shownLength : Nat := 60

/-- A text on one line, cut off if it is long. -/
def brief (t : Text) : Text :=
  let line := Text.replace "\n" "\\n" t
  if shownLength < line.length then line.take shownLength ++ "..." else line

/-- A number of things. -/
def count (n : Value) (noun : Text) : Text :=
  n.shown ++ " " ++ noun ++ (if n.same (.int 1) then [] else ("s" : Text))

/-- The line of an event, if it has one. -/
def line? (event : Text) (fields : Arguments) : Option Text :=
  let value (name : Text) (default : Value) : Value := (fields.lookup name).getD default
  let shown (name : Text) : Text := (value name (.text "?")).shown
  let number (name : Text) : Value := value name (.int 0)
  if event = ("catalog.loaded" : Text) then
    some ("Catalog " ++ shown "path" ++ " → " ++ count (number "entries") "translation")
  else if event = ("catalog.default_pass" : Text) then
    some ("No catalog for '" ++ shown "locale" ++ "': default locale pass")
  else if event = ("catalog.lookup_written" : Text) then
    some ("  lookup → " ++ shown "path")
  else if event = ("asset.rewritten" : Text) then
    some ("  ✓ " ++ shown "asset" ++ " (" ++ count (number "nuggets") "nugget" ++ ", "
      ++ (number "translated").shown ++ " translated)")
  else if event = ("translation.missing" : Text) then
    some ("  ⚠ Missing translation in " ++ shown "asset" ++ ": '" ++ brief (shown "key")
      ++ "' (" ++ shown "locale" ++ ")")
  else if event = ("build.complete" : Text) then
    some ("\n✓ Build complete (" ++ count (number "assets") "asset" ++ ", "
      ++ (number "rewritten").shown ++ " rewritten, " ++ count (number "warnings") "warning" ++ ")")
  else none

/-- The line of an event, if it has one.  No field may have a name that the formatting knows itself
or the event by. -/
def format (event : Text) (fields : Arguments) : Except ArgumentError (Option Text) := do
  fields.checkPlaced "HumanFormatter.format_event" ["self", "event"]
  return line? event fields

end Human

end Localize
