import Localize.Nugget.Basic
import Localize.Resolution.Escape
import Localize.Resolution.Placeholder

/-!
# Resolving nuggets

A *policy* says what becomes of a nugget in one run.  There are three outcomes.

* *Translated*: the table has a nonempty value for the key.  The value is made ready for the splice
  and gets the arguments; the arguments are put in as they are.
* *Stripped*: there is no such value and the policy removes brackets.  The nugget's own text gets
  the arguments.
* *Kept*: there is no such value and the policy keeps brackets.  The nugget stays as written, for a
  later run to find.

A run may have no table at all, which is not the same as an empty one: without a table nothing is
missing, so nothing is warned about.
-/

set_option autoImplicit false

namespace Localize

/-- Keys and their wordings in a locale; of two entries with one key the table has but one. -/
structure Table where
  entries : List (Text × Text)
deriving DecidableEq, Repr, Inhabited

namespace Table

/-- The table without entries. -/
def empty : Table := ⟨[]⟩

/-- The wording of a key. -/
def get? (t : Table) (key : Text) : Option Text := t.entries.lookup key

/-- How many keys have a wording. -/
def size (t : Table) : Nat := t.entries.length

/-- Sets a pair in a list of pairs: a key that is there keeps its place. -/
def put (key value : Text) : List (Text × Text) → List (Text × Text)
  | [] => [(key, value)]
  | (k, v) :: rest => if k = key then (k, value) :: rest else (k, v) :: put key value rest

/-- Gives a key a wording, in the place of the one it had. -/
def insert (t : Table) (key value : Text) : Table := ⟨put key value t.entries⟩

end Table

/-- A key that a run's table does not translate. -/
structure MissingKey where
  asset : Text
  key : Text
  locale : Text
deriving DecidableEq, Repr

/-- The warning about a key without a wording, on two lines. -/
def MissingKey.message (m : MissingKey) : Text :=
  "Missing translation in " ++ m.asset ++ ".\n '" ++ m.key ++ "' : " ++ m.locale

/-- What becomes of a nugget. -/
inductive Outcome
  | translated (text : Text)
  | stripped (text : Text)
  | kept (text : Text)
deriving DecidableEq, Repr

namespace Outcome

/-- The text that takes the nugget's place. -/
def text : Outcome → Text
  | translated t | stripped t | kept t => t

/-- The nugget got the wording of its key. -/
def isTranslated : Outcome → Bool
  | translated _ => true
  | _ => false

end Outcome

/-- How the nuggets of a run are resolved. -/
structure Policy where
  /-- The table of the run's locale, or nothing for a run without a catalog. -/
  table : Option Table
  locale : Text := []
  removeBrackets : Bool := false
  warnOnMissing : Bool := true
deriving Repr

namespace Policy

/-- The outcome of a nugget that the table does not translate. -/
def fallback (p : Policy) (n : Nugget) : Except OversizedPlaceholder Outcome :=
  if p.removeBrackets then Outcome.stripped <$> Placeholder.format n.text n.args
  else .ok (.kept n.raw)

/-- The nonempty wording of a key, if the policy has one. -/
def wording? (p : Policy) (key : Text) : Option Text :=
  (p.table.bind (·.get? key)).filter (· ≠ [])

/-- The warning a key gives rise to: it is missing, and the policy has a table and warns. -/
def warning? (p : Policy) (key asset : Text) : Option MissingKey :=
  if p.table.isSome ∧ p.warnOnMissing ∧ p.wording? key = none then
    some ⟨asset, key, p.locale⟩
  else none

/-- The outcome of a nugget. -/
def outcome (p : Policy) (n : Nugget) : Except OversizedPlaceholder Outcome :=
  match p.wording? n.key with
  | some value => Outcome.translated <$> Placeholder.format (Escape.forSplice value) n.args
  | none => p.fallback n

/-- The outcome of a nugget of an asset, and the warning it gives rise to. -/
def resolve (p : Policy) (n : Nugget) (asset : Text) :
    Except OversizedPlaceholder (Outcome × Option MissingKey) := do
  let outcome ← p.outcome n
  return (outcome, p.warning? n.key asset)

end Policy

end Localize
