import Localize.Unicode.Blank
import Localize.Unicode.LowerCase
import Localize.Value.Basic

/-!
# Settings documents and what overrides them

Settings come as documents, mappings whose sections are mappings again.  A run has up to three of
them: a file, the environment, and the options it was started with, each overriding the one before.

`merge` lays one document over another.  Where both have a mapping the two are merged in turn;
anywhere else the upper document wins, mapping or not.  What the lower document alone has stays.

Which option sets what is a table (`optionPlaces`), and so is which options count: most count if
they are given and not empty, and the switches and numbers if they are given at all, so that a zero
or a `false` can override.
-/

set_option autoImplicit false

namespace Localize

namespace Settings

/-- The entries of a mapping. -/
abbrev Document := List (Value × Value)

/-- The value of a key in a document. -/
def find? (key : Value) : Document → Option Value
  | [] => none
  | (k, v) :: rest => if k.sameKey key then some v else find? key rest

/-! ## Merging -/

mutual

/-- What stands at a key after a value was laid over what stood there. -/
def overlay (base : Option Value) : Value → Value
  | .map upper =>
    match base.bind Value.entries? with
    | some base => .map (merge base upper)
    | none => .map upper
  | value => value

/-- Lays a document over another. -/
def merge (base : Document) : Document → Document
  | [] => base
  | (key, value) :: rest => merge (Value.put key (overlay (find? key base) value) base) rest

end

/-! ## Places -/

/-- Where a setting stands: at the top of a document, or in one of its sections. -/
inductive Place
  | top (name : Text)
  | inside (section' name : Text)
deriving DecidableEq, Repr

/-- Sets one setting in a document of overrides. -/
def setAt (place : Place) (value : Value) (overrides : Document) : Document :=
  match place with
  | .top name => Value.put (.text name) value overrides
  | .inside section' name =>
    let old : Document :=
      match find? (.text section') overrides with
      | some (.map entries) => entries
      | _ => []
    Value.put (.text section') (.map (Value.put (.text name) value old)) overrides

/-! ## The environment -/

/-- Variables and their values. -/
abbrev Environment := List (Text × Text)

/-- The variables that set something. -/
def variableNames : List String := [
  "EASYI18N_LOCALE", "EASYI18N_CATALOG", "EASYI18N_LOG_LEVEL", "EASYI18N_ALWAYS_REMOVE_BRACKETS"]

/-- A variable that is set to something. -/
def given? (env : Environment) (name : String) : Option Text :=
  (env.lookup (Text.ofString name)).filter (· ≠ [])

/-- The texts that switch a variable on. -/
def onTexts : List Text := ["1", "true", "yes", "on"]

/-- What the environment sets. -/
def fromEnvironment (env : Environment) : Document :=
  let add (name : String) (place : Place) (read : Text → Value) (doc : Document) : Document :=
    match given? env name with
    | some value => setAt place (read value) doc
    | none => doc
  [] |> add "EASYI18N_LOCALE" (.top "locale") .text
    |> add "EASYI18N_CATALOG" (.inside "catalog" "path") .text
    |> add "EASYI18N_LOG_LEVEL" (.inside "logging" "level") (fun t => .text t.lower)
    |> add "EASYI18N_ALWAYS_REMOVE_BRACKETS" (.inside "nuggets" "always_remove_brackets")
      (fun t => .bool (onTexts.contains (Text.lower (Text.strip t))))

/-! ## Options -/

/-- Options by name, as a run was given them. -/
abbrev Options := List (Text × Value)

/-- When an option counts, and in what form. -/
inductive Rule
  /-- It counts if it is given and not empty. -/
  | nonempty
  /-- It counts if it is given. -/
  | given
  /-- It counts if it is not empty, and sets a list. -/
  | items
deriving DecidableEq, Repr

/-- What each option sets, in the order in which they are looked at. -/
def optionPlaces : List (Text × Rule × Place) := [
  ("locale", .nonempty, .top "locale"),
  ("catalog", .nonempty, .inside "catalog" "path"),
  ("lookup_dir", .nonempty, .inside "catalog" "lookup_dir"),
  ("always_remove_brackets", .given, .inside "nuggets" "always_remove_brackets"),
  ("warn_missing", .given, .inside "nuggets" "warn_on_missing_translations"),
  ("exclude", .items, .inside "assets" "exclude_urls"),
  ("include", .items, .inside "assets" "include_urls"),
  ("input_dir", .nonempty, .inside "build" "input_dir"),
  ("output_dir", .nonempty, .inside "build" "output_dir"),
  ("workers", .given, .inside "build" "workers"),
  ("log_level", .nonempty, .inside "logging" "level"),
  ("log_file", .nonempty, .inside "logging" "file"),
  ("verbose", .given, .inside "logging" "verbose")]

/-- A value that has no items, by its kind. -/
structure NoItems where
  kind : Text
deriving DecidableEq, Repr

/-- The items of a value: a text has its code points, and a mapping its keys. -/
def itemsOf : Value → Except NoItems (List Value)
  | .list items => .ok items
  | .text t => .ok (t.map fun c => .text [c])
  | .map entries => .ok (entries.map Prod.fst)
  | v => .error ⟨v.kind⟩

/-- What an option sets, if it counts. -/
def optionValue (rule : Rule) (value : Value) : Except NoItems (Option Value) :=
  match rule with
  | .nonempty => .ok (if value.truthy then some value else none)
  | .given => .ok (if value.isNull then none else some value)
  | .items => if value.truthy then (fun items => some (.list items)) <$> itemsOf value else .ok none

/-- What options set, looked at in order. -/
def fromOptionsBy (options : Options) :
    List (Text × Rule × Place) → Document → Except NoItems Document
  | [], doc => .ok doc
  | (name, rule, place) :: rest, doc => do
    match ← optionValue rule ((options.lookup name).getD .null) with
    | some value => fromOptionsBy options rest (setAt place value doc)
    | none => fromOptionsBy options rest doc

/-- What options set. -/
def fromOptions (options : Options) : Except NoItems Document :=
  fromOptionsBy options optionPlaces []

/-- A document with options laid over it. -/
def applyOptions (doc : Document) (options : Options) : Except NoItems Document := do
  return merge doc (← fromOptions options)

/-- What is said of an option that had to have items. -/
def NoItems.message (e : NoItems) : Text := "'" ++ e.kind ++ "' object is not iterable"

end Settings

end Localize
