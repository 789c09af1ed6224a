import Localize.Number.Shortest
import Localize.Text.Quoted
import Localize.Text.Utf8

/-!
# Values of settings documents and events

What a settings document may hold, and what an event may carry: nothing, truth values, numbers,
texts, lists and mappings, and what settings documents know beside: bytes, sets, pairs and dates.  A
mapping keeps its entries in order.  Its keys are values too, because a settings document may use a
number for a key; no two keys of a mapping are the same.

A list or a mapping of a settings document may have itself somewhere inside.  Such a *loop* has a
number, and where it comes again inside there is only its number (`Value.again`).
`Value.entries?` and `Value.items?` look one level into a value, and put the whole loop in for its
number.

* `Value.same` — when two values count as equal: numbers of different kinds do if they have the
  same value, and a truth value counts as the number zero or one.
* `Value.truthy` — whether a value counts as given: nothing, zero and what is empty do not.
* `Value.quoted` and `Value.shown` — the text of a value inside a message, with texts between
  quotes and without.
-/

set_option autoImplicit false

namespace Localize

/-- A day of the calendar. -/
structure Date where
  year : Nat
  month : Nat
  day : Nat
deriving DecidableEq, Repr, Inhabited

/-- A moment of a day, in a zone given by its distance from universal time in minutes, or in no
zone. -/
structure Moment where
  date : Date
  hour : Nat
  minute : Nat
  second : Nat
  microsecond : Nat
  zone : Option Int
deriving DecidableEq, Repr, Inhabited

/-- A value of a settings document or an event. -/
inductive Value
  | null
  | bool (b : Bool)
  | int (i : Int)
  | float (x : Binary64)
  | text (t : Text)
  | list (items : List Value)
  | map (entries : List (Value × Value))
  | bytes (bs : Bytes)
  | set (items : List Value)
  | pair (first second : Value)
  | date (d : Date)
  | moment (m : Moment)
  /-- A list or a mapping that comes again inside. -/
  | loop (id : Nat) (whole : Value)
  /-- A loop that this stands in. -/
  | again (id : Nat) (isMap : Bool)
deriving Repr, Inhabited

instance : Coe Text Value := ⟨.text⟩

namespace Date

/-- Year, month and day with hyphens between. -/
def iso (d : Date) : Text :=
  Text.padLeft '0' 4 (Text.ofNat d.year) ++ "-" ++ Text.padLeft '0' 2 (Text.ofNat d.month) ++ "-"
    ++ Text.padLeft '0' 2 (Text.ofNat d.day)

end Date

namespace Moment

/-- Two digits. -/
def two (n : Nat) : Text := Text.padLeft '0' 2 (Text.ofNat n)

/-- A distance from universal time. -/
def zoneText (minutes : Int) : Text :=
  (if minutes < 0 then "-" else "+") ++ two (minutes.natAbs / 60) ++ ":"
    ++ two (minutes.natAbs % 60)

/-- The date, the time with a separator before it, microseconds if there are any, and the zone. -/
def iso (separator : Text) (m : Moment) : Text :=
  m.date.iso ++ separator ++ two m.hour ++ ":" ++ two m.minute ++ ":" ++ two m.second
    ++ (if m.microsecond = 0 then [] else
          (".": Text) ++ Text.padLeft '0' 6 (Text.ofNat m.microsecond))
    ++ (match m.zone with
        | none => []
        | some minutes => zoneText minutes)

end Moment

namespace Value

/-! ## Equality and presence -/

/-- The integer a value is equal to. -/
def toInt? : Value → Option Int
  | bool b => some (if b then 1 else 0)
  | int i => some i
  | float x => x.toInt?
  | _ => none

mutual

/-- Two values count as equal. -/
def same : Value → Value → Bool
  | null, null => true
  | text s, text t => s = t
  | list xs, list ys => sameItems xs ys
  | map xs, map ys => xs.length = ys.length && sameEntries xs ys
  | bytes s, bytes t => s = t
  | set xs, set ys => sameItems xs ys
  | pair a b, pair c d => same a c && same b d
  | date d, date e => d = e
  | moment m, moment n => m = n
  | float x, float y => x.equals y
  | x, y =>
    match toInt? x, toInt? y with
    | some i, some j => i = j
    | _, _ => false

/-- Two lists of values count as equal, item by item. -/
def sameItems : List Value → List Value → Bool
  | [], [] => true
  | x :: xs, y :: ys => same x y && sameItems xs ys
  | _, _ => false

/-- Two lists of entries count as equal, entry by entry. -/
def sameEntries : List (Value × Value) → List (Value × Value) → Bool
  | [], [] => true
  | (k, v) :: xs, (l, w) :: ys => same k l && same v w && sameEntries xs ys
  | _, _ => false

end

/-- The value counts as given. -/
def truthy : Value → Bool
  | null => false
  | bool b => b
  | int i => i ≠ 0
  | float x => x.isNonzero
  | text t => t ≠ []
  | list items => !items.isEmpty
  | map entries => !entries.isEmpty
  | bytes bs => !bs.isEmpty
  | set items => !items.isEmpty
  | pair _ _ | date _ | moment _ | loop _ _ | again _ _ => true

/-- The value is nothing. -/
def isNull : Value → Bool
  | null => true
  | _ => false

/-! ## Mappings with texts for keys -/

/-- A mapping given by fields. -/
def ofFields (fields : List (Text × Value)) : Value :=
  map (fields.map fun (name, value) => (text name, value))

/-- The value of a text among entries. -/
def field? (name : Text) : List (Value × Value) → Option Value
  | [] => none
  | (text key, value) :: rest => if key = name then some value else field? name rest
  | _ :: rest => field? name rest

/-- The entries that have a text for a key. -/
def fields (entries : List (Value × Value)) : List (Text × Value) :=
  entries.filterMap fun
    | (text key, value) => some (key, value)
    | _ => none

/-- Two keys count as one.  Unlike other values, what is not a number is the same key as itself. -/
def sameKey : Value → Value → Bool
  | float .nan, float .nan => true
  | k, l => same k l

/-- Gives a key a value: a key that is there keeps its place. -/
def put {α : Type} (key : Value) (value : α) : List (Value × α) → List (Value × α)
  | [] => [(key, value)]
  | (k, v) :: rest => if sameKey k key then (k, value) :: rest else (k, v) :: put key value rest

/-! ## Looking into values -/

mutual

/-- A value with a loop put in for its number. -/
def close (id : Nat) (whole : Value) : Value → Value
  | again i isMap => if i = id then whole else again i isMap
  | loop i v => if i = id then loop i v else loop i (close id whole v)
  | list items => list (closeItems id whole items)
  | map entries => map (closeEntries id whole entries)
  | pair a b => pair (close id whole a) (close id whole b)
  | v => v

/-- Values with a loop put in for its number. -/
def closeItems (id : Nat) (whole : Value) : List Value → List Value
  | [] => []
  | v :: rest => close id whole v :: closeItems id whole rest

/-- Entries with a loop put in for its number. -/
def closeEntries (id : Nat) (whole : Value) : List (Value × Value) → List (Value × Value)
  | [] => []
  | (k, v) :: rest => (k, close id whole v) :: closeEntries id whole rest

end

/-- The entries of a mapping. -/
def entries? : Value → Option (List (Value × Value))
  | map entries => some entries
  | loop id (map entries) => some (closeEntries id (loop id (map entries)) entries)
  | _ => none

/-- The items of a list or a set. -/
def items? : Value → Option (List Value)
  | list items | set items => some items
  | loop id (list items) => some (closeItems id (loop id (list items)) items)
  | _ => none

/-! ## Text -/

/-- A list of texts with commas between. -/
def commas (ts : List Text) : Text := Text.join ", " ts

/-- Bytes inside a message, between quotes as texts are. -/
def quotedBytes (bs : Bytes) : Text :=
  let codes : Text := bs.map fun b => CodePoint.ofNat b.toNat
  let quote := codes.quoteFor
  let shown (c : CodePoint) : Text :=
    if 0x7F ≤ c.val then "\\x" ++ Text.hex 2 c.val else Text.quotedOne quote c
  "b" ++ [quote] ++ codes.flatMap shown ++ [quote]

/-- What stands for a list or a mapping inside itself. -/
def ellipsis (isMap : Bool) : Text := if isMap then "\x7b...\x7d" else "[...]"

mutual

/-- A value inside a message that stands in loops of some numbers. -/
def quotedIn (around : List Nat) : Value → Text
  | null => "None"
  | bool b => if b then "True" else "False"
  | int i => Text.ofInt i
  | float x => x.toText
  | text t => t.quoted
  | list items => "[" ++ commas (quotedItems around items) ++ "]"
  | map entries => "\x7b" ++ commas (quotedEntries around entries) ++ "\x7d"
  | bytes bs => quotedBytes bs
  | set [] => "set()"
  | set (v :: rest) => "\x7b" ++ commas (quotedItems around (v :: rest)) ++ "\x7d"
  | pair a b => "(" ++ commas [quotedIn around a, quotedIn around b] ++ ")"
  | date d =>
    "datetime.date(" ++ commas [Text.ofNat d.year, Text.ofNat d.month, Text.ofNat d.day] ++ ")"
  | moment m =>
    let parts := [m.date.year, m.date.month, m.date.day, m.hour, m.minute]
      ++ (if m.microsecond ≠ 0 then [m.second, m.microsecond]
          else if m.second ≠ 0 then [m.second] else [])
    let zone : List Text :=
      match m.zone with
      | none => []
      | some 0 => ["tzinfo=datetime.timezone.utc"]
      | some minutes =>
        let days := if minutes < 0 then ("days=-1, " : Text) else []
        let seconds := if minutes < 0 then 86400 + minutes * 60 else minutes * 60
        ["tzinfo=datetime.timezone(datetime.timedelta(" ++ days ++ "seconds=" ++ Text.ofInt seconds
          ++ "))"]
    "datetime.datetime(" ++ commas (parts.map Text.ofNat ++ zone) ++ ")"
  | loop id v =>
    if id ∈ around then ellipsis (v matches map _) else quotedIn (id :: around) v
  | again _ isMap => ellipsis isMap

/-- Values inside a message. -/
def quotedItems (around : List Nat) : List Value → List Text
  | [] => []
  | v :: rest => quotedIn around v :: quotedItems around rest

/-- Entries inside a message. -/
def quotedEntries (around : List Nat) : List (Value × Value) → List Text
  | [] => []
  | (k, v) :: rest =>
    (quotedIn around k ++ ": " ++ quotedIn around v) :: quotedEntries around rest

end

/-- A value inside a message, texts between quotes. -/
def quoted (v : Value) : Text := quotedIn [] v

/-- A value as it is put into a sentence: a text stands as it is. -/
def shown : Value → Text
  | text t => t
  | date d => d.iso
  | moment m => m.iso " "
  | v => quoted v

/-- The name of a value's kind. -/
def kind : Value → Text
  | null => "NoneType"
  | bool _ => "bool"
  | int _ => "int"
  | float _ => "float"
  | text _ => "str"
  | list _ => "list"
  | map _ => "dict"
  | bytes _ => "bytes"
  | set _ => "set"
  | pair _ _ => "tuple"
  | date _ => "date"
  | moment _ => "datetime"
  | loop _ v => kind v
  | again _ isMap => if isMap then "dict" else "list"

end Value

end Localize
