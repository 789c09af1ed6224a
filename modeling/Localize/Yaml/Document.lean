import Localize.Yaml.Object
import Localize.Yaml.Stream

/-!
# From YAML to values

The value of an object is the value of its parts.  An object that has itself inside is a loop, and
where it comes again inside there is only its number.

So the value of an object that is on a loop depends on where it stands: if the loop is entered at
another of its objects, it is this one that comes again.  What an object has come to at one place is
kept, and serves for all places at which the same objects come again (`Shape.fits`).
-/

set_option autoImplicit false

namespace Localize

namespace Yaml

/-- What a node comes to at a place. -/
structure Shape where
  value : Value
  /-- The loops that the value stands in and that come again inside. -/
  again : List Nat := []
  /-- The nodes inside that are on loops. -/
  looping : List Nat := []

namespace Shape

/-- What a node has come to at a place is what it comes to inside given nodes: what comes again is
around it, and nothing else on a loop is. -/
def fits (s : Shape) (around : List Nat) : Bool :=
  s.again.all (· ∈ around) && s.looping.all (· ∉ around)

/-- The value of a collection by the values of its parts. -/
def ofParts (parts : List Shape) (build : List Value → Value) : Shape where
  value := build (parts.map (·.value))
  again := (parts.flatMap (·.again)).eraseDups
  looping := (parts.flatMap (·.looping)).eraseDups

/-- The node that a shape belongs to comes again inside, or stands in what does: it is on a loop. -/
def close (n : Nat) (s : Shape) : Shape where
  value := if n ∈ s.again then .loop n s.value else s.value
  again := s.again.filter (· ≠ n)
  looping := if s.again = [] then s.looping else n :: s.looping

end Shape

/-- What nodes have come to at the latest place. -/
abbrev Shaping := StateM (Array (Option Shape))

namespace Objects

/-- A list of pairs of values. -/
def pairsOf (firsts seconds : List Value) : Value :=
  .list ((firsts.zip seconds).map fun (a, b) => .pair a b)

/-- What a node comes to inside others; `fuel` is more than the number of nodes that are not around
it. -/
def shape (s : Objects) : Nat → List Nat → Nat → Shaping Shape
  | 0, _, _ => return { value := .null }
  | fuel + 1, around, n => do
    let collection (isMap : Bool) (parts : List Nat) (build : List Value → Value) :
        Shaping Shape := do
      match (← get)[n]?.join with
      | some kept =>
        if kept.fits around then return kept
      | none => pure ()
      if n ∈ around then return { value := .again n isMap, again := [n] }
      else
        let parts ← parts.mapM (s.shape fuel (n :: around))
        let whole := (Shape.ofParts parts build).close n
        modify fun kept => kept.setIfInBounds n (some whole)
        return whole
    match s.get? n with
    | none => return { value := .null }
    | some (.value v) => return { value := v }
    | some (.set items) => return { value := .set items }
    | some (.list items) => collection false items .list
    | some (.map entries) =>
      collection true (entries.map (·.2)) fun values => .map ((entries.map (·.1)).zip values)
    | some (.pairs pairs) =>
      collection false (pairs.map (·.1) ++ pairs.map (·.2)) fun values =>
        pairsOf (values.take pairs.length) (values.drop pairs.length)

/-- The value of a node. -/
def value (s : Objects) (n : Nat) : Value :=
  ((s.shape (s.made.size + 1) [] n).run (Array.replicate s.made.size none)).1.value

end Objects

/-- The value of a script that holds one document; an empty script stands for nothing.  `room` is
how many calls can be made inside one another. -/
def read (room : Nat) (s : Script) : Except Fault Value := do
  match ← Stream.read room (tokens s) with
  | none => return .null
  | some (root, graph) => return (← Objects.ofNode room graph root).value root

end Yaml

end Localize
