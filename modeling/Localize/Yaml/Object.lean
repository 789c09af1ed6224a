import Localize.Yaml.Merge

/-!
# The objects of a YAML document

An object is what a node means: a value, or a collection of objects, given by the numbers of their
nodes.  Keys are values.  A key that comes twice keeps its first place and takes its last value.

Collections are made empty and filled later, in rounds from the outermost inwards, so that an
object may have itself inside (`Making.rounds`).  Of several faults in a document the one counts
that is met first on this way.
-/

set_option autoImplicit false

namespace Localize

namespace Yaml

/-- What a node means. -/
inductive Object
  | value (v : Value)
  | list (items : List Nat)
  | map (entries : List (Value × Nat))
  | set (items : List Value)
  | pairs (pairs : List Entry)
deriving Repr

/-- The empty collection of a kind. -/
def Object.empty? : Tag → Option Object
  | .list => some (.list [])
  | .map => some (.map [])
  | .set => some (.set [])
  | .pairs => some (.pairs [])
  | _ => none

/-- The text of a node as a scalar; a mapping stands for the value of its own, and may be that value
itself.  `room` is how many calls can be made inside one another. -/
def Graph.text (g : Graph) : Nat → Nat → Except Fault Text
  | 0, _ => .error .deep
  | room + 1, n =>
    match (g.node n).content with
    | .scalar text => .ok text
    | .list _ => .error .malformed
    | .map entries =>
      match entries.find? fun e => g.tag e.1 = .own with
      | some (_, value) => g.text room value
      | none => .error .malformed

/-- The value of a node as a scalar. -/
def Graph.scalar (g : Graph) (room n : Nat) : Except Fault Value := do
  let node := g.node n
  let text ← g.text room n
  match node.tag, node.content with
  | .moment, .map _ => throw (.nonsense .mappedMoment)
  | tag, _ => Scalar.value tag text

/-- Objects as far as they are made. -/
structure Objects where
  graph : Graph
  /-- How many calls can be made inside one another. -/
  room : Nat
  /-- The objects of nodes. -/
  made : Array (Option Object)
  /-- The collections to be filled, the latest first. -/
  waiting : List Nat := []

/-- The object of a node, if it is made. -/
def Objects.get? (s : Objects) (n : Nat) : Option Object := s.made[n]?.join

/-- A step in making objects. -/
abbrev Making := StateT Objects (Except Fault)

namespace Making

/-- Takes note of the object of a node. -/
def put (n : Nat) (o : Object) : Making Unit :=
  modify fun s => { s with made := s.made.setIfInBounds n (some o) }

/-- Makes the object of a node, unless it is made. -/
def make (n : Nat) : Making Unit := do
  let s ← get
  if (s.get? n).isNone then
    match Object.empty? (s.graph.tag n) with
    | some o => do
      put n o
      modify fun s => { s with waiting := n :: s.waiting }
    | none => do put n (.value (← s.graph.scalar s.room n))

/-- Makes the object of a key, which is a value. -/
def key (n : Nat) : Making Value := do
  make n
  match (← get).get? n with
  | some (.value v) => return v
  | _ => throw .malformed

/-- Makes the objects of an entry, and adds it to those before. -/
def entry (before : List (Value × Nat)) (e : Entry) : Making (List (Value × Nat)) := do
  let k ← key e.1
  make e.2
  return Value.put k e.2 before

/-- Makes the objects of a mapping. -/
def entries (n : Nat) : Making (List (Value × Nat)) := do
  let s ← get
  match (s.graph.node n).content with
  | .map _ => do
    let graph ← s.graph.flatten s.room n
    modify fun s => { s with graph }
    (graph.entries n).foldlM entry []
  | _ => throw .malformed

/-- Makes the objects of a list. -/
def items (n : Nat) : Making (List Nat) := do
  match ((← get).graph.node n).content with
  | .list items => do
    items.forM make
    return items
  | _ => throw .malformed

/-- Makes the objects of a pair, which is a mapping with one entry. -/
def pair (n : Nat) : Making Entry := do
  match ((← get).graph.node n).content with
  | .map [e] => do
    make e.1
    make e.2
    return e
  | _ => throw .malformed

/-- Makes the objects of a list of pairs. -/
def pairs (n : Nat) : Making (List Entry) := do
  match ((← get).graph.node n).content with
  | .list items => items.mapM pair
  | _ => throw .malformed

/-- Fills a collection. -/
def fill (n : Nat) : Making Unit := do
  match (← get).get? n with
  | some (.list _) => put n (.list (← items n))
  | some (.map _) => put n (.map (← entries n))
  | some (.set _) => put n (.set ((← entries n).map (·.1)))
  | some (.pairs _) => put n (.pairs (← pairs n))
  | _ => return

/-- Fills what waits, round after round.  What is filled in one round leaves the collections that it
has inside to the next, so that `fuel` needs to be no more than the number of nodes and one. -/
def rounds : Nat → Making Unit
  | 0 => return
  | fuel + 1 => do
    match (← get).waiting.reverse with
    | [] => return
    | round => do
      modify fun s => { s with waiting := [] }
      round.forM fill
      rounds fuel

end Making

/-- The objects of a graph that belong to a node. -/
def Objects.ofNode (room : Nat) (g : Graph) (n : Nat) : Except Fault Objects := do
  let start : Objects := { graph := g, room, made := Array.replicate g.size none }
  let making : Making Unit := do
    Making.make n
    Making.rounds (g.size + 1)
  let (_, s) ← making.run start
  return s

end Yaml

end Localize
