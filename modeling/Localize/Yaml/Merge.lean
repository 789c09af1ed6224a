import Localize.Yaml.Node

/-!
# Merging mappings

An entry with a merging key puts the entries of other mappings in front of those of its own
mapping, which therefore win.  The value of the entry is a mapping or a list of mappings, of which
the first wins.  What is merged is merged into before.

A mapping that is merged into has no merging entries any more, and a key for the value of its own
has become a text (`Graph.flatten`).  This is done to the nodes, so that it shows wherever an alias
stands for them.  A mapping may merge itself: it then brings what it has by then.
-/

set_option autoImplicit false

namespace Localize

namespace Yaml

namespace Graph

/-- The key of an entry merges. -/
def isMerging (g : Graph) (e : Entry) : Bool := g.tag e.1 = .merge

/-- A graph without the first merging entry of a mapping. -/
def dropMerging (g : Graph) (n : Nat) : Graph :=
  g.setContent n (.map ((g.entries n).eraseP g.isMerging))

/-- A way to flatten a mapping. -/
abbrev Flattening := Graph → Nat → Except Fault Graph

/-- Flattens mappings one after the other, and gives the entries of each. -/
def flattenAll (flat : Flattening) : Graph → List Nat → Except Fault (Graph × List (List Entry))
  | g, [] => .ok (g, [])
  | g, n :: rest =>
    match (g.node n).content with
    | .map _ => do
      let g ← flat g n
      let entries := g.entries n
      let (g, more) ← flattenAll flat g rest
      return (g, entries :: more)
    | _ => .error .malformed

/-- The entries that the value of a merging key brings. -/
def brought (flat : Flattening) (g : Graph) (value : Nat) : Except Fault (Graph × List Entry) :=
  let mappings : Except Fault (List Nat) :=
    match (g.node value).content with
    | .map _ => .ok [value]
    | .list items => .ok items
    | .scalar _ => .error .malformed
  do
    let (g, parts) ← flattenAll flat g (← mappings)
    return (g, parts.reverse.flatten)

/-- The entries that are brought to a mapping, given those that it had to begin with.  If it has no
merging entries any more, it has been flattened on the way. -/
def broughtTo (flat : Flattening) (n : Nat) :
    Graph → List Entry → Except Fault (Graph × List Entry)
  | g, [] => .ok (g, [])
  | g, e :: rest =>
    if g.isMerging e then
      if (g.entries n).any g.isMerging then do
        let (g, first) ← brought flat (g.dropMerging n) e.2
        let (g, more) ← broughtTo flat n g rest
        return (g, first ++ more)
      else broughtTo flat n g rest
    else if g.tag e.1 = .own then broughtTo flat n (g.setTag e.1 .text) rest
    else broughtTo flat n g rest

/-- Flattens a mapping.  `room` is how many calls can be made inside one another, and each step
inwards takes one. -/
def flatten : Nat → Flattening
  | 0, _, _ => .error .deep
  | room + 1, g, n => do
    let (g, merged) ← broughtTo (flatten room) n g (g.entries n)
    return if merged = [] then g else g.setContent n (.map (merged ++ g.entries n))

end Graph

end Yaml

end Localize
