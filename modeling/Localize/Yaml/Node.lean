import Localize.Yaml.Scalar

/-!
# The nodes of a YAML document

An alias stands for the very node that its anchor names, and not for a copy.  So a node may be a
part of many others, and of itself, and the nodes of a document are a graph: each has a number, and
a collection gives its parts by their numbers (`Graph`).

A number that no node has stands for an empty scalar; it does not occur.
-/

set_option autoImplicit false

namespace Localize

namespace Yaml

/-- A key and its value, by their numbers. -/
abbrev Entry := Nat × Nat

/-- What a node consists of. -/
inductive Content
  | scalar (text : Text)
  | list (items : List Nat)
  | map (entries : List Entry)
deriving DecidableEq, Repr

/-- A tagged value. -/
structure Node where
  tag : Tag
  content : Content
deriving DecidableEq, Repr

/-- What stands where a node is missing. -/
def Node.missing : Node := ⟨.null, .scalar []⟩

/-- The nodes of a document. -/
structure Graph where
  nodes : Array Node := #[]
deriving Repr

namespace Graph

/-- How many nodes there are. -/
def size (g : Graph) : Nat := g.nodes.size

/-- The node of a number. -/
def node (g : Graph) (n : Nat) : Node := g.nodes[n]?.getD Node.missing

/-- The tag of a node. -/
def tag (g : Graph) (n : Nat) : Tag := (g.node n).tag

/-- The entries of a mapping; other nodes have none. -/
def entries (g : Graph) (n : Nat) : List Entry :=
  match (g.node n).content with
  | .map entries => entries
  | _ => []

/-- Adds a node; its number is the size before. -/
def push (g : Graph) (n : Node) : Graph := ⟨g.nodes.push n⟩

/-- Gives a node another content. -/
def setContent (g : Graph) (n : Nat) (c : Content) : Graph :=
  ⟨g.nodes.modify n fun node => { node with content := c }⟩

/-- Gives a node another tag. -/
def setTag (g : Graph) (n : Nat) (t : Tag) : Graph :=
  ⟨g.nodes.modify n fun node => { node with tag := t }⟩

end Graph

end Yaml

end Localize
