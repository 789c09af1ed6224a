import Localize.Yaml.Node
import Localize.Yaml.Token

/-!
# The grammar of YAML

The tokens of a stream are read into the nodes of one document.  A node may be missing where one is
expected, at the end of a line after `a:` for instance; what stands there is then an empty scalar.

A node with an anchor is known by that name from its beginning on, so that a collection can have
itself among its parts.

All that is asked about the next token is asked by `Stream.look`.  What cannot be read is a fault at
the first look at it, and until then it does not matter.

A collection is read while the one around it is, and only so many can be read inside one another
(`Stream.within`).
-/

set_option autoImplicit false

namespace Localize

namespace Yaml

/-- A stream of tokens as far as it has been read. -/
structure Stream where
  tokens : List Token
  /-- What the handles of tags stand for. -/
  handles : List (Text × Text) := []
  /-- The nodes of anchors. -/
  anchors : List (Text × Nat) := []
  graph : Graph := {}
  /-- How many calls can still be made inside those that are being made. -/
  room : Nat

namespace Stream

/-- A part of the stream that is read. -/
abbrev Reading := StateT Stream (Except Fault)

/-- The next token; there is none at the end. -/
def look : Reading (Option Token) := do
  match (← get).tokens with
  | [] => return none
  | .broken f :: _ => throw f
  | t :: _ => return some t

/-- Moves over a token. -/
def skip : Reading Unit := modify fun s => { s with tokens := s.tokens.drop 1 }

/-- The next token is one of a list. -/
def sees (ts : List Token) : Reading Bool := do
  match ← look with
  | some t => return ts.elem t
  | none => return false

/-! ## Properties of nodes -/

/-- What stands before the content of a node: an anchor, and the full name of a tag. -/
structure Properties where
  anchor : Option Text := none
  tag : Option Text := none

/-- Nothing stands before the content. -/
def Properties.isEmpty (p : Properties) : Bool := p.anchor.isNone && p.tag.isNone

/-- An anchor, if one is here. -/
def anchor : Reading (Option Text) := do
  match ← look with
  | some (.anchor name) => do
    skip
    return some name
  | _ => return none

/-- A tag, if one is here: its handle, and the rest of its name. -/
def tag : Reading (Option (Option Text × Text)) := do
  match ← look with
  | some (.tag handle name) => do
    skip
    return some (handle, name)
  | _ => return none

/-- The full name of a tag. -/
def fullName : Option Text × Text → Reading Text
  | (none, name) => return name
  | (some handle, name) => do
    match (← get).handles.lookup handle with
    | some start => return start ++ name
    | none => throw .malformed

/-- The properties that are here, in either order. -/
def properties : Reading Properties := do
  match ← anchor with
  | some name => return ⟨some name, ← (← tag).mapM fullName⟩
  | none =>
    match ← tag with
    | none => return {}
    | some written => do
      let anchor ← anchor
      return ⟨anchor, some (← fullName written)⟩

/-- The tag that leaves the kind of a scalar to its form. -/
def byForm : Text := "!"

/-- The tag of a scalar. -/
def scalarTag (p : Properties) (text : Text) (plain : Bool) : Tag :=
  match p.tag with
  | none => if plain then Tag.ofPlain text else .text
  | some name => if name = byForm then Tag.ofPlain text else Tag.ofName name

/-- The tag of a collection of a kind. -/
def collectionTag (p : Properties) (kind : Tag) : Tag :=
  match p.tag with
  | none => kind
  | some name => if name = byForm then kind else Tag.ofName name

/-- Adds a node to the graph. -/
def add (n : Node) : Reading Nat := do
  let number := (← get).graph.size
  modify fun s => { s with graph := s.graph.push n }
  return number

/-- No other node has the anchor. -/
def checkAnchor (p : Properties) : Reading Unit := do
  let anchors := (← get).anchors
  if (p.anchor.bind fun name => anchors.lookup name).isSome then throw .malformed

/-- Adds a node by the name of its anchor. -/
def addNamed (p : Properties) (n : Node) : Reading Nat := do
  let number ← add n
  match p.anchor with
  | none => return number
  | some name => do
    modify fun s => { s with anchors := (name, number) :: s.anchors }
    return number

/-! ## Nodes -/

/-- A node, or what stands for it if one of the tokens follows that say that it is missing. -/
def unlessMissing (ends : List Token) (read : Reading Nat) : Reading Nat := do
  if ← sees ends then add Node.missing else read

/-- The value after a key, if a colon is here. -/
def valueAfter (ends : List Token) (read : Reading Nat) : Reading Nat := do
  if ← sees [.value] then
    skip
    unlessMissing ends read
  else add Node.missing

/-- A scalar. -/
def scalar (p : Properties) (text : Text) (plain : Bool) : Reading Nat := do
  checkAnchor p
  addNamed p ⟨scalarTag p text plain, .scalar text⟩

/-- How many calls a collection takes. -/
def callsPerCollection : Nat := 2

/-- Reads inside another collection. -/
def within {α : Type} (read : Reading α) : Reading α := do
  let room := (← get).room
  if room < callsPerCollection then throw .deep
  else
    modify fun s => { s with room := room - callsPerCollection }
    let a ← read
    modify fun s => { s with room }
    return a

/-- A collection of a kind, whose parts are read after it is known by its name. -/
def collection (p : Properties) (kind : Tag) (read : Reading Content) : Reading Nat := do
  checkAnchor p
  within do
    let number ← addNamed p ⟨collectionTag p kind, .list []⟩
    let content ← read
    modify fun s => { s with graph := s.graph.setContent number content }
    return number

mutual

/-- A node.  `block` says that it may be a block collection, and `bare` that it may be a list whose
items are no deeper than the key before them. -/
def node (block bare : Bool) : Nat → Reading Nat
  | 0 => throw .malformed
  | fuel + 1 => do
    match ← look with
    | some (.alias name) => do
      skip
      match (← get).anchors.lookup name with
      | some number => return number
      | none => throw .malformed
    | _ => do
      let p ← properties
      content block bare p fuel

/-- A node after its properties. -/
def content (block bare : Bool) (p : Properties) : Nat → Reading Nat
  | 0 => throw .malformed
  | fuel + 1 => do
    let next ← look
    match next with
    | some (.scalar text plain) => do
      skip
      scalar p text plain
    | some .flowSequenceStart =>
      collection p .list do
        skip
        return .list (← flowItems true fuel)
    | some .flowMappingStart =>
      collection p .map do
        skip
        return .map (← flowEntries true fuel)
    | _ =>
      if next = some .blockEntry ∧ bare then
        collection p .list do return .list (← blockItems false fuel)
      else if next = some .blockSequenceStart ∧ block then
        collection p .list do
          skip
          return .list (← blockItems true fuel)
      else if next = some .blockMappingStart ∧ block then
        collection p .map do
          skip
          return .map (← blockEntries fuel)
      else if p.isEmpty then throw .malformed
      else scalar p [] true

/-- The items of a block list; one that is not bare has an end of its own. -/
def blockItems (closed : Bool) : Nat → Reading (List Nat)
  | 0 => throw .malformed
  | fuel + 1 => do
    if ← sees [.blockEntry] then
      skip
      let ends :=
        if closed then [.blockEntry, .blockEnd] else [.blockEntry, .key, .value, .blockEnd]
      let item ← unlessMissing ends (node true false fuel)
      return item :: (← blockItems closed fuel)
    else if !closed then return []
    else if ← sees [.blockEnd] then
      skip
      return []
    else throw .malformed

/-- The entries of a block mapping. -/
def blockEntries : Nat → Reading (List Entry)
  | 0 => throw .malformed
  | fuel + 1 => do
    if ← sees [.key] then
      skip
      let ends := [.key, .value, .blockEnd]
      let key ← unlessMissing ends (node true true fuel)
      let value ← valueAfter ends (node true true fuel)
      return (key, value) :: (← blockEntries fuel)
    else if ← sees [.blockEnd] then
      skip
      return []
    else throw .malformed

/-- The items of a flow list; commas stand between them. -/
def flowItems (first : Bool) : Nat → Reading (List Nat)
  | 0 => throw .malformed
  | fuel + 1 => do
    if ← sees [.flowSequenceEnd] then
      skip
      return []
    else
      if !first then
        if ← sees [.flowEntry] then skip else throw .malformed
      if ← sees [.flowSequenceEnd] then
        skip
        return []
      else if ← sees [.key] then
        let item ← collection {} .map do
          skip
          let key ← unlessMissing [.value, .flowEntry, .flowSequenceEnd] (node false false fuel)
          let value ← valueAfter [.flowEntry, .flowSequenceEnd] (node false false fuel)
          return .map [(key, value)]
        return item :: (← flowItems false fuel)
      else
        let item ← node false false fuel
        return item :: (← flowItems false fuel)

/-- The entries of a flow mapping; commas stand between them, and a key may have no value. -/
def flowEntries (first : Bool) : Nat → Reading (List Entry)
  | 0 => throw .malformed
  | fuel + 1 => do
    if ← sees [.flowMappingEnd] then
      skip
      return []
    else
      if !first then
        if ← sees [.flowEntry] then skip else throw .malformed
      if ← sees [.flowMappingEnd] then
        skip
        return []
      else if ← sees [.key] then
        skip
        let key ← unlessMissing [.value, .flowEntry, .flowMappingEnd] (node false false fuel)
        let value ← valueAfter [.flowEntry, .flowMappingEnd] (node false false fuel)
        return (key, value) :: (← flowEntries false fuel)
      else
        let key ← node false false fuel
        let value ← add Node.missing
        return (key, value) :: (← flowEntries false fuel)

end

/-! ## Documents -/

/-- The handles that need no directive. -/
def commonHandles : List (Text × Text) := [("!", "!"), ("!!", Tag.common)]

/-- Reads directives, of which there is no more than one for a version and one for a handle;
`version` says that there was one for a version. -/
def directives (version : Bool) : Nat → Reading Unit
  | 0 => throw .malformed
  | fuel + 1 => do
    match ← look with
    | some (.directive _ (some major) _) =>
      if version ∨ major ≠ 1 then throw .malformed
      else
        skip
        directives true fuel
    | some (.directive _ none (some (handle, start))) =>
      if ((← get).handles.lookup handle).isSome then throw .malformed
      else
        skip
        modify fun s => { s with handles := (handle, start) :: s.handles }
        directives version fuel
    | some (.directive _ none none) => do
      skip
      directives version fuel
    | _ => return

/-- Moves over marks of the end of a document. -/
def skipEnds : Nat → Reading Unit
  | 0 => throw .malformed
  | fuel + 1 => do
    if ← sees [.documentEnd] then
      skip
      skipEnds fuel

/-- What follows a document: nothing but marks of its end. -/
def finish (fuel : Nat) : Reading Unit := do
  skipEnds fuel
  match ← look with
  | none => return
  | some _ => do
    modify fun s => { s with handles := [] }
    directives false fuel
    let _ ← look
    throw .malformed

/-- The only document of a stream: the number of its node, if there is a document. -/
def document (fuel : Nat) : Reading (Option Nat) := do
  match ← look with
  | none => return none
  | some (.directive ..) | some .documentStart => do
    directives false fuel
    if ← sees [.documentStart] then
      skip
      modify fun s => { s with handles := s.handles ++ commonHandles }
      let root ←
        match ← look with
        | none | some (.directive ..) | some .documentStart | some .documentEnd => add Node.missing
        | some _ => node true false fuel
      finish fuel
      return some root
    else throw .malformed
  | some _ => do
    modify fun s => { s with handles := commonHandles }
    let root ← node true false fuel
    finish fuel
    return some root

/-- The nodes of the only document, and the number of the outermost; there may be no document.
`room` is how many calls can be made inside one another. -/
def read (room : Nat) (tokens : List Token) : Except Fault (Option (Nat × Graph)) := do
  let (root, s) ← (document (4 * tokens.length + 16)).run { tokens, room }
  return root.map fun root => (root, s.graph)

end Stream

end Yaml

end Localize
