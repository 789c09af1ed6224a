import Localize.Text.Basic

/-!
# Paths

A path is read once and kept in parts.  Empty parts and single dots say nothing and are left out;
double dots say something only together with the tree they are walked in, so they stay.  A path
that begins with exactly two slashes keeps both, and one that begins with more keeps one.

`Path.resolve` is the reading of a path without a tree: double dots take the part before them away.
It agrees with walking in a tree without links, as far as the walk gets.
-/

set_option autoImplicit false

namespace Localize

/-- What a path begins with. -/
inductive Root
  | relative
  | absolute
  | doubled
deriving DecidableEq, Repr, Inhabited

/-- A path in parts. -/
structure Path where
  root : Root
  parts : List Text
deriving DecidableEq, Repr, Inhabited

/-- A place in a tree: the names from its root down. -/
abbrev Location := List Text

namespace Path

/-- The slash between parts. -/
def slash : Text := Text.ofChars ['/']

/-- A single dot. -/
def dot : Text := Text.ofChars ['.']

/-- The two dots that lead up. -/
def up : Text := Text.ofChars ['.', '.']

/-- How many slashes a text begins with. -/
def slashes (t : Text) : Nat := (t.takeWhile (· = CodePoint.ofChar '/')).length

/-- The root of the path a text writes. -/
def rootOf (t : Text) : Root :=
  match slashes t with
  | 0 => .relative
  | 2 => .doubled
  | _ => .absolute

/-- The path a text writes. -/
def ofText (t : Text) : Path where
  root := rootOf t
  parts := (Text.splitOn slash t).filter fun part => part ≠ [] && part ≠ dot

/-- The text of a path; the path of nothing is a dot. -/
def toText (p : Path) : Text :=
  let shown := Text.join slash p.parts
  match p.root with
  | .relative => if p.parts = [] then dot else shown
  | .absolute => slash ++ shown
  | .doubled => slash ++ slash ++ shown

/-- A path below another; a path with a root stands for itself. -/
def join (p q : Path) : Path :=
  if q.root = .relative then { p with parts := p.parts ++ q.parts } else q

/-- The path without its last part. -/
def parent (p : Path) : Path := { p with parts := p.parts.dropLast }

/-- The last part. -/
def name (p : Path) : Text := p.parts.getLast?.getD []

/-- The end of the name from its last dot on, unless the dot is its first or last code point. -/
def suffix (p : Path) : Text :=
  let tail := p.name.reverse.takeWhile (· ≠ CodePoint.ofChar '.')
  if tail = [] ∨ p.name.length ≤ tail.length + 1 then []
  else p.name.drop (p.name.length - tail.length - 1)

/-- One step of reading a path without a tree. -/
def resolveStep (place : Location) (part : Text) : Location :=
  if part = up then place.dropLast else place ++ [part]

/-- The place a path means from a working directory, without a look at any tree. -/
def resolve (cwd : Location) (p : Path) : Location :=
  p.parts.foldl resolveStep (if p.root = .relative then cwd else [])

/-- The names from a place down, as a relative path. -/
def ofNames (names : Location) : Path := ⟨.relative, names⟩

end Path

/-- The text of a place. -/
def Location.toText (place : Location) : Text := Path.slash ++ Text.join Path.slash place

/-- The place lies at or below another. -/
def Location.isUnder (root place : Location) : Bool := root.isPrefixOf place

end Localize
