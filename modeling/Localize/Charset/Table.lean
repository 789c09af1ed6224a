import Localize.Text.Basic

/-!
# Tables of code points

Standards number the characters of a script and leave gaps.  A table gives the code point of each
number; it is written down run by run, and a blank, which no such standard numbers, stands in a gap.
-/

set_option autoImplicit false

namespace Localize

namespace Charset

/-- Code points by number. -/
structure Table where
  cells : Array Char
deriving DecidableEq, Repr

namespace Table

/-- What stands in a gap. -/
def gap : Char := ' '

/-- Writes a run from a number on. -/
def writeRun (cells : Array Char) (run : Nat × String) : Array Char :=
  (run.2.toList.zipIdx run.1).foldl (fun cells (c, i) => cells.setIfInBounds i c) cells

/-- A table of a size, given by runs and the numbers that they begin at. -/
def ofRuns (size : Nat) (runs : List (Nat × String)) : Table :=
  ⟨runs.foldl writeRun (Array.replicate size gap)⟩

/-- The code point of a number. -/
def get? (t : Table) (i : Nat) : Option CodePoint :=
  match t.cells[i]? with
  | some c => if c = gap then none else some (CodePoint.ofChar c)
  | none => none

/-- The code points of a table. -/
def codes (t : Table) : List CodePoint :=
  (t.cells.toList.filter (· ≠ gap)).map CodePoint.ofChar

end Table

/-- The code points from a first to a last that are not among given ones, in order. -/
def missing (taken : List CodePoint) (first last : Nat) : Array CodePoint :=
  let size := last + 1 - first
  let flags := taken.foldl
    (fun flags c => if first ≤ c.val then flags.setIfInBounds (c.val - first) true else flags)
    (Array.replicate size false)
  ((List.range size).filter fun i => flags[i]? = some false).toArray.map fun i =>
    CodePoint.ofNat (first + i)

end Charset

end Localize
