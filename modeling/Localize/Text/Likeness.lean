import Localize.Text.Basic

/-!
# How alike two texts are

Two texts are compared by what they have in common: their longest common piece, then the longest
common piece of what stands before it in both, and of what stands after it, and so on.  Of pieces of
one length the one that begins first in the first text counts, and then the one that begins first in
the second.

The likeness of two texts is twice the length of all these pieces, over the length of both texts.
`Text.likest` picks out of a list of texts those that are most like a given one.
-/

set_option autoImplicit false

namespace Localize

/-- A piece that two texts have in common: where it begins in each, and its length. -/
structure CommonPiece where
  left : Nat := 0
  right : Nat := 0
  size : Nat := 0
deriving DecidableEq, Repr

namespace CommonPiece

/-- The longer of two pieces, the first one if they are equally long. -/
def longer (p q : CommonPiece) : CommonPiece := if p.size < q.size then q else p

/-- The length of what two texts begin with. -/
def sharedStart : Text → Text → Nat
  | a :: s, b :: t => if a = b then sharedStart s t + 1 else 0
  | _, _ => 0

/-- The longest piece that stands at the start of a text and anywhere in another. -/
def atStart (left : Nat) (a : Text) (right : Nat) : Text → CommonPiece
  | [] => {}
  | b :: t => longer ⟨left, right, sharedStart a (b :: t)⟩ (atStart left a (right + 1) t)

/-- The longest piece of two texts, of which the first one is read from a place on. -/
def longestFrom (b : Text) (left : Nat) : Text → CommonPiece
  | [] => {}
  | a :: s => longer (atStart left (a :: s) 0 b) (longestFrom b (left + 1) s)

/-- The longest common piece of two texts. -/
def longest (a b : Text) : CommonPiece := longestFrom b 0 a

end CommonPiece

namespace Text

/-- The length of all that two texts have in common. -/
def shared (a b : Text) : Nat :=
  match CommonPiece.longest a b with
  | ⟨left, right, size⟩ =>
    if _h : left < a.length ∧ 0 < size then
      shared (a.take left) (b.take right) + size
        + shared (a.drop (left + size)) (b.drop (right + size))
    else 0
termination_by a.length
decreasing_by
  · simp only [List.length_take]
    omega
  · simp only [List.length_drop]
    omega

/-- A likeness of at least three fifths. -/
def isLike (a b : Text) : Bool := 3 * (a.length + b.length) ≤ 10 * shared a b

/-- The first of two texts is at least as like a third as the second is.  Of equally like ones the
later one in order comes first. -/
def isLiker (word a b : Text) : Bool :=
  let x := shared a word * (b.length + word.length)
  let y := shared b word * (a.length + word.length)
  y < x || (x = y && Text.le b a)

/-- The texts of a list that are like a text, at most three, in order. -/
def likest (word : Text) (others : List Text) : List Text :=
  (((others.filter fun other => isLike other word).mergeSort (isLiker word)).take 3).mergeSort
    Text.le

end Text

end Localize
