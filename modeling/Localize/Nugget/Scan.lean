import Localize.Nugget.Basic

/-!
# Finding the nuggets of a text

A text falls into *pieces*: nuggets, and single code points that belong to none.  The rule is
greedy from the left.  Where an opening mark stands, the nearest closing mark after it decides: if
there is one and the body in between is not empty, the whole is a nugget and reading goes on behind
it; otherwise the code point is plain and reading goes on one code point further.  So `[[[]]]` is
six plain code points, and an opening mark that nothing closes hides nothing after it.

`scan` gives the pieces, `nuggets` the nuggets with their places, and `sourceOf` is the way back:
the pieces of a text, written one after the other, are the text (`sourceOf_scan`).
-/

set_option autoImplicit false

namespace Localize

/-- A stretch of a text: one code point outside all nuggets, or a nugget. -/
inductive Piece
  | plain (c : CodePoint)
  | nugget (n : Nugget)
deriving DecidableEq, Repr

namespace Piece

/-- The text of a piece, as it stands in its source. -/
def source : Piece → Text
  | plain c => [c]
  | nugget n => n.raw

/-- The nugget of a piece. -/
def nugget? : Piece → Option Nugget
  | plain _ => none
  | nugget n => some n

end Piece

namespace Nugget

/-- The body of the nugget a text starts with. -/
def body? (t : Text) : Option Text :=
  match (Text.after? openMark t).bind (Text.breakOn closeMark) with
  | some (c :: body, _) => some (c :: body)
  | _ => none

/-- The pieces of a text of which the first `skip` code points are already accounted for. -/
def scanFrom : Nat → Text → List Piece
  | _, [] => []
  | skip + 1, _ :: t => scanFrom skip t
  | 0, c :: t =>
    match body? (c :: t) with
    | some body => .nugget (ofBody body) :: scanFrom (body.length + 5) t
    | none => .plain c :: scanFrom 0 t

/-- The pieces of a text, from left to right. -/
def scan (t : Text) : List Piece := scanFrom 0 t

/-- A nugget and the place where it was found. -/
structure Located where
  nugget : Nugget
  /-- Position of the opening mark. -/
  start : Nat
deriving DecidableEq, Repr

/-- Position just past the closing mark. -/
def Located.stop (l : Located) : Nat := l.start + l.nugget.raw.length

/-- The nuggets among pieces that begin at a position. -/
def locate : Nat → List Piece → List Located
  | _, [] => []
  | pos, .plain _ :: ps => locate (pos + 1) ps
  | pos, .nugget n :: ps => ⟨n, pos⟩ :: locate (pos + n.raw.length) ps

/-- The nuggets of a text with their places, from left to right. -/
def nuggets (t : Text) : List Located := locate 0 (scan t)

/-- The text that pieces were found in. -/
def sourceOf (ps : List Piece) : Text := ps.flatMap Piece.source

/-! ## Laws -/

/-- The nugget of a body is written as the body between its marks. -/
theorem raw_ofBody (body : Text) : (ofBody body).raw = openMark ++ body ++ closeMark := by
  unfold ofBody
  split <;> rfl

/-- A body that is found stands between its marks at the start of the text. -/
theorem body?_eq_some {t body : Text} (h : body? t = some body) :
    ∃ rest, t = openMark ++ body ++ closeMark ++ rest := by
  unfold body? at h
  split at h
  · rename_i c body' rest hb
    cases h
    obtain ⟨inner, hopen, hclose⟩ := Option.bind_eq_some_iff.mp hb
    refine ⟨rest, ?_⟩
    rw [Text.after?_eq_some_iff.mp hopen, Text.breakOn_eq_some hclose]
    simp [List.append_assoc]
  · cases h

/-- Skipping code points is dropping them. -/
theorem scanFrom_eq_scanFrom_drop (skip : Nat) (t : Text) :
    scanFrom skip t = scanFrom 0 (t.drop skip) := by
  induction t generalizing skip with
  | nil => cases skip <;> simp [scanFrom]
  | cons c t ih =>
    cases skip with
    | zero => rfl
    | succ skip => rw [scanFrom, ih, List.drop_succ_cons]

/-- The pieces of a text, written one after the other, are the text. -/
theorem sourceOf_scan (t : Text) : sourceOf (scan t) = t := by
  unfold scan
  induction hn : t.length using Nat.strongRecOn generalizing t with
  | ind n ih =>
    subst hn
    cases t with
    | nil => rfl
    | cons c t =>
      rw [scanFrom]
      split
      · rename_i body hb
        obtain ⟨rest, ht⟩ := body?_eq_some hb
        have hdrop : t.drop (body.length + 5) = rest := by
          have hlen : body.length + 5 + 1 = (openMark ++ body ++ closeMark).length := by
            simp [openMark, closeMark, Text.ofChars]
          rw [← List.drop_succ_cons (a := c), ht, hlen, List.drop_left]
        rw [scanFrom_eq_scanFrom_drop, hdrop]
        have hshort : rest.length < (c :: t).length := by
          rw [ht]; simp [openMark, Text.ofChars]; omega
        rw [sourceOf, List.flatMap_cons, ← sourceOf, ih _ hshort rest rfl, Piece.source, raw_ofBody,
          ht]
      · rw [sourceOf, List.flatMap_cons, ← sourceOf, ih _ (by simp) t rfl]
        rfl

end Nugget

end Localize
