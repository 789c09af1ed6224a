import Localize.Proofs.Nugget.Settled

/-!
# Replacing nuggets

A run puts texts in the place of nuggets and leaves everything else alone.  What a later run finds
in the result is decided by the whole text again, so a text that was put in could in principle
complete a mark with the code points next to it.  `scan_sourceOf_replaced` says that this does not
happen as long as no opening bracket is put in: **the nuggets found in the new text are exactly
those that were left**, and everything else in it is plain.

The reason is that the stretch before a nugget is settled: nothing that takes the place of the
nugget or of the text behind it makes a nugget begin there.
-/

set_option autoImplicit false

namespace Localize

open Text (Clear)

/-- The pieces that take the place of one: a nugget for which there is a text gives way to the
code points of the text. -/
def Piece.replace (g : Nugget → Option Text) : Piece → List Piece
  | .plain c => [.plain c]
  | .nugget n => match g n with
    | some s => s.map .plain
    | none => [.nugget n]

namespace Nugget

/-- The pieces of a text after some of its nuggets have given way. -/
def replaced (g : Nugget → Option Text) (t : Text) : List Piece :=
  (scan t).flatMap (Piece.replace g)

variable {g : Nugget → Option Text}

/-- Plain code points have nothing to give way. -/
theorem flatMap_replace_map_plain (a : Text) :
    (a.map .plain).flatMap (Piece.replace g) = a.map .plain := by
  induction a with
  | nil => rfl
  | cons c a ih =>
    rw [List.map_cons, List.flatMap_cons, ih]
    rfl

/-- The first nugget of a text gives way or stays, and the stretch before it stays. -/
theorem replaced_settled_nugget_append {a body : Text} (ha : Settled a) (hbody : IsBody body)
    (rest : Text) : replaced g (a ++ (openMark ++ body ++ closeMark ++ rest))
      = a.map .plain ++ (Piece.replace g (.nugget (ofBody body)) ++ replaced g rest) := by
  rw [replaced, scan_settled_nugget_append ha hbody, List.flatMap_append,
    flatMap_replace_map_plain, List.flatMap_cons]
  rfl

/-- **Nuggets can be replaced without disturbing the others.**  When the texts that are put in
hold no opening bracket, scanning the new text gives the nuggets that were left, in their places,
and plain code points besides. -/
theorem scan_sourceOf_replaced {t : Text}
    (h : ∀ n, .nugget n ∈ scan t → ∀ s, g n = some s → CodePoint.ofChar '[' ∉ s) :
    scan (sourceOf (replaced g t)) = replaced g t := by
  induction t using gap_induction with
  | last t hplain => rw [replaced, hplain, flatMap_replace_map_plain, sourceOf_map_plain, hplain]
  | nugget a body rest ha hbody ih =>
    rw [scan_settled_nugget_append ha hbody] at h
    have hrest := ih fun n hn => h n (List.mem_append_right _ (List.mem_cons_of_mem _ hn))
    rw [replaced_settled_nugget_append ha hbody, sourceOf_append, sourceOf_map_plain,
      sourceOf_append, scan_append_of_settled ha]
    congr 1
    cases hg : g (ofBody body) with
    | none =>
      have hkept : Piece.replace g (.nugget (ofBody body)) = [.nugget (ofBody body)] := by
        rw [Piece.replace, hg]
      have hsource : sourceOf [.nugget (ofBody body)] = openMark ++ body ++ closeMark := by
        rw [sourceOf_cons, Piece.source, raw_ofBody, sourceOf, List.flatMap_nil, List.append_nil]
      rw [hkept, hsource, scan_nugget_append hbody, hrest]
      rfl
    | some s =>
      have hput : Piece.replace g (.nugget (ofBody body)) = s.map .plain := by
        rw [Piece.replace, hg]
      have hclear : Clear openMark s :=
        clear_openMark_of_not_mem (h _ List.mem_append_cons_self s hg)
      rw [hput, sourceOf_map_plain, scan_append_of_clear hclear, hrest]

end Nugget
end Localize
