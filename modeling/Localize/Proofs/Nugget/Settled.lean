import Localize.Proofs.Nugget.Pieces

/-!
# What stands before a nugget is settled

Whether a code point begins a nugget is decided by the whole text behind it: an opening mark waits
for a closing mark, however far away.  Once a nugget has been found, though, nothing before it waits
any more.  An opening mark before the nugget that begins none of its own has a closing mark right
behind it, and it cannot lie against the nugget, because an opening bracket there would belong to a
nugget itself.  So what was read up to a nugget is read in the same way **whatever takes the place
of the nugget and of the text behind it**.

* `Settled` — a stretch in which no nugget begins, whatever stands behind it.
* `gap_induction` — a text is a settled stretch, a nugget and a rest, or it holds no nugget.
* `scan_append_of_scan_eq` — the pieces before a nugget stay as they are.
* `scan_behind` — the pieces behind a nugget are those of the text behind it.
* `scan_exchange` — a nugget gives way to another one.
-/

set_option autoImplicit false

namespace Localize
namespace Nugget

open Text (Clear)

/-! ## Settled stretches -/

/-- No nugget begins in the stretch, whatever stands behind it. -/
def Settled (a : Text) : Prop := ∀ t, ∀ i < a.length, body? ((a ++ t).drop i) = none

theorem settled_nil : Settled [] := fun _ i hi => absurd hi (Nat.not_lt_zero i)

theorem settled_cons_iff {c : CodePoint} {a : Text} :
    Settled (c :: a) ↔ (∀ t, body? (c :: (a ++ t)) = none) ∧ Settled a := by
  constructor
  · intro h
    exact ⟨fun t => h t 0 (by simp), fun t i hi => h t (i + 1) (by simpa using hi)⟩
  · rintro ⟨hhead, htail⟩ t i hi
    cases i with
    | zero => exact hhead t
    | succ i => exact htail t i (by simpa using hi)

/-- Where no opening mark can begin, no nugget can. -/
theorem settled_of_clear {a : Text} (h : Clear openMark a) : Settled a :=
  fun t i hi => body?_eq_none_of_openMark_absent (h t i hi)

/-- A settled stretch is plain. -/
theorem scan_append_of_settled {a : Text} (h : Settled a) (t : Text) :
    scan (a ++ t) = a.map .plain ++ scan t := by
  induction a with
  | nil => rfl
  | cons c a ih =>
    rw [settled_cons_iff] at h
    rw [List.cons_append, scan_cons_of_none (h.1 t), ih h.2]
    rfl

/-- A stretch in which no opening mark can begin is plain. -/
theorem scan_append_of_clear {a : Text} (h : Clear openMark a) (t : Text) :
    scan (a ++ t) = a.map .plain ++ scan t :=
  scan_append_of_settled (settled_of_clear h) t

/-- A stretch that ends in an opening bracket is not settled before a nugget. -/
theorem not_settled_open {body : Text} (h : IsBody body) :
    ¬ Settled [CodePoint.ofChar '['] :=
  fun hopen => body?_open_cons h [] ((settled_cons_iff.1 hopen).1 _)

/-- Before a nugget a closing mark that stands at the start stands before the nugget. -/
theorem closeMark_prefix_of_prefix_append {a body rest : Text}
    (h : closeMark <+: a ++ (openMark ++ body ++ closeMark ++ rest)) : closeMark <+: a := by
  have hcons : openMark ++ body ++ closeMark ++ rest
      = CodePoint.ofChar '[' :: (openMark ++ body ++ closeMark ++ rest).drop 1 := rfl
  rw [hcons] at h
  exact (Text.prefix_append_cons_iff (by decide) a _).1 h

/-- **A code point before a nugget that begins none begins none for good**, if what stands between
the two is settled. -/
theorem settled_cons_of_none {c : CodePoint} {a body rest : Text} (hbody : IsBody body)
    (ha : Settled a) (hnone : body? (c :: (a ++ (openMark ++ body ++ closeMark ++ rest))) = none) :
    Settled (c :: a) := by
  refine settled_cons_iff.2 ⟨fun t => ?_, ha⟩
  rw [Option.eq_none_iff_forall_ne_some]
  intro body' hfound
  obtain ⟨hbody', rest', hmarks⟩ := body?_eq_some_iff.1 hfound
  have hcons : openMark ++ body' ++ closeMark ++ rest' = CodePoint.ofChar '[' ::
      CodePoint.ofChar '[' :: CodePoint.ofChar '[' :: (body' ++ closeMark ++ rest') := rfl
  obtain ⟨rfl, h₁⟩ := List.cons.inj (hmarks.trans hcons)
  -- The two other brackets of the opening mark stand before the nugget.
  cases a with
  | nil => exact body?_open_cons hbody rest hnone
  | cons d a =>
    obtain ⟨rfl, h₂⟩ := List.cons.inj h₁
    cases a with
    | nil => exact not_settled_open hbody ha
    | cons e a =>
      obtain ⟨rfl, h₃⟩ := List.cons.inj h₂
      have hclose : closeMark <+: a := by
        rcases of_body?_openMark_append_eq_none (u := a ++ (openMark ++ body ++ closeMark ++ rest))
          hnone with habsent | hstarts
        · exact absurd ⟨a ++ (openMark ++ body), rest, by simp [List.append_assoc]⟩ habsent
        · exact closeMark_prefix_of_prefix_append hstarts
      obtain ⟨v, rfl⟩ := hclose
      refine hbody'.clear (closeMark ++ rest') 0 (List.length_pos_iff.2 hbody'.ne_nil) ?_
      refine ⟨v ++ t, ?_⟩
      rw [← List.append_assoc, ← List.append_assoc]
      exact h₃

/-! ## Texts by their gaps -/

/-- **Induction along the nuggets of a text**: it holds none, or it is a settled stretch, a nugget,
and a rest. -/
@[elab_as_elim]
theorem gap_induction {motive : Text → Prop} (t : Text)
    (last : ∀ t, scan t = t.map .plain → motive t)
    (nugget : ∀ a body rest, Settled a → IsBody body → motive rest →
      motive (a ++ (openMark ++ body ++ closeMark ++ rest))) : motive t := by
  suffices h : scan t = t.map .plain ∨ ∃ a body rest, Settled a ∧ IsBody body ∧ motive rest ∧
      t = a ++ (openMark ++ body ++ closeMark ++ rest) by
    rcases h with h | ⟨a, body, rest, ha, hbody, hrest, rfl⟩
    · exact last t h
    · exact nugget a body rest ha hbody hrest
  induction t using scan_induction with
  | nil => exact Or.inl rfl
  | plain c t hnone ih =>
    rcases ih with ih | ⟨a, body, rest, ha, hbody, hrest, rfl⟩
    · exact Or.inl (by rw [scan_cons_of_none hnone, ih]; rfl)
    · exact Or.inr ⟨c :: a, body, rest, settled_cons_of_none hbody ha hnone, hbody, hrest, rfl⟩
  | nugget body rest hbody ih =>
    have hrest : motive rest := by
      rcases ih with ih | ⟨a, body', rest', ha, hbody', hrest', rfl⟩
      · exact last rest ih
      · exact nugget a body' rest' ha hbody' hrest'
    exact Or.inr ⟨[], body, rest, settled_nil, hbody, hrest, rfl⟩

/-- A settled stretch and the nugget behind it. -/
theorem scan_settled_nugget_append {a body : Text} (ha : Settled a) (hbody : IsBody body)
    (rest : Text) : scan (a ++ (openMark ++ body ++ closeMark ++ rest))
      = a.map .plain ++ .nugget (ofBody body) :: scan rest := by
  rw [scan_append_of_settled ha, scan_nugget_append hbody]

/-- **The pieces before a nugget stay as they are**, whatever takes the place of the nugget and of
the text behind it. -/
theorem scan_append_of_scan_eq {t : Text} {ps qs : List Piece} {n : Nugget}
    (h : scan t = ps ++ .nugget n :: qs) (u : Text) : scan (sourceOf ps ++ u) = ps ++ scan u := by
  induction t using gap_induction generalizing ps with
  | last t hplain =>
    rw [hplain] at h
    exact absurd (h ▸ List.mem_append_cons_self) nugget_not_mem_map_plain
  | nugget a body rest ha hbody ih =>
    rw [scan_settled_nugget_append ha hbody] at h
    rcases List.append_eq_append_iff.1 h with ⟨ps', rfl, hps'⟩ | ⟨qs', hqs', hnext⟩
    · cases ps' with
      | nil => rw [List.append_nil, sourceOf_map_plain, scan_append_of_settled ha]
      | cons piece ps' =>
        obtain ⟨rfl, hrest⟩ := List.cons.inj hps'
        have hsource : sourceOf (a.map .plain ++ .nugget (ofBody body) :: ps') ++ u
            = a ++ (openMark ++ body ++ closeMark ++ (sourceOf ps' ++ u)) := by
          rw [sourceOf_append, sourceOf_map_plain, sourceOf_cons, Piece.source, raw_ofBody,
            List.append_assoc, List.append_assoc]
        rw [hsource, scan_settled_nugget_append ha hbody, ih hrest, List.append_assoc]
        rfl
    · cases qs' with
      | nil =>
        rw [List.append_nil] at hqs'
        rw [← hqs', sourceOf_map_plain, scan_append_of_settled ha]
      | cons piece qs' =>
        obtain ⟨rfl, -⟩ := List.cons.inj hnext
        exact absurd (hqs' ▸ List.mem_append_cons_self) nugget_not_mem_map_plain

/-- The text of pieces with a nugget among them. -/
theorem eq_of_scan_eq {t : Text} {ps qs : List Piece} {n : Nugget}
    (h : scan t = ps ++ .nugget n :: qs) : t = sourceOf ps ++ (n.raw ++ sourceOf qs) := by
  rw [← sourceOf_scan t, h, sourceOf_append, sourceOf_cons, Piece.source]

/-- **The pieces behind a nugget are those of the text behind it.** -/
theorem scan_behind {t : Text} {ps qs : List Piece} {n : Nugget}
    (h : scan t = ps ++ .nugget n :: qs) : scan (sourceOf qs) = qs := by
  have hmem : Piece.nugget n ∈ scan t := h ▸ List.mem_append_cons_self
  obtain ⟨body, hbody, rfl⟩ := exists_isBody_of_mem_scan hmem
  have hscan := scan_append_of_scan_eq h ((ofBody body).raw ++ sourceOf qs)
  rw [← eq_of_scan_eq h, h, raw_ofBody, scan_nugget_append hbody] at hscan
  exact (List.cons.inj (List.append_cancel_left hscan)).2.symm

/-- **One nugget can be exchanged for another**, and the pieces before and behind it stay as they
are. -/
theorem scan_exchange {t : Text} {ps qs : List Piece} {n : Nugget}
    (h : scan t = ps ++ .nugget n :: qs) {body : Text} (hbody : IsBody body) :
    scan (sourceOf ps ++ (openMark ++ body ++ closeMark ++ sourceOf qs))
      = ps ++ .nugget (ofBody body) :: qs := by
  rw [scan_append_of_scan_eq h, scan_nugget_append hbody, scan_behind h]

end Nugget
end Localize
