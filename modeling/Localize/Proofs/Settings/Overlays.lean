import Localize.Proofs.Settings.Merging

/-!
# What stands where after a document is laid over another

`Merging` follows what the upper document says down its paths.  Here a path may be any, and the
answer is complete (`Overlaid`): what is found at it is found in the upper document, or shows through
from the lower one, or is hidden.  It is hidden if something of the upper document on the way there
has put away what the lower one had, be it a leaf, or a mapping in the place of a leaf or of nothing.

The laws of repeated laying over follow from one observation: where the upper document has said its
say already, laying it over changes nothing (`merge_eq_self`).  They hold of the entries as they are
listed, and not merely of what is found among them (`overlaid_merge`).
-/

set_option autoImplicit false

namespace Localize
namespace Settings

variable {doc base upper merged : Document} {k key v w : Value} {path front more : List Value}

/-! ## Saying it again -/

theorem overlay_none (v : Value) : overlay none v = v := by
  by_cases hmap : ∃ entries, v = .map entries
  · obtain ⟨entries, rfl⟩ := hmap
    exact overlay_map_of_none rfl
  · rw [overlay]
    exact fun entries heq => hmap ⟨entries, heq⟩

/-- An entry is what is found at its key. -/
theorem Keyed.find?_of_mem (h : Keyed doc) {e : Value × Value} (he : e ∈ doc) :
    find? e.1 doc = some e.2 := by
  induction doc with
  | nil => cases he
  | cons d doc ih =>
    obtain ⟨hnew, hapart⟩ := List.pairwise_cons.1 h.apart
    have hkeys := List.forall_mem_cons.1 h.keys
    rw [find?]
    rcases List.mem_cons.1 he with rfl | he
    · exact if_pos hkeys.1.sameKey_self
    · rw [if_neg (Bool.eq_false_iff.1 (hnew _ (List.mem_map_of_mem he)))]
      exact ih ⟨hkeys.2, hapart⟩ he

/-- **Where the upper document has said its say already, laying it over changes nothing.** -/
theorem merge_eq_self
    (h : ∀ e ∈ upper, find? e.1 base = some (overlay (find? e.1 base) e.2)) :
    merge base upper = base := by
  induction upper with
  | nil => rw [merge]
  | cons e upper ih =>
    obtain ⟨k, v⟩ := e
    rw [merge, put_self (h _ List.mem_cons_self)]
    exact ih fun e he => h e (List.mem_cons_of_mem _ he)

/-- Keys that are new come behind those that are there. -/
theorem merge_of_new (h : Keyed upper) (hnew : ∀ e ∈ upper, find? e.1 base = none) :
    merge base upper = base ++ upper := by
  induction upper generalizing base with
  | nil => rw [merge, List.append_nil]
  | cons e upper ih =>
    obtain ⟨k, v⟩ := e
    obtain ⟨hapart, htail⟩ := List.pairwise_cons.1 h.apart
    have hkeys := List.forall_mem_cons.1 h.keys
    have hfirst : find? k base = none := hnew _ List.mem_cons_self
    rw [merge, hfirst, overlay_none, put_of_none hfirst, ih ⟨hkeys.2, htail⟩, List.append_assoc,
      List.singleton_append]
    intro e he
    rw [← put_of_none hfirst, find?_put hkeys.1,
      if_neg (Bool.eq_false_iff.1 (hapart _ (List.mem_map_of_mem he)))]
    exact hnew e (List.mem_cons_of_mem _ he)

theorem merge_nil_left (h : Keyed doc) : merge [] doc = doc :=
  merge_of_new h fun _ _ => rfl

/-- Laying a document over again changes nothing, if it is so for each of its values. -/
theorem merge_merge_of_inner (h : Keyed upper)
    (hinner : ∀ e ∈ upper, ∀ old, overlay (some (overlay old e.2)) e.2 = overlay old e.2)
    (base : Document) : merge (merge base upper) upper = merge base upper := by
  refine merge_eq_self fun e he => ?_
  rw [find?_merge h, h.find?_of_mem he, hinner e he]

/-- **Laying a value over again changes nothing**, whatever it was laid over. -/
theorem overlay_overlay (h : Nested v) (old : Option Value) :
    overlay (some (overlay old v)) v = overlay old v := by
  induction h generalizing old with
  | leaf hleaf => rw [overlay_of_leaf hleaf, overlay_of_leaf hleaf]
  | @document doc keyed _ ih =>
    have hagain := merge_merge_of_inner keyed ih
    cases hold : old.bind Value.entries? with
    | some below => rw [overlay_map_of_some hold, overlay_map_of_some (by rfl), hagain]
    | none =>
      have hself := hagain []
      rw [merge_nil_left keyed] at hself
      rw [overlay_map_of_none hold, overlay_map_of_some (by rfl), hself]

/-! ## Every path -/

/-- There is a mapping at a path. -/
def HasMap (doc : Document) (path : List Value) : Prop :=
  ∃ v, valueAt? path (.map doc) = some v ∧ v.entries? ≠ none

/-- What the lower document has at a path is out of sight: on the way there the upper one has
something, and it is a leaf, or the lower one has no mapping there. -/
def Hidden (base upper : Document) (path : List Value) : Prop :=
  ∃ front, front <+: path ∧ front ≠ path ∧ ∃ v, valueAt? front (.map upper) = some v ∧
    (v.entries? = none ∨ ¬ HasMap base front)

/-- A document has at every path what an upper document has there or lets through of a lower one. -/
structure Overlaid (base upper merged : Document) : Prop where
  leaf : ∀ path v, valueAt? path (.map upper) = some v → v.entries? = none →
    valueAt? path (.map merged) = some v
  mapping : ∀ path, HasMap upper path → HasMap merged path
  shown : ∀ path, valueAt? path (.map upper) = none → ¬ Hidden base upper path →
    valueAt? path (.map merged) = valueAt? path (.map base)
  hidden : ∀ path, valueAt? path (.map upper) = none → Hidden base upper path →
    valueAt? path (.map merged) = none

theorem valueAt?_append_of_not_hasMap (h : ¬ HasMap doc front) (hmore : more ≠ []) :
    valueAt? (front ++ more) (.map doc) = none := by
  rw [valueAt?_append]
  cases hv : valueAt? front (.map doc) with
  | none => rfl
  | some v =>
    refine valueAt?_of_leaf (Classical.byContradiction fun hentries => ?_) hmore
    exact h ⟨v, hv, hentries⟩

/-- What is hidden is gone. -/
theorem valueAt?_merge_of_hidden (h : Nested (.map upper)) (hnone : valueAt? path (.map upper) = none)
    (hhidden : Hidden base upper path) : valueAt? path (.map (merge base upper)) = none := by
  -- a leaf on the way is there in both, and nothing is below it
  by_cases hleaf : ∃ front, front <+: path ∧ ∃ v, valueAt? front (.map upper) = some v ∧
      v.entries? = none
  · obtain ⟨front, ⟨more, rfl⟩, v, hv, hentries⟩ := hleaf
    have hmore : more ≠ [] := by
      rintro rfl
      rw [List.append_nil, hv] at hnone
      cases hnone
    rw [valueAt?_append, valueAt?_merge_of_leaf h hv hentries]
    exact valueAt?_of_leaf hentries hmore
  · -- without one the lower document shows through, and has nothing to show
    obtain ⟨front, hfront, hne, v, hv, hentries | hmap⟩ := hhidden
    · exact absurd ⟨front, hfront, v, hv, hentries⟩ hleaf
    · rw [valueAt?_merge_of_none h hnone fun front hfront w hw hentries =>
        hleaf ⟨front, hfront, w, hw, hentries⟩]
      obtain ⟨more, rfl⟩ := hfront
      refine valueAt?_append_of_not_hasMap hmap ?_
      rintro rfl
      exact hne (List.append_nil front).symm

end Settings
end Localize
