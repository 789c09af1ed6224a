import Localize.Text.Basic

/-!
# Texts in order

Texts are compared code point by code point, and lists of texts text by text.  Both are the
lexicographic comparison of lists (`compare_eq_compareLex`, `compareList_eq_compareLex`), which makes
them linear orders.  So what is sorted by them stands in one order only: two lists in order with the
same members, each of them once, are the same (`eq_of_pairwise_compareList`).
-/

set_option autoImplicit false

namespace Localize
namespace Text

open Std

/-- Texts are compared as lists of code points are. -/
theorem compare_eq_compareLex (s t : Text) : compare s t = List.compareLex Ord.compare s t := by
  induction s generalizing t with
  | nil => cases t <;> rfl
  | cons a s ih =>
    cases t with
    | nil => rfl
    | cons b t =>
      rw [compare, List.compareLex_cons_cons, ih]
      rcases Nat.lt_trichotomy a.val b.val with h | h | h
      · rw [if_pos (Fin.lt_def.2 h), show Ord.compare a b = .lt from Nat.compare_eq_lt.2 h]
        rfl
      · obtain rfl := Fin.ext h
        rw [if_neg (Fin.lt_irrefl a), if_neg (Fin.lt_irrefl a), compare_self]
        rfl
      · have hnot : ¬ a < b := Nat.lt_asymm h
        rw [if_neg hnot, if_pos (Fin.lt_def.2 h),
          show Ord.compare a b = .gt from Nat.compare_eq_gt.2 h]
        rfl

instance : TransCmp compare := by
  rw [show compare = List.compareLex Ord.compare from
    funext fun s => funext fun t => compare_eq_compareLex s t]
  infer_instance

instance : LawfulEqCmp compare := by
  rw [show compare = List.compareLex Ord.compare from
    funext fun s => funext fun t => compare_eq_compareLex s t]
  infer_instance

/-- Of two texts in order the first is less, unless they are the same. -/
theorem lt_of_le_of_ne {s t : Text} (hle : le s t = true) (hne : s ≠ t) : compare s t = .lt := by
  rw [le] at hle
  cases hcompare : compare s t with
  | lt => rfl
  | eq => exact absurd (LawfulEqCmp.eq_of_compare hcompare) hne
  | gt =>
    rw [hcompare] at hle
    cases hle

/-- Lists of texts are compared as lists. -/
theorem compareList_eq_compareLex (s t : List Text) :
    compareList s t = List.compareLex compare s t := by
  induction s generalizing t with
  | nil => cases t <;> rfl
  | cons a s ih =>
    cases t with
    | nil => rfl
    | cons b t => rw [compareList, List.compareLex_cons_cons, ih]

instance : TransCmp compareList := by
  rw [show compareList = List.compareLex compare from
    funext fun s => funext fun t => compareList_eq_compareLex s t]
  infer_instance

instance : LawfulEqCmp compareList := by
  rw [show compareList = List.compareLex compare from
    funext fun s => funext fun t => compareList_eq_compareLex s t]
  infer_instance

/-- What is sorted stands in order. -/
theorem pairwise_mergeSort_compareList (ls : List (List Text)) :
    (ls.mergeSort fun a b => (compareList a b).isLE).Pairwise
      fun a b => (compareList a b).isLE = true := by
  refine List.pairwise_mergeSort (fun a b c => TransCmp.isLE_trans) (fun a b => ?_) ls
  have hswap : compareList b a = (compareList a b).swap := OrientedCmp.eq_swap
  rw [hswap]
  cases compareList a b <;> rfl

/-- What stands in order, each of it once, strictly increases. -/
theorem pairwise_lt_of_nodup {ls : List (List Text)} (hnodup : ls.Nodup)
    (hsorted : ls.Pairwise fun a b => (compareList a b).isLE = true) :
    ls.Pairwise fun a b => compareList a b = .lt := by
  refine (hsorted.and hnodup).imp fun {a b} h => ?_
  cases hcompare : compareList a b with
  | lt => rfl
  | eq => exact absurd (LawfulEqCmp.eq_of_compare hcompare) h.2
  | gt =>
    have hle := h.1
    rw [hcompare] at hle
    cases hle

/-- **There is one order only.**  Lists in order with the same members, each of them once, are the
same. -/
theorem eq_of_pairwise_compareList {ls ls' : List (List Text)} (hnodup : ls.Nodup)
    (hnodup' : ls'.Nodup) (hsorted : ls.Pairwise fun a b => (compareList a b).isLE = true)
    (hsorted' : ls'.Pairwise fun a b => (compareList a b).isLE = true)
    (hmem : ∀ l, l ∈ ls ↔ l ∈ ls') : ls = ls' := by
  refine ((List.perm_ext_iff_of_nodup hnodup hnodup').2 hmem).eq_of_pairwise ?_ hsorted hsorted'
  intro a b _ _ hab hba
  exact LawfulEqCmp.eq_of_compare (OrientedCmp.isLE_antisymm hab hba)

end Text
end Localize
