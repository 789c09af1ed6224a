import Localize.Proofs.Resolution.Splicing

/-!
# What a run over a text counts

A run counts the nuggets of its text, and those among them that get a wording, and it warns about
keys.  None of this hangs on how the outcomes come out: it is told by the keys of the nuggets alone
(`tally_of_localize`).  If a policy has a table and warns, a nugget either gets a wording or gives
rise to a warning, so the counts go together (`length_eq_translated_add_warnings`).
-/

set_option autoImplicit false

namespace Localize
namespace Policy

open Nugget (Located nuggets)

variable {p : Policy} {n : Nugget} {asset : Text} {ls : List Located}

/-- The policy has a wording for the nugget. -/
def translates (p : Policy) (n : Nugget) : Bool := (p.wording? n.key).isSome

/-- The policy warns about every key that it has no wording for. -/
def Warns (p : Policy) : Prop := p.table.isSome ∧ p.warnOnMissing = true

/-- The warnings that nuggets give rise to, in order. -/
def warningsOf (p : Policy) (asset : Text) (ls : List Located) : List MissingKey :=
  ls.filterMap fun l => p.warning? l.nugget.key asset

/-- A nugget comes out translated exactly if the policy has a wording for it. -/
theorem isTranslated_of_outcome {o : Outcome} (h : p.outcome n = .ok o) :
    o.isTranslated = p.translates n := by
  rcases outcome_eq_ok_cases h with ⟨value, s, hwording, -, rfl⟩ | ⟨s, hwording, -, -, rfl⟩ |
    ⟨hwording, -, rfl⟩
  all_goals
    rw [translates, hwording]
    rfl

/-- What is counted in the outcomes of nuggets is told by their keys. -/
theorem tally_of_resolveAll {resolved : List (Outcome × Option MissingKey)}
    (h : p.resolveAll asset ls = .ok resolved) :
    resolved.countP (fun x => x.1.isTranslated) = ls.countP (fun l => p.translates l.nugget) ∧
      resolved.filterMap Prod.snd = p.warningsOf asset ls := by
  induction ls generalizing resolved with
  | nil =>
    cases h
    exact ⟨rfl, rfl⟩
  | cons l ls ih =>
    rw [resolveAll_cons] at h
    obtain ⟨⟨outcome, warning⟩, hfirst, h⟩ := bind_eq_ok_iff.1 h
    obtain ⟨others, hothers, h⟩ := bind_eq_ok_iff.1 h
    cases h
    obtain ⟨houtcome, rfl⟩ := resolve_eq_ok_iff.1 hfirst
    obtain ⟨hcount, hwarnings⟩ := ih hothers
    rw [warningsOf] at hwarnings ⊢
    refine ⟨?_, ?_⟩
    · rw [List.countP_cons, List.countP_cons, hcount, isTranslated_of_outcome houtcome]
    · rw [List.filterMap_cons, List.filterMap_cons, hwarnings]

/-- Where all nuggets are resolved, each of them is. -/
theorem exists_outcome_of_resolveAll {resolved : List (Outcome × Option MissingKey)}
    (h : p.resolveAll asset ls = .ok resolved) {l : Located} (hl : l ∈ ls) :
    ∃ o, p.outcome l.nugget = .ok o := by
  induction ls generalizing resolved with
  | nil => cases hl
  | cons first ls ih =>
    rw [resolveAll_cons] at h
    obtain ⟨⟨outcome, warning⟩, hfirst, h⟩ := bind_eq_ok_iff.1 h
    obtain ⟨others, hothers, -⟩ := bind_eq_ok_iff.1 h
    rcases List.mem_cons.1 hl with rfl | hl
    · exact ⟨outcome, (resolve_eq_ok_iff.1 hfirst).1⟩
    · exact ih hothers hl

/-- **What a run over a text counts**: its nuggets, those that come out translated, and the
warnings, in the order of the nuggets. -/
theorem tally_of_localize {text : Text} {r : Localized} (h : p.localize text asset = .ok r) :
    r.nuggets = (nuggets text).length ∧
      r.translated = (nuggets text).countP (fun l => p.translates l.nugget) ∧
      r.warnings = p.warningsOf asset (nuggets text) ∧
      ∀ l ∈ nuggets text, ∃ o, p.outcome l.nugget = .ok o ∧
        o.isTranslated = p.translates l.nugget := by
  rw [localize_eq] at h
  obtain ⟨resolved, hresolved, rfl⟩ := map_eq_ok_iff.1 h
  obtain ⟨hcount, hwarnings⟩ := tally_of_resolveAll hresolved
  refine ⟨length_of_resolveAll hresolved, hcount, hwarnings, fun l hl => ?_⟩
  obtain ⟨o, ho⟩ := exists_outcome_of_resolveAll hresolved hl
  exact ⟨o, ho, isTranslated_of_outcome ho⟩

/-! ## Wordings and warnings -/

/-- A policy that warns does so about a nugget exactly if it has no wording for it. -/
theorem warning?_of_warns (h : p.Warns) (n : Nugget) (asset : Text) :
    p.warning? n.key asset
      = if p.translates n then none else some ⟨asset, n.key, p.locale⟩ := by
  rw [warning?, translates]
  cases hwording : p.wording? n.key with
  | none => simp [h.1, h.2]
  | some value => simp

/-- **Every nugget is translated or warned about**, and none is both. -/
theorem length_eq_translated_add_warnings (h : p.Warns) (asset : Text) (ls : List Located) :
    ls.length = ls.countP (fun l => p.translates l.nugget) + (p.warningsOf asset ls).length := by
  induction ls with
  | nil => rfl
  | cons l ls ih =>
    rw [warningsOf] at ih ⊢
    rw [List.length_cons, List.countP_cons, List.filterMap_cons, warning?_of_warns h, ih]
    cases p.translates l.nugget
    · exact Nat.add_assoc _ _ _
    · exact Nat.add_right_comm _ _ _

/-- A policy without a table, or one that does not warn, gives rise to no warning. -/
theorem warningsOf_of_silent (h : p.table = none ∨ p.warnOnMissing = false) (asset : Text)
    (ls : List Located) : p.warningsOf asset ls = [] := by
  refine List.filterMap_eq_nil_iff.2 fun l _ => ?_
  rw [warning?]
  rcases h with h | h <;> simp [h]

end Policy
end Localize
