import Localize.Proofs.Build.Processing

/-!
# What was worked on, asset by asset

In whatever way assets are worked on, what comes of them bears their names in their order, and each
of them is what came of the work in a tree that the build met on its way (`of_processAll_eq_ok`).
Such a tree is the one of the beginning, but for the log.  Nothing is asked here of where the log
is: it may be among the assets, and then they need not all be worked on in the same tree.
-/

set_option autoImplicit false

namespace Localize
namespace Build

variable {s : Settings} {p : Policy} {names : List Text} {r r' : Run} {t : Tree}
variable {assets : List Processed}

/-- A tree that a run meets while it does nothing but log. -/
def Met (r : Run) (t : Tree) : Prop :=
  Tree.Change Tree.nowhere (fun q => r.sinks.file = some q) r.tree t

theorem met_self (r : Run) : Met r r.tree := .refl r.tree

/-- What is met after a while could be met from the beginning. -/
theorem Met.of_change (h : Met r' t)
    (hchange : r.Change Tree.nowhere (fun q => r.sinks.file = some q) r') : Met r t := by
  rw [Met, hchange.sinks] at h
  exact hchange.tree.trans h

/-- A task changes the log. -/
theorem change_attempt (s : Settings) (p : Policy) (known : Bool) (name : Text) (r : Run) :
    r.Change Tree.nowhere (fun q => r.sinks.file = some q) (attempt s p known name r).2 :=
  sequential_confined.attempt (fun x _ => confined_logTo (fun _ => id) known x) s p name
    r rfl rfl

/-- In order, each asset comes out as it does in a tree that was met. -/
theorem of_processInOrder_eq_ok (h : processInOrder s p names r = (.ok assets, r')) :
    assets.map (·.result.name) = names ∧
      ∀ a ∈ assets, ∃ t, Met r t ∧ (processAsset s p t a.result.name).2 = .ok a := by
  induction names generalizing r r' assets with
  | nil =>
    cases h
    exact ⟨rfl, nofun⟩
  | cons name names ih =>
    obtain ⟨r₁, hattempt⟩ : ∃ r₁, attempt s p true name r = (.ok (outcomeIn s p r name), r₁) :=
      ⟨_, rfl⟩
    have hchange := change_attempt s p true name r
    rw [processInOrder, bind_apply, hattempt] at h
    rw [hattempt] at hchange
    dsimp only at h hchange
    cases hfirst : outcomeIn s p r name with
    | error e =>
      rw [hfirst] at h
      cases (Prod.mk.inj h).1
    | ok first =>
      rw [hfirst] at h
      dsimp only at h
      obtain ⟨rest, r₂, hrest, hlast⟩ := of_bind_eq_ok h
      cases (Prod.mk.inj hlast).1
      obtain ⟨hnames, houtcomes⟩ := ih hrest
      have hname := name_of_processAsset hfirst
      refine ⟨by rw [List.map_cons, hname, hnames], fun a ha => ?_⟩
      rcases List.mem_cons.1 ha with rfl | ha
      · exact ⟨r.tree, met_self r, hname ▸ hfirst⟩
      · obtain ⟨t, hmet, hout⟩ := houtcomes a ha
        exact ⟨t, hmet.of_change hchange, hout⟩

/-- By the numbers of a schedule, each asset comes out as it does in a tree that was met. -/
theorem of_attemptAll_eq_ok {order : List Nat}
    {outcomes : List (Nat × Except BuildError Processed)}
    (h : attemptAll s p names order r = (.ok outcomes, r')) :
    outcomes.map Prod.fst = order ∧ ∀ x ∈ outcomes, ∃ t, Met r t ∧
      (processAsset s p t (names[x.1]?.getD [])).2 = x.2 := by
  induction order generalizing r r' outcomes with
  | nil =>
    cases h
    exact ⟨rfl, nofun⟩
  | cons i order ih =>
    obtain ⟨r₁, hattempt⟩ : ∃ r₁, attempt s p false (names[i]?.getD []) r
        = (.ok (outcomeIn s p r (names[i]?.getD [])), r₁) := ⟨_, rfl⟩
    have hchange := change_attempt s p false (names[i]?.getD []) r
    rw [attemptAll, bind_apply, hattempt] at h
    rw [hattempt] at hchange
    dsimp only at h hchange
    obtain ⟨rest, r₂, hrest, hlast⟩ := of_bind_eq_ok h
    cases (Prod.mk.inj hlast).1
    obtain ⟨hnumbers, houtcomes⟩ := ih hrest
    refine ⟨by rw [List.map_cons, hnumbers], fun x hx => ?_⟩
    rcases List.mem_cons.1 hx with rfl | hx
    · exact ⟨r.tree, met_self r, rfl⟩
    · obtain ⟨t, hmet, hout⟩ := houtcomes x hx
      exact ⟨t, hmet.of_change hchange, hout⟩

/-- By several workers, each asset comes out as it does in a tree that was met. -/
theorem of_processScheduled_eq_ok {schedule : Schedule}
    (h : processScheduled s p schedule names r = (.ok assets, r')) :
    assets.map (·.result.name) = names ∧
      ∀ a ∈ assets, ∃ t, Met r t ∧ (processAsset s p t a.result.name).2 = .ok a := by
  obtain ⟨outcomes, r₁, hall, h⟩ := of_bind_eq_ok h
  cases hdone : succeeded outcomes with
  | error e =>
    rw [hdone] at h
    cases (Prod.mk.inj h).1
  | ok done =>
    rw [hdone] at h
    cases (Prod.mk.inj h).1
    obtain ⟨hnumbers, houtcomes⟩ := of_attemptAll_eq_ok hall
    rw [of_succeeded_eq_ok hdone] at hnumbers houtcomes
    have hout : ∀ x ∈ done, ∃ t, Met r t ∧
        (processAsset s p t (names[x.1]?.getD [])).2 = .ok x.2 := fun x hx =>
      houtcomes (x.1, .ok x.2) (List.mem_map.2 ⟨x, hx, rfl⟩)
    have hname : ∀ x ∈ done, names[x.1]?.getD [] = x.2.result.name := by
      intro x hx
      obtain ⟨t, -, houtcome⟩ := hout x hx
      exact (name_of_processAsset houtcome).symm
    refine ⟨?_, fun a ha => ?_⟩
    · rw [map_filterMap_lookup (f := fun i => names[i]?.getD []) hname]
      · refine List.ext_getElem (by simp) fun i hi _ => ?_
        have hlt : i < names.length := by simpa using hi
        simp [List.getElem?_eq_getElem hlt]
      · intro i hi
        have hkeys : done.map Prod.fst = schedule.order names.length := by
          simpa [Function.comp_def] using hnumbers
        rw [hkeys]
        exact (schedule.perm names.length).mem_iff.2 (List.mem_range.2 hi)
    · obtain ⟨i, -, hlookup⟩ := List.mem_filterMap.1 ha
      obtain ⟨l₁, l₂, hlist, -⟩ := List.lookup_eq_some_iff.1 hlookup
      have hmem : (i, a) ∈ done := by simp [hlist]
      obtain ⟨t, hmet, hx⟩ := hout _ hmem
      exact ⟨t, hmet, hname _ hmem ▸ hx⟩

/-- **What was worked on, asset by asset.**  Whatever the number of workers and the schedule, the
assets stand in the order of their names, and each of them came out of the work on it in a tree that
was met on the way. -/
theorem of_processAll_eq_ok {schedule : Schedule}
    (h : processAll s p schedule names r = (.ok assets, r')) :
    assets.map (·.result.name) = names ∧
      ∀ a ∈ assets, ∃ t, Met r t ∧ (processAsset s p t a.result.name).2 = .ok a := by
  rw [processAll] at h
  split at h
  · exact of_processInOrder_eq_ok h
  · exact of_processScheduled_eq_ok h

end Build
end Localize
