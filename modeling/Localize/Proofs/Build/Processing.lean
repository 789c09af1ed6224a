import Localize.Proofs.Build.Alike
import Localize.Proofs.Build.Asset

/-!
# Working on assets, one after the other or by several workers

What comes of an asset hangs on the tree as it is when its task is done.  The only thing that
changes while assets are worked on is the log file, and no task reads it (`Run.LogApart`); so every
task finds what the first one found (`processAsset_eq`), and the order of the tasks does not matter.

`processAll_eq` is the result: in whatever way assets are worked on, what comes of them is given in
their order if all of them succeed, and otherwise the failure of one of them.  The run is then the
one before but for what was logged (`Run.Alike`).
-/

set_option autoImplicit false

namespace Localize

/-- **A task finds the same in trees that differ in another file.** -/
theorem processAsset_eq {s : Settings} (hs : s.inputDir.Normal) {logFile : Option Location}
    {t t' : Tree} (h : Tree.Alike logFile t t') (p : Policy) {name : Text}
    (hname : logFile ≠ some ((Settings.assetPath s.inputDir name).resolve t.cwd)) :
    processAsset s p t' name = processAsset s p t name := by
  have hread : t'.readFile (Settings.assetPath s.inputDir name) = t.readFile _ :=
    h.readFile_eq (hs.join (Path.normal_ofText name)) hname
  rw [processAsset, processAsset, hread]

namespace Build

variable {s : Settings} {p : Policy} {names : List Text} {r : Run}

/-- What comes of an asset in the tree of a run. -/
def outcomeIn (s : Settings) (p : Policy) (r : Run) (name : Text) : Except BuildError Processed :=
  (processAsset s p r.tree name).2

theorem outcomeIn_eq (hs : s.inputDir.Normal) {r' : Run} (h : r.Alike r')
    (hapart : r.LogApart s names) {name : Text} (hname : name ∈ names) :
    outcomeIn s p r' name = outcomeIn s p r name := by
  rw [outcomeIn, outcomeIn, processAsset_eq hs h.tree p (hapart name hname)]

/-- A task gives what comes of its asset, and changes nothing but what is logged. -/
theorem attempt_eq (h : r.LogReady) (s : Settings) (p : Policy) (known : Bool) (name : Text) :
    ∃ r', r.Alike r' ∧ attempt s p known name r = (.ok (outcomeIn s p r name), r') :=
  ⟨_, Run.alike_foldl_logTo h known (processAsset s p r.tree name).1, rfl⟩

/-- Where all outcomes are successes, each of them is one. -/
theorem exists_of_map_eq {f : Text → Except BuildError Processed} {done : List Processed}
    (h : names.map f = done.map .ok) {name : Text} (hname : name ∈ names) :
    ∃ a, f name = .ok a := by
  have hmem : f name ∈ done.map Except.ok := h ▸ List.mem_map_of_mem hname
  obtain ⟨a, -, ha⟩ := List.mem_map.1 hmem
  exact ⟨a, ha.symm⟩

/-- Where all outcomes are successes, none of them is a failure. -/
theorem ne_error_of_map_eq {f : Text → Except BuildError Processed} {done : List Processed}
    (h : names.map f = done.map .ok) {name : Text} (hname : name ∈ names) (e : BuildError) :
    f name ≠ .error e := by
  intro hfail
  obtain ⟨a, ha⟩ := exists_of_map_eq h hname
  rw [hfail] at ha
  cases ha

/-- The same outcomes are those of the same assets. -/
theorem eq_of_map_ok {done done' : List Processed}
    (h : done.map (Except.ok : Processed → Except BuildError Processed) = done'.map .ok) :
    done = done' :=
  (List.map_inj_right fun _ _ => Except.ok.inj).1 h

/-- What comes of assets bears their names. -/
theorem map_name_of_map_eq {done : List Processed}
    (h : names.map (outcomeIn s p r) = done.map .ok) : done.map (·.result.name) = names := by
  induction names generalizing done with
  | nil =>
    rw [List.map_nil] at h
    rw [List.map_eq_nil_iff.1 h.symm]
    rfl
  | cons name names ih =>
    cases done with
    | nil => cases h
    | cons a done =>
      rw [List.map_cons, List.map_cons, List.cons.injEq] at h
      rw [List.map_cons, name_of_processAsset h.1, ih h.2]

/-! ## One after the other -/

/-- In order, assets give what comes of each of them, or the first failure. -/
theorem processInOrder_eq (hs : s.inputDir.Normal) (h : r.LogReady) (hapart : r.LogApart s names) :
    ∃ r', r.Alike r' ∧
      ((∃ done, names.map (outcomeIn s p r) = done.map .ok ∧
          processInOrder s p names r = (.ok done, r')) ∨
        ∃ e, (∃ name ∈ names, outcomeIn s p r name = .error e) ∧
          processInOrder s p names r = (.error e, r')) := by
  induction names generalizing r with
  | nil => exact ⟨r, .refl h, Or.inl ⟨[], rfl, rfl⟩⟩
  | cons name names ih =>
    obtain ⟨r₁, halike, hattempt⟩ := attempt_eq h s p true name
    rw [processInOrder, bind_apply, hattempt]
    dsimp only
    cases hfirst : outcomeIn s p r name with
    | error e => exact ⟨r₁, halike, Or.inr ⟨e, ⟨name, List.mem_cons_self, hfirst⟩, rfl⟩⟩
    | ok first =>
      have hrest : r.LogApart s names := fun n hn => hapart n (List.mem_cons_of_mem _ hn)
      have hsame : ∀ n ∈ names, outcomeIn s p r₁ n = outcomeIn s p r n :=
        fun n hn => outcomeIn_eq hs halike hrest hn
      obtain ⟨r₂, halike', hout⟩ := ih halike.ready' (halike.logApart hrest)
      refine ⟨r₂, halike.trans halike', ?_⟩
      dsimp only
      rw [bind_apply]
      rcases hout with ⟨done, hdone, hout⟩ | ⟨e, ⟨n, hn, hfail⟩, hout⟩
      · rw [hout]
        refine Or.inl ⟨first :: done, ?_, rfl⟩
        rw [List.map_cons, List.map_cons, hfirst, ← hdone, List.map_congr_left hsame]
      · rw [hout]
        exact Or.inr ⟨e, ⟨n, List.mem_cons_of_mem _ hn, hsame n hn ▸ hfail⟩, rfl⟩

/-! ## By several workers -/

/-- By the numbers of a schedule, assets give what comes of each of them. -/
theorem attemptAll_eq (hs : s.inputDir.Normal) (h : r.LogReady) (hapart : r.LogApart s names)
    {order : List Nat} (horder : ∀ i ∈ order, i < names.length) :
    ∃ r', r.Alike r' ∧ attemptAll s p names order r
      = (.ok (order.map fun i => (i, outcomeIn s p r (names[i]?.getD []))), r') := by
  induction order generalizing r with
  | nil => exact ⟨r, .refl h, rfl⟩
  | cons i order ih =>
    obtain ⟨r₁, halike, hattempt⟩ := attempt_eq h s p false (names[i]?.getD [])
    have hrest : ∀ j ∈ order, j < names.length := fun j hj => horder j (List.mem_cons_of_mem _ hj)
    obtain ⟨r₂, halike', hout⟩ := ih halike.ready' (halike.logApart hapart) hrest
    refine ⟨r₂, halike.trans halike', ?_⟩
    have hsame : ∀ j ∈ order, (j, outcomeIn s p r₁ (names[j]?.getD []))
        = (j, outcomeIn s p r (names[j]?.getD [])) := by
      intro j hj
      rw [List.getElem?_eq_getElem (hrest j hj), Option.getD_some,
        outcomeIn_eq hs halike hapart (List.getElem_mem _)]
    rw [List.map_congr_left hsame] at hout
    rw [attemptAll, bind_apply, hattempt]
    dsimp only
    rw [bind_apply, hout]
    rfl

/-- Outcomes without a failure. -/
theorem of_succeeded_eq_ok {outcomes : List (Nat × Except BuildError Processed)}
    {done : List (Nat × Processed)} (h : succeeded outcomes = .ok done) :
    outcomes = done.map fun x => (x.1, .ok x.2) := by
  induction outcomes generalizing done with
  | nil =>
    cases h
    rfl
  | cons outcome outcomes ih =>
    obtain ⟨i, first | first⟩ := outcome
    · cases h
    · rw [succeeded] at h
      cases hrest : succeeded outcomes with
      | error e =>
        rw [hrest] at h
        cases h
      | ok rest =>
        rw [hrest] at h
        cases h
        rw [ih hrest, List.map_cons]

/-- A failure among outcomes is that of one of them. -/
theorem of_succeeded_eq_error {outcomes : List (Nat × Except BuildError Processed)} {e : BuildError}
    (h : succeeded outcomes = .error e) : ∃ i, (i, .error e) ∈ outcomes := by
  induction outcomes with
  | nil => cases h
  | cons outcome outcomes ih =>
    obtain ⟨i, first | first⟩ := outcome
    · cases h
      exact ⟨i, List.mem_cons_self⟩
    · rw [succeeded] at h
      cases hrest : succeeded outcomes with
      | error e' =>
        rw [hrest] at h
        cases h
        obtain ⟨j, hj⟩ := ih hrest
        exact ⟨j, List.mem_cons_of_mem _ hj⟩
      | ok rest =>
        rw [hrest] at h
        cases h

/-- Results that were kept under their numbers, in the order of the numbers. -/
theorem map_filterMap_lookup {β : Type} {done : List (Nat × Processed)} {f : Nat → β}
    {g : Processed → β} (hdone : ∀ x ∈ done, f x.1 = g x.2) (n : Nat)
    (hall : ∀ i < n, i ∈ done.map Prod.fst) :
    ((List.range n).filterMap fun i => done.lookup i).map g = (List.range n).map f := by
  have hlookup : ∀ i ∈ List.range n, ∃ a, done.lookup i = some a ∧ f i = g a := by
    intro i hi
    cases hi' : done.lookup i with
    | none =>
      obtain ⟨x, hx, rfl⟩ := List.mem_map.1 (hall i (List.mem_range.1 hi))
      exact absurd (List.lookup_eq_none_iff.1 hi' x hx) (by simp)
    | some a =>
      obtain ⟨l₁, l₂, rfl, -⟩ := List.lookup_eq_some_iff.1 hi'
      exact ⟨a, rfl, hdone (i, a) (by simp)⟩
  generalize List.range n = is at hlookup
  induction is with
  | nil => rfl
  | cons i is ih =>
    obtain ⟨a, ha, hfa⟩ := hlookup i List.mem_cons_self
    rw [List.filterMap_cons_some (f := fun i => done.lookup i) ha, List.map_cons, List.map_cons,
      hfa, ih fun j hj => hlookup j (List.mem_cons_of_mem _ hj)]

/-- **By several workers, assets give what comes of each of them**, in the order of the assets and
not in that of the schedule, or the failure of one of them. -/
theorem processScheduled_eq (hs : s.inputDir.Normal) (h : r.LogReady) (hapart : r.LogApart s names)
    (schedule : Schedule) :
    ∃ r', r.Alike r' ∧
      ((∃ done, names.map (outcomeIn s p r) = done.map .ok ∧
          processScheduled s p schedule names r = (.ok done, r')) ∨
        ∃ e, (∃ name ∈ names, outcomeIn s p r name = .error e) ∧
          processScheduled s p schedule names r = (.error e, r')) := by
  have hmem : ∀ i, i ∈ schedule.order names.length ↔ i < names.length := fun i =>
    (schedule.perm names.length).mem_iff.trans List.mem_range
  obtain ⟨r', halike, hout⟩ := attemptAll_eq (p := p) hs h hapart fun i hi => (hmem i).1 hi
  refine ⟨r', halike, ?_⟩
  rw [processScheduled, bind_apply, hout]
  dsimp only
  cases hdone : succeeded ((schedule.order names.length).map
      fun i => (i, outcomeIn s p r (names[i]?.getD []))) with
  | error e =>
    obtain ⟨i, hi⟩ := of_succeeded_eq_error hdone
    obtain ⟨j, hj, heq⟩ := List.mem_map.1 hi
    have hlt := (hmem j).1 hj
    rw [List.getElem?_eq_getElem hlt, Option.getD_some] at heq
    exact Or.inr ⟨e, ⟨names[j], List.getElem_mem hlt, congrArg Prod.snd heq⟩, rfl⟩
  | ok done =>
    have hpairs := of_succeeded_eq_ok hdone
    refine Or.inl ⟨_, ?_, rfl⟩
    rw [map_filterMap_lookup (f := fun i => outcomeIn s p r (names[i]?.getD []))]
    · refine List.ext_getElem (by simp) fun i hi _ => ?_
      have hlt : i < names.length := by simpa using hi
      simp [List.getElem?_eq_getElem hlt]
    · intro x hx
      have hin : (x.1, Except.ok x.2) ∈ (schedule.order names.length).map
          fun i => (i, outcomeIn s p r (names[i]?.getD [])) := by
        rw [hpairs]
        exact List.mem_map.2 ⟨x, hx, rfl⟩
      obtain ⟨i, -, heq⟩ := List.mem_map.1 hin
      obtain ⟨rfl, heq⟩ := Prod.mk.inj heq
      exact heq
    · intro i hi
      have hin := congrArg (List.map Prod.fst) hpairs
      rw [List.map_map, List.map_map] at hin
      have hkeys : done.map Prod.fst = schedule.order names.length := by
        simpa [Function.comp_def] using hin.symm
      rw [hkeys]
      exact (hmem i).2 hi

/-! ## In any way -/

/-- **Assets may be worked on in any way.**  Whatever the number of workers and the schedule, what
comes of the assets is given in their order if all of them succeed; if not, the failure of one of
them is given.  Nothing changes but what is logged. -/
theorem processAll_eq (hs : s.inputDir.Normal) (h : r.LogReady) (hapart : r.LogApart s names)
    (schedule : Schedule) :
    ∃ r', r.Alike r' ∧
      ((∃ done, names.map (outcomeIn s p r) = done.map .ok ∧
          processAll s p schedule names r = (.ok done, r')) ∨
        ∃ e, (∃ name ∈ names, outcomeIn s p r name = .error e) ∧
          processAll s p schedule names r = (.error e, r')) := by
  rw [processAll]
  split
  · exact processInOrder_eq hs h hapart
  · exact processScheduled_eq hs h hapart schedule

end Build
end Localize
