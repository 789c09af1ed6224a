/-!
# Lists that are looked up

The entries of trees, of tables and of arguments are looked up by their keys.  What is found is an
entry (`mem_of_lookup`), and an entry is found if no other has its key (`lookup_of_mem`).  Trees and
tables put an entry in the place of the one with its key; what is found afterwards is the same for
both (`lookup_of_put`).
-/

set_option autoImplicit false

namespace Localize

variable {α β : Type} [BEq α] [LawfulBEq α] {entries : List (α × β)} {key : α} {v : β}

theorem mem_of_lookup (h : entries.lookup key = some v) : (key, v) ∈ entries := by
  obtain ⟨l₁, l₂, rfl, -⟩ := List.lookup_eq_some_iff.1 h
  simp

theorem lookup_of_mem (hnodup : (entries.map Prod.fst).Nodup) (h : (key, v) ∈ entries) :
    entries.lookup key = some v := by
  induction entries with
  | nil => cases h
  | cons entry entries ih =>
    obtain ⟨k, old⟩ := entry
    rw [List.map_cons, List.nodup_cons] at hnodup
    rw [List.lookup_cons]
    rcases List.mem_cons.1 h with hfirst | hrest
    · cases hfirst
      simp
    · have hne : key ≠ k := by
        rintro rfl
        exact hnodup.1 (List.mem_map.2 ⟨_, hrest, rfl⟩)
      rw [beq_false_of_ne hne]
      exact ih hnodup.2 hrest

/-- **What is found after an entry is put** in the place of the one with its key, or behind all of
them. -/
theorem lookup_of_put [DecidableEq α] (put : List (α × β) → List (α × β))
    (hnil : put [] = [(key, v)])
    (hcons : ∀ k old rest, put ((k, old) :: rest)
      = if k = key then (k, v) :: rest else (k, old) :: put rest)
    (entries : List (α × β)) (other : α) :
    (put entries).lookup other = if other = key then some v else entries.lookup other := by
  induction entries with
  | nil =>
    rw [hnil, List.lookup_cons, List.lookup_nil]
    by_cases h : other = key
    · simp [h]
    · simp [h, beq_false_of_ne h]
  | cons entry entries ih =>
    obtain ⟨k, old⟩ := entry
    rw [hcons]
    by_cases hk : k = key
    · subst hk
      rw [if_pos rfl, List.lookup_cons, List.lookup_cons]
      by_cases h : other = k
      · simp [h]
      · simp [h, beq_false_of_ne h]
    · rw [if_neg hk, List.lookup_cons, List.lookup_cons, ih]
      by_cases h : other = k
      · subst h
        simp [hk]
      · simp [beq_false_of_ne h]

/-- Leaving entries out by their keys leaves what is found under the others. -/
theorem lookup_filter_key (keep : α → Bool) (entries : List (α × β)) (key : α) :
    (entries.filter fun e => keep e.1).lookup key
      = if keep key then entries.lookup key else none := by
  induction entries with
  | nil => simp
  | cons e entries ih =>
    obtain ⟨k, v⟩ := e
    by_cases hk : key = k
    · subst hk
      cases hkeep : keep key <;> simp [hkeep, ih]
    · have hne : (key == k) = false := by simpa using hk
      cases hkeep : keep k <;> simp [hkeep, ih, List.lookup_cons, hne]

end Localize
