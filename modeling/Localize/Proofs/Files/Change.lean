import Localize.Proofs.Files.Tree

/-!
# What may change in a tree

Whatever is done to a tree, little of it changes.  `Tree.Change made written` says what does: the
working directory stays, new directories stand at places of `made` only, files appear or get other
bytes at places of `written` only, and no file goes away.  Changes one after the other are a change.

Making a directory with those above it is several operations.  `makeDirectories_induction` is the
one induction over them: what each kept, all kept, and this whether or not the last one succeeded.

Files come to their places in two ways once the directories above them are made: they are written
(`of_writeFile_of_made`) or copied (`of_copyFile_of_made`).  A copy goes elsewhere if a directory
stands in its place.
-/

set_option autoImplicit false

namespace Localize
namespace Tree

variable {t t' u : Tree} {p : Path} {place q : Location} {bytes : Bytes}

/-! ## Changes -/

/-- What a change of a tree may have done: made directories, and written files. -/
structure Change (made written : Location → Prop) (t t' : Tree) : Prop where
  cwd : t'.cwd = t.cwd
  directories : ∀ q, t'.entry? q = some .directory → t.entry? q = some .directory ∨ made q
  files : ∀ q, ¬ written q → t'.fileAt? q = t.fileAt? q
  kept : ∀ q, (t.fileAt? q).isSome → (t'.fileAt? q).isSome

/-- No place. -/
abbrev nowhere : Location → Prop := fun _ => False

namespace Change

variable {made written made' written' : Location → Prop}

theorem refl (t : Tree) : Change made written t t :=
  ⟨rfl, fun _ => Or.inl, fun _ _ => rfl, fun _ => id⟩

theorem trans (h : Change made written t t') (h' : Change made written t' u) :
    Change made written t u where
  cwd := h'.cwd.trans h.cwd
  directories q hq := (h'.directories q hq).elim (h.directories q) Or.inr
  files q hq := (h'.files q hq).trans (h.files q hq)
  kept q hq := h'.kept q (h.kept q hq)

theorem mono (h : Change made written t t') (hmade : ∀ q, made q → made' q)
    (hwritten : ∀ q, written q → written' q) : Change made' written' t t' where
  cwd := h.cwd
  directories q hq := (h.directories q hq).imp_right (hmade q)
  files q hq := h.files q fun hw => hq (hwritten q hw)
  kept := h.kept

end Change

theorem fileAt?_set_file (t : Tree) (place : Location) (bytes : Bytes) (q : Location) :
    (t.set place (.file bytes)).fileAt? q
      = if q = place ∧ q ≠ [] then some bytes else t.fileAt? q := by
  by_cases h : q = place ∧ q ≠ []
  · rw [fileAt?, entry?_set, if_pos h, if_pos h]
  · rw [if_neg h]
    exact fileAt?_congr (by rw [entry?_set, if_neg h])

/-- Writing a file changes that file alone. -/
theorem change_set_file (t : Tree) (place : Location) (bytes : Bytes) :
    Change nowhere (· = place) t (t.set place (.file bytes)) where
  cwd := rfl
  directories q hq := by
    rw [entry?_set] at hq
    split at hq
    · cases hq
    · exact Or.inl hq
  files q hq := by rw [fileAt?_set_file, if_neg fun h => hq h.1]
  kept q hq := by
    rw [fileAt?_set_file]
    split
    · rfl
    · exact hq

/-- Making a directory where nothing is changes no file. -/
theorem change_set_directory (h : t.entry? place = none) :
    Change (· = place) nowhere t (t.set place .directory) := by
  have hfiles : ∀ q, (t.set place .directory).fileAt? q = t.fileAt? q := by
    intro q
    by_cases hq : q = place ∧ q ≠ []
    · rw [fileAt?, fileAt?, entry?_set, if_pos hq, hq.1, h]
    · exact fileAt?_congr (by rw [entry?_set, if_neg hq])
  refine ⟨rfl, fun q hq => ?_, fun q _ => hfiles q, fun q hq => (hfiles q).symm ▸ hq⟩
  rw [entry?_set] at hq
  split at hq
  · rename_i hplace
    exact Or.inr hplace.1
  · exact Or.inl hq

theorem change_append (t : Tree) (place : Location) (bytes : Bytes) :
    Change nowhere (· = place) t (t.append place bytes) := by
  rw [append]
  split
  · exact change_set_file t place _
  · exact change_set_file t place _

/-- A file that is there is added to. -/
theorem fileAt?_append {place : Location} {old : Bytes} (h : t.fileAt? place = some old)
    (bytes : Bytes) : (t.append place bytes).fileAt? place = some (old ++ bytes) := by
  have hroot : place ≠ [] := by
    rintro rfl
    rw [fileAt?, entry?_root] at h
    cases h
  rw [append, h]
  exact (fileAt?_set_file t place _ place).trans (if_pos ⟨rfl, hroot⟩)

/-! ## Directories on the way -/

/-- **The one induction over making directories.**  What a tree has, and making any of the
directories that a path leads through keeps, the tree has after making them all, or as many of them
as could be made. -/
theorem makeDirectories_induction {P : Tree → Prop} (h : P t)
    (hstep : ∀ above t t', above <+: p.parts → P t →
      t.makeDirectory ⟨p.root, above⟩ = .ok t' → P t') :
    P (t.makeDirectories p).2 := by
  have hensure : ∀ above t t', above <+: p.parts → P t →
      t.ensureDirectory ⟨p.root, above⟩ = .ok t' → P t' := by
    intro above t t' habove ht hok
    rcases of_ensureDirectory_eq_ok hok with hmade | rfl
    · exact hstep above t t' habove ht hmade
    · exact ht
  have hkept : ∀ above t, above <+: p.parts → P t →
      P (kept t (t.ensureDirectory ⟨p.root, above⟩)).2 := by
    intro above t habove ht
    cases hok : t.ensureDirectory ⟨p.root, above⟩ with
    | error e => exact ht
    | ok t' => exact hensure above t t' habove ht hok
  have hparts : ∀ (parts : List Text) (t : Tree), parts.reverse <+: p.parts → P t →
      P (makeParts p.root t parts).2 := by
    intro parts
    induction parts with
    | nil => exact fun t habove ht => hkept [] t habove ht
    | cons part above ih =>
      intro t habove ht
      have hless : above.reverse <+: p.parts := by
        rw [List.reverse_cons] at habove
        exact (List.prefix_append _ _).trans habove
      rw [makeParts]
      split
      · rename_i t' hok
        exact hensure _ t t' habove ht hok
      · split
        · exact ht
        · have hmore := ih t hless ht
          split
          · rename_i e t' hmake
            rwa [hmake] at hmore
          · rename_i t' hmake
            rw [hmake] at hmore
            exact hkept _ t' habove hmore
  exact hparts p.parts.reverse t (by simp) h

/-- **Making directories changes no file**, and makes only such as the path leads through. -/
theorem change_makeDirectories (hp : p.Normal) :
    Change (· ∈ p.waypoints t.cwd) nowhere t (t.makeDirectories p).2 := by
  refine makeDirectories_induction (P := fun t' => Change (· ∈ p.waypoints t.cwd) nowhere t t')
    (Change.refl t) fun above u u' habove hu hmake => ?_
  obtain ⟨place, hlocate, hentry, rfl⟩ := makeDirectory_eq_ok_iff.1 hmake
  have hplace := eq_resolve_of_locate (hp.of_prefix habove) hlocate
  rw [hu.cwd] at hplace
  refine hu.trans ((change_set_directory hentry).mono (fun q hq => ?_) fun _ => id)
  exact hq.trans hplace ▸ Path.mem_waypoints_above habove t.cwd

/-! ## Files in directories that were made -/

/-- A file that is put where no directory stands, after directories were made. -/
theorem change_set_of_made {made : Location → Prop} (hmake : Change made nowhere t t')
    (hentry : t'.entry? place ≠ some .directory) (bytes : Bytes) :
    Change made (· = place) t (t'.set place (.file bytes)) ∧
      (t'.set place (.file bytes)).fileAt? place = some bytes := by
  have hroot : place ≠ [] := by
    rintro rfl
    exact hentry (entry?_root t')
  constructor
  · exact (hmake.mono (fun _ => id) fun _ => False.elim).trans
      ((change_set_file t' place bytes).mono (fun _ => False.elim) fun _ => id)
  · rw [fileAt?_set_file, if_pos ⟨rfl, hroot⟩]

/-- **A file that is written below directories that were made for it** is at its place. -/
theorem of_writeFile_of_made (hp : p.Normal) (hmade : t.makeDirectories p.parent = (.ok (), u))
    (hwrite : u.writeFile p bytes = .ok t') :
    Change (· ∈ p.parent.waypoints t.cwd) (· = p.resolve t.cwd) t t' ∧
      t'.fileAt? (p.resolve t.cwd) = some bytes := by
  have hmake := change_makeDirectories (t := t) hp.parent
  rw [hmade] at hmake
  obtain ⟨place, hlocate, hentry, rfl⟩ := writeFile_eq_ok_iff.1 hwrite
  obtain rfl : place = p.resolve t.cwd := by
    rw [eq_resolve_of_locate hp hlocate, hmake.cwd]
  exact change_set_of_made hmake hentry bytes

/-- **A file that is copied below directories that were made for it** is at its place, unless a
directory stands there, from before or made on the way. -/
theorem of_copyFile_of_made {source : Path} (hp : p.Normal) (hsource : source.Normal)
    (hmade : t.makeDirectories p.parent = (.ok (), u))
    (hclear : t.entry? (p.resolve t.cwd) ≠ some .directory)
    (hway : p.resolve t.cwd ∉ p.parent.waypoints t.cwd) (hcopy : u.copyFile source p = .ok t') :
    Change (· ∈ p.parent.waypoints t.cwd) (· = p.resolve t.cwd) t t' ∧
      t'.fileAt? (p.resolve t.cwd) = t.fileAt? (source.resolve t.cwd) := by
  have hmake := change_makeDirectories (t := t) hp.parent
  rw [hmade] at hmake
  obtain ⟨goal, place, bytes, hgoal, hread, hlocate, hentry, rfl⟩ := of_copyFile_eq_ok hcopy
  rcases hgoal with ⟨rfl, -⟩ | ⟨-, hstatus⟩
  · obtain rfl : place = goal.resolve t.cwd := by
      rw [eq_resolve_of_locate hp hlocate, hmake.cwd]
    obtain ⟨origin, hfound, hfile⟩ := readFile_eq_ok_iff.1 hread
    have horigin : t.fileAt? (source.resolve t.cwd) = some bytes := by
      rw [← hmake.files _ id, ← hmake.cwd, ← eq_resolve_of_locate hsource hfound, hfile]
    rw [horigin]
    exact change_set_of_made hmake hentry bytes
  · obtain ⟨found, hfound, hdir⟩ := status_eq_ok_iff.1 hstatus
    rw [eq_resolve_of_locate hp hfound, hmake.cwd] at hdir
    exact ((hmake.directories _ hdir).elim hclear hway).elim

end Tree
end Localize
