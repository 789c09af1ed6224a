import Localize.Proofs.Files.Growth

/-!
# Operations that are done again

Operations have taken a tree to its end.  Done again from there, they find everything that they made
the first time, and what they read as long as it has kept its bytes.  So they come out the same
(`Again.writeFile`, `Again.copyFile`, `Again.makeDirectories`).

`Tree.Again` relates the tree before an operation the first time, the tree at the end, and the tree
before the operation the second time.  The last has the entries of the end throughout.  Its files
have the bytes of the one or the other: those of the first time where the second has written already.
-/

set_option autoImplicit false

namespace Localize
namespace Tree

variable {logFile : Option Location} {read : Location → Prop} {u u' v v' w : Tree} {p : Path}
variable {place q : Location} {bytes : Bytes}

/-- What was `u` the first time, before all came to `w`, is `v` the second time.  At the places that
are to be read, the file is as it was the first time. -/
structure Again (logFile : Option Location) (read : Location → Prop) (u w v : Tree) : Prop where
  grows : Grows w v
  within : Grows v w
  files : ∀ q, logFile ≠ some q → v.fileAt? q = u.fileAt? q ∨ v.fileAt? q = w.fileAt? q
  kept : ∀ q, read q → v.fileAt? q = u.fileAt? q

/-- A file may be put where the larger tree has one. -/
theorem Grows.of_set_file (h : Grows v w) (hthere : (w.fileAt? place).isSome) (bytes : Bytes) :
    Grows (v.set place (.file bytes)) w := by
  refine ⟨h.cwd, fun q hq => ?_, fun q hq => ?_⟩
  · rw [entry?_set] at hq
    split at hq
    · cases hq
    · exact h.directories q hq
  · rw [fileAt?_set_file] at hq
    split at hq
    · rename_i hplace
      exact hplace.1 ▸ hthere
    · exact h.files q hq

/-- A copy is the writing of what was read, where the target leads or into the directory there. -/
theorem copyFile_eq_writeFile {source target goal : Path}
    (hgoal : goal = target ∧ u.status target ≠ .ok .directory ∨
      goal = target.join (.ofNames [source.name]) ∧ u.status target = .ok .directory)
    (hread : u.readFile source = .ok bytes) :
    u.copyFile source target = u.writeFile goal bytes := by
  rw [copyFile, hread]
  rcases hgoal with ⟨rfl, hstatus⟩ | ⟨rfl, hstatus⟩
  · cases hgoal : u.status goal with
    | error cause => rfl
    | ok e =>
      cases e with
      | file b => rfl
      | directory => exact absurd hgoal hstatus
  · rw [hstatus]
    rfl

namespace Again

/-- Logging, the first time and the second. -/
theorem of_alike (h : Again logFile read u w v) (hu : Alike logFile u u') (hv : Alike logFile v v')
    (hread : ∀ q, read q → logFile ≠ some q) : Again logFile read u' w v' := by
  refine ⟨h.grows.trans (.of_alike hv), (Grows.of_alike hv.symm).trans h.within, fun q hq => ?_,
    fun q hq => ?_⟩
  · rw [hv.fileAt?_eq hq, hu.fileAt?_eq hq]
    exact h.files q hq
  · rw [hv.fileAt?_eq (hread q hq), hu.fileAt?_eq (hread q hq)]
    exact h.kept q hq

/-- A file that has kept its bytes is read again. -/
theorem readFile (h : Again logFile read u w v) (hu : Grows u w)
    (hread : u.readFile p = .ok bytes) (hp : ∀ place, u.locate p = .ok place → read place) :
    v.readFile p = .ok bytes :=
  (hu.trans h.grows).readFile_eq_ok hread fun place hplace => h.kept place (hp place hplace)

/-- **A file that was written is written again.** -/
theorem writeFile (h : Again logFile read u w v) (hwrite : u.writeFile p bytes = .ok u')
    (hend : Grows u' w) : ∃ v', v.writeFile p bytes = .ok v' ∧ Again logFile read u' w v' := by
  have hu : Grows u v := ((Grows.writeFile hwrite).trans hend).trans h.grows
  obtain ⟨place, hlocate, hentry, rfl⟩ := writeFile_eq_ok_iff.1 hwrite
  have hsame : Change nowhere nowhere u u := .refl u
  have hput := (change_set_of_made hsame hentry bytes).2
  have hend' : (w.fileAt? place).isSome := hend.files place (by rw [hput]; rfl)
  have hentry' := entry?_ne_directory_of_file (h.grows.files place hend')
  refine ⟨v.set place (.file bytes),
    writeFile_eq_ok_iff.2 ⟨place, hu.locate_eq_ok hlocate, hentry', rfl⟩,
    h.grows.trans (.set_file hentry' bytes), h.within.of_set_file hend' bytes, fun q hq => ?_,
    fun q hq => ?_⟩
  · rw [fileAt?_set_file, fileAt?_set_file]
    split
    · exact Or.inl rfl
    · exact h.files q hq
  · rw [fileAt?_set_file, fileAt?_set_file, h.kept q hq]

/-- **A file that was copied is copied again**, to where it went the first time. -/
theorem copyFile (h : Again logFile read u w v) {source target : Path}
    (hcopy : u.copyFile source target = .ok u') (hend : Grows u' w)
    (hsource : ∀ place, u.locate source = .ok place → read place) :
    ∃ v', v.copyFile source target = .ok v' ∧ Again logFile read u' w v' := by
  have hu : Grows u w := (Grows.copyFile hcopy).trans hend
  obtain ⟨goal, place, bytes, hgoal, hread, hlocate, hentry, hset⟩ := of_copyFile_eq_ok hcopy
  have hwrite : u.writeFile goal bytes = .ok u' :=
    writeFile_eq_ok_iff.2 ⟨place, hlocate, hentry, hset⟩
  obtain ⟨v', hwrite', hagain⟩ := h.writeFile hwrite hend
  refine ⟨v', ?_, hagain⟩
  rw [copyFile_eq_writeFile ?_ (h.readFile hu hread hsource), hwrite']
  refine hgoal.imp (fun ⟨heq, _⟩ => ⟨heq, fun hdir => ?_⟩) fun ⟨heq, hdir⟩ => ⟨heq, ?_⟩
  · -- the copy is a file by now, and stands at the target
    obtain ⟨found, hfound, hthere⟩ := status_eq_ok_iff.1 hdir
    obtain ⟨place', hlocate', hentry', -⟩ := writeFile_eq_ok_iff.1 hwrite'
    rw [heq, hfound] at hlocate'
    cases hlocate'
    exact hentry' hthere
  · obtain ⟨found, hfound, hthere⟩ := status_eq_ok_iff.1 hdir
    have hv := hu.trans h.grows
    exact status_eq_ok_iff.2 ⟨found, hv.locate_eq_ok hfound, hv.directories found hthere⟩

/-- **Directories that were made need not be made again.** -/
theorem makeDirectories (h : Again logFile read u w v) (hp : p.Normal)
    (hmade : u.makeDirectories p = (.ok (), u')) (hend : Grows u' w) :
    v.makeDirectories p = (.ok (), v) ∧ Again logFile read u' w v := by
  have hfiles : ∀ q, u'.fileAt? q = u.fileAt? q := by
    intro q
    have hchange := change_makeDirectories (t := u) hp
    rw [hmade] at hchange
    exact hchange.files q id
  refine ⟨Grows.makeDirectories_eq hmade (hend.trans h.grows), h.grows, h.within, fun q hq => ?_,
    fun q hq => ?_⟩
  · rw [hfiles]
    exact h.files q hq
  · rw [hfiles]
    exact h.kept q hq

end Again
end Tree
end Localize
