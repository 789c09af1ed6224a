import Localize.Proofs.Files.Alike
import Localize.Proofs.Files.WellFormed

/-!
# Trees only grow

No operation takes anything out of a tree: a directory stays a directory, and a file stays a file,
whatever bytes it gets (`Tree.Grows`).  So a path that was found once is found again, at the same
place (`Grows.locate_eq_ok`).

For directories there is more to say.  Once all directories on a way have been made, the last of
them is there (`isDirectory_of_makeDirectories`), and to make directories that are there changes
nothing (`makeDirectories_of_isDirectory`).  So making them is done once and for all
(`Grows.makeDirectories_eq`).
-/

set_option autoImplicit false

namespace Localize
namespace Tree

variable {t t' u : Tree} {p : Path} {place q : Location} {bytes : Bytes}

/-- Every entry stays what it is: a directory, or a file with whatever bytes. -/
structure Grows (t t' : Tree) : Prop where
  cwd : t'.cwd = t.cwd
  directories : ∀ q, t.entry? q = some .directory → t'.entry? q = some .directory
  files : ∀ q, (t.fileAt? q).isSome → (t'.fileAt? q).isSome

/-- Where a file stands, no directory does. -/
theorem entry?_ne_directory_of_file (h : (t.fileAt? q).isSome) : t.entry? q ≠ some .directory := by
  intro hdir
  rw [fileAt?, hdir] at h
  cases h

namespace Grows

theorem refl (t : Tree) : Grows t t := ⟨rfl, fun _ => id, fun _ => id⟩

theorem trans (h : Grows t t') (h' : Grows t' u) : Grows t u :=
  ⟨h'.cwd.trans h.cwd, fun q hq => h'.directories q (h.directories q hq),
    fun q hq => h'.files q (h.files q hq)⟩

theorem of_alike {logFile : Option Location} (h : Alike logFile t t') : Grows t t' := by
  refine ⟨h.cwd, fun q hq => ?_, fun q hq => (h.isSome_fileAt? q).trans hq⟩
  rcases h.entry? q with heq | ⟨-, b, b', hb, -⟩
  · rw [heq, hq]
  · rw [hb] at hq
    cases hq

/-! ## What operations do -/

theorem set_file (h : t.entry? place ≠ some .directory) (bytes : Bytes) :
    Grows t (t.set place (.file bytes)) := by
  refine ⟨rfl, fun q hq => ?_, (change_set_file t place bytes).kept⟩
  rw [entry?_set, if_neg, hq]
  rintro ⟨rfl, -⟩
  exact h hq

theorem set_directory (h : t.entry? place = none) : Grows t (t.set place .directory) := by
  refine ⟨rfl, fun q hq => ?_, (change_set_directory h).kept⟩
  rw [entry?_set, hq, ite_self]

theorem writeFile (h : t.writeFile p bytes = .ok t') : Grows t t' := by
  obtain ⟨place, -, hentry, rfl⟩ := writeFile_eq_ok_iff.1 h
  exact set_file hentry bytes

theorem copyFile {source target : Path} (h : t.copyFile source target = .ok t') : Grows t t' := by
  obtain ⟨goal, place, bytes, -, -, -, hentry, rfl⟩ := of_copyFile_eq_ok h
  exact set_file hentry bytes

/-- Making directories only adds some, whether or not all could be made. -/
theorem makeDirectories (t : Tree) (p : Path) : Grows t (t.makeDirectories p).2 := by
  refine makeDirectories_induction (refl t) fun above u u' _ hu hmake => ?_
  obtain ⟨place, -, hentry, rfl⟩ := makeDirectory_eq_ok_iff.1 hmake
  exact hu.trans (set_directory hentry)

/-! ## What was found is found again -/

theorem walk_eq_ok (h : Grows t t') {parts : List Text} (hwalk : t.walk place parts = .ok q) :
    t'.walk place parts = .ok q := by
  induction parts generalizing place with
  | nil => exact hwalk
  | cons part rest ih =>
    rw [walk] at hwalk ⊢
    split at hwalk
    · cases hwalk
    · cases hwalk
    · rename_i hdir
      rw [h.directories place hdir]
      dsimp only
      split at hwalk
      · rename_i hskip
        rw [if_pos hskip]
        exact ih hwalk
      · rename_i hkept
        rw [if_neg hkept]
        split at hwalk
        · rename_i hup
          rw [if_pos hup]
          exact ih hwalk
        · rename_i hup
          rw [if_neg hup]
          split at hwalk
          · cases hwalk
          · rename_i hshort
            rw [if_neg hshort]
            exact ih hwalk

theorem locateRaw_eq_ok (h : Grows t t') {path : Text} (hlocate : t.locateRaw path = .ok place) :
    t'.locateRaw path = .ok place := by
  rw [locateRaw] at hlocate ⊢
  split at hlocate
  · cases hlocate
  · split at hlocate
    · cases hlocate
    · rename_i hne
      split at hlocate
      · cases hlocate
      · rename_i hshort
        rw [if_neg hne, if_neg hshort, h.cwd]
        exact h.walk_eq_ok hlocate

/-- **A path that was found is found at the same place.** -/
theorem locate_eq_ok (h : Grows t t') (hlocate : t.locate p = .ok place) :
    t'.locate p = .ok place :=
  h.locateRaw_eq_ok hlocate

theorem isDirectory_eq_true (h : Grows t t') (hdir : t.isDirectory p = .ok true) :
    t'.isDirectory p = .ok true := by
  obtain ⟨place, hlocate, hentry⟩ := isDirectory_eq_true_iff.1 hdir
  exact isDirectory_eq_true_iff.2 ⟨place, h.locate_eq_ok hlocate, h.directories place hentry⟩

/-- A file whose bytes have stayed reads the same. -/
theorem readFile_eq_ok (h : Grows t t') (hread : t.readFile p = .ok bytes)
    (hbytes : ∀ place, t.locate p = .ok place → t'.fileAt? place = t.fileAt? place) :
    t'.readFile p = .ok bytes := by
  obtain ⟨place, hlocate, hfile⟩ := readFile_eq_ok_iff.1 hread
  refine readFile_eq_ok_iff.2 ⟨place, h.locate_eq_ok hlocate, ?_⟩
  rw [hbytes place hlocate, hfile]

/-- A text that is the name of a file stays one. -/
theorem fileNamed?_isSome (h : Grows t t') {path : Text} (hfile : (t.fileNamed? path).isSome) :
    (t'.fileNamed? path).isSome := by
  obtain ⟨bytes, hnamed⟩ := Option.isSome_iff_exists.1 hfile
  obtain ⟨place, hlocate, hthere⟩ := fileNamed?_eq_some_iff.1 hnamed
  obtain ⟨bytes', hkept⟩ := Option.isSome_iff_exists.1 (h.files place (by rw [hthere]; rfl))
  rw [fileNamed?_eq_some_iff.2 ⟨place, h.locateRaw_eq_ok hlocate, hkept⟩]
  rfl

end Grows

/-! ## Directories that are there -/

theorem ensureDirectory_of_isDirectory (h : t.isDirectory p = .ok true) :
    t.ensureDirectory p = .ok t := by
  obtain ⟨place, hlocate, hentry⟩ := isDirectory_eq_true_iff.1 h
  have hmade : t.makeDirectory p = .error ⟨.exists, p.toText⟩ := by
    rw [makeDirectory, hlocate]
    simp only [bind, Except.bind, hentry]
    rfl
  rw [ensureDirectory, hmade]
  dsimp only
  rw [if_neg (by decide), h]

/-- Directories that are there need not be made. -/
theorem makeDirectories_of_isDirectory (h : t.isDirectory p = .ok true) :
    t.makeDirectories p = (.ok (), t) := by
  obtain ⟨root, parts⟩ := p
  rw [makeDirectories]
  cases hparts : parts.reverse with
  | nil =>
    obtain rfl := List.reverse_eq_nil_iff.1 hparts
    rw [makeParts, ensureDirectory_of_isDirectory h]
    rfl
  | cons part above =>
    have hensure : t.ensureDirectory ⟨root, (part :: above).reverse⟩ = .ok t := by
      rw [← hparts, List.reverse_reverse]
      exact ensureDirectory_of_isDirectory h
    rw [makeParts, hensure]

/-- A directory that has been made sure of is there. -/
theorem isDirectory_of_ensureDirectory (h : t.ensureDirectory p = .ok t') :
    t'.isDirectory p = .ok true := by
  rw [ensureDirectory] at h
  split at h
  · rename_i made hmade
    cases h
    obtain ⟨place, hlocate, hentry, rfl⟩ := makeDirectory_eq_ok_iff.1 hmade
    have hgrows := Grows.set_directory hentry
    refine isDirectory_eq_true_iff.2 ⟨place, hgrows.locate_eq_ok hlocate, ?_⟩
    rw [entry?_set, if_pos]
    refine ⟨rfl, fun hroot => ?_⟩
    rw [hroot, entry?_root] at hentry
    cases hentry
  · split at h
    · cases h
    · split at h
      · rename_i hdir
        cases h
        exact hdir
      · cases h

/-- **Once the directories of a path are made, the last of them is there.** -/
theorem isDirectory_of_makeDirectories (h : t.makeDirectories p = (.ok (), t')) :
    t'.isDirectory p = .ok true := by
  have hkept : ∀ {u : Tree} {d : Path}, kept u (u.ensureDirectory d) = (.ok (), t') →
      t'.isDirectory d = .ok true := by
    intro u d hd
    cases hensure : u.ensureDirectory d with
    | error e =>
      rw [hensure] at hd
      cases hd
    | ok made =>
      rw [hensure] at hd
      cases hd
      exact isDirectory_of_ensureDirectory hensure
  obtain ⟨root, parts⟩ := p
  rw [makeDirectories] at h
  dsimp only at h
  cases hparts : parts.reverse with
  | nil =>
    obtain rfl := List.reverse_eq_nil_iff.1 hparts
    exact hkept h
  | cons part above =>
    have hwhole : parts = (part :: above).reverse := by rw [← hparts, List.reverse_reverse]
    rw [hparts, makeParts, ← hwhole] at h
    split at h
    · rename_i made hensure
      cases h
      exact isDirectory_of_ensureDirectory hensure
    · split at h
      · cases h
      · split at h
        · cases h
        · exact hkept h

/-- **Directories that were made once are made again without a change**, whatever has been added
since. -/
theorem Grows.makeDirectories_eq (hmade : t.makeDirectories p = (.ok (), t')) (h : Grows t' u) :
    u.makeDirectories p = (.ok (), u) :=
  makeDirectories_of_isDirectory (h.isDirectory_eq_true (isDirectory_of_makeDirectories hmade))

end Tree
end Localize
