import Localize.Proofs.Files.Change

/-!
# Trees that differ in one file

A build that keeps a log writes to one file all the time.  Two of its trees are `Tree.Alike` when
they agree everywhere but in the bytes of that file.  No operation looks at the bytes of a file
except to read it, so operations on trees that are alike find the same places, fail in the same way,
and leave trees that are alike.
-/

set_option autoImplicit false

namespace Localize
namespace Tree

variable {logFile : Option Location} {t t' u : Tree} {p : Path} {place q : Location} {bytes : Bytes}

/-- The trees agree everywhere but in the bytes of one file. -/
structure Alike (logFile : Option Location) (t t' : Tree) : Prop where
  cwd : t'.cwd = t.cwd
  entry? : ∀ q, t'.entry? q = t.entry? q ∨
    logFile = some q ∧ ∃ b b', t.entry? q = some (.file b) ∧ t'.entry? q = some (.file b')

namespace Alike

theorem refl (t : Tree) : Alike logFile t t := ⟨rfl, fun _ => Or.inl rfl⟩

theorem symm (h : Alike logFile t t') : Alike logFile t' t := by
  refine ⟨h.cwd.symm, fun q => ?_⟩
  rcases h.entry? q with heq | ⟨hq, b, b', hb, hb'⟩
  · exact Or.inl heq.symm
  · exact Or.inr ⟨hq, b', b, hb', hb⟩

theorem trans (h : Alike logFile t t') (h' : Alike logFile t' u) : Alike logFile t u := by
  refine ⟨h'.cwd.trans h.cwd, fun q => ?_⟩
  rcases h'.entry? q with heq' | ⟨hq, b, b', hb, hb'⟩
  · rw [heq']
    exact h.entry? q
  · rcases h.entry? q with heq | ⟨-, c, c', hc, -⟩
    · exact Or.inr ⟨hq, b, b', heq ▸ hb, hb'⟩
    · exact Or.inr ⟨hq, c, b', hc, hb'⟩

/-- Everywhere but at the one file they hold the same. -/
theorem entry?_eq (h : Alike logFile t t') (hq : logFile ≠ some q) : t'.entry? q = t.entry? q := by
  rcases h.entry? q with heq | ⟨hfile, -⟩
  · exact heq
  · exact absurd hfile hq

theorem fileAt?_eq (h : Alike logFile t t') (hq : logFile ≠ some q) : t'.fileAt? q = t.fileAt? q :=
  fileAt?_congr (h.entry?_eq hq)

/-- They hold files at the same places. -/
theorem isSome_fileAt? (h : Alike logFile t t') (q : Location) :
    (t'.fileAt? q).isSome = (t.fileAt? q).isSome := by
  rcases h.entry? q with heq | ⟨-, b, b', hb, hb'⟩
  · rw [fileAt?_congr heq]
  · rw [fileAt?_eq_some_iff.2 hb, fileAt?_eq_some_iff.2 hb']
    rfl

/-! ## Finding places -/

theorem walk_eq (h : Alike logFile t t') (place : Location) (parts : List Text) :
    t'.walk place parts = t.walk place parts := by
  induction parts generalizing place with
  | nil => rfl
  | cons part rest ih =>
    rw [walk, walk]
    rcases h.entry? place with heq | ⟨-, b, b', hb, hb'⟩
    · rw [heq, ih, ih, ih]
    · rw [hb, hb']

theorem locate_eq (h : Alike logFile t t') (p : Path) : t'.locate p = t.locate p := by
  rw [locate, locate, locateRaw, locateRaw, h.cwd, h.walk_eq]

/-- What stands at a path is the same in both, or it is a file. -/
theorem status_cases (h : Alike logFile t t') (p : Path) :
    t'.status p = t.status p ∨
      ∃ b b', t.status p = .ok (.file b) ∧ t'.status p = .ok (.file b') := by
  rw [status, status, statusRaw, statusRaw, ← locate, ← locate, h.locate_eq]
  cases t.locate p with
  | error cause => exact Or.inl rfl
  | ok place =>
    dsimp only [bind, Except.bind]
    rcases h.entry? place with heq | ⟨-, b, b', hb, hb'⟩
    · exact Or.inl (by rw [heq])
    · exact Or.inr ⟨b, b', by rw [hb], by rw [hb']⟩

theorem isDirectory_eq (h : Alike logFile t t') (p : Path) :
    t'.isDirectory p = t.isDirectory p := by
  rw [isDirectory, isDirectory, test, test]
  rcases h.status_cases p with heq | ⟨b, b', hb, hb'⟩
  · rw [heq]
  · rw [hb, hb']
    rfl

/-! ## Reading -/

/-- **A file other than the one reads the same.** -/
theorem readFile_eq (h : Alike logFile t t') (hp : p.Normal)
    (hplace : logFile ≠ some (p.resolve t.cwd)) : t'.readFile p = t.readFile p := by
  rw [readFile, readFile, status, status, statusRaw, statusRaw, ← locate, ← locate, h.locate_eq]
  cases hlocate : t.locate p with
  | error cause => rfl
  | ok place =>
    rw [← eq_resolve_of_locate hp hlocate] at hplace
    dsimp only [bind, Except.bind]
    rw [h.entry?_eq hplace]

/-! ## Writing -/

/-- Putting the same entry into both leaves them alike. -/
theorem set (h : Alike logFile t t') (place : Location) (e : Entry) :
    Alike logFile (t.set place e) (t'.set place e) := by
  refine ⟨h.cwd, fun q => ?_⟩
  rw [entry?_set, entry?_set]
  by_cases hq : q = place ∧ q ≠ []
  · rw [if_pos hq, if_pos hq]
    exact Or.inl rfl
  · rw [if_neg hq, if_neg hq]
    exact h.entry? q

/-- The one file may get any bytes. -/
theorem of_set_file (t : Tree) {place : Location} (hfile : (t.fileAt? place).isSome)
    (bytes : Bytes) : Alike (some place) t (t.set place (.file bytes)) := by
  refine ⟨rfl, fun q => ?_⟩
  rw [entry?_set]
  split
  · rename_i hq
    obtain ⟨old, hold⟩ := Option.isSome_iff_exists.1 hfile
    exact Or.inr ⟨by rw [hq.1], old, bytes, hq.1 ▸ fileAt?_eq_some_iff.1 hold, rfl⟩
  · exact Or.inl rfl

/-- Two outcomes are alike: both fail for the same reason, or both give trees that are alike. -/
inductive Outcome (logFile : Option Location) :
    Except FileError Tree → Except FileError Tree → Prop
  | error (e : FileError) : Outcome logFile (.error e) (.error e)
  | ok {u u' : Tree} (h : Alike logFile u u') : Outcome logFile (.ok u) (.ok u')

theorem writeFile (h : Alike logFile t t') (p : Path) (bytes : Bytes) :
    Outcome logFile (t.writeFile p bytes) (t'.writeFile p bytes) := by
  rw [Tree.writeFile, Tree.writeFile, h.locate_eq]
  cases t.locate p with
  | error cause => exact .error _
  | ok place =>
    have hset := h.set place (.file bytes)
    dsimp only [bind, Except.bind]
    rcases h.entry? place with heq | ⟨-, b, b', hb, hb'⟩
    · rw [heq]
      split
      · exact .error _
      · exact .ok hset
    · rw [hb, hb']
      exact .ok hset

theorem makeDirectory (h : Alike logFile t t') (p : Path) :
    Outcome logFile (t.makeDirectory p) (t'.makeDirectory p) := by
  rw [Tree.makeDirectory, Tree.makeDirectory, h.locate_eq]
  cases t.locate p with
  | error cause => exact .error _
  | ok place =>
    have hset := h.set place .directory
    dsimp only [bind, Except.bind]
    rcases h.entry? place with heq | ⟨-, b, b', hb, hb'⟩
    · rw [heq]
      split
      · exact .error _
      · exact .ok hset
    · rw [hb, hb']
      exact .error _

theorem ensureDirectory (h : Alike logFile t t') (p : Path) :
    Outcome logFile (t.ensureDirectory p) (t'.ensureDirectory p) := by
  rw [Tree.ensureDirectory, Tree.ensureDirectory, h.isDirectory_eq]
  have hmade := h.makeDirectory p
  generalize t.makeDirectory p = made at hmade
  generalize t'.makeDirectory p = made' at hmade
  cases hmade with
  | ok hmade => exact .ok hmade
  | error e =>
    dsimp only
    split
    · exact .error e
    · split
      · exact .ok h
      · exact .error e

/-- Two operations that make directories came out the same, and left trees that are alike. -/
def Kept (logFile : Option Location) (x x' : Except FileError Unit × Tree) : Prop :=
  x'.1 = x.1 ∧ Alike logFile x.2 x'.2

theorem kept (h : Alike logFile t t') {x x' : Except FileError Tree} (hx : Outcome logFile x x') :
    Kept logFile (Tree.kept t x) (Tree.kept t' x') := by
  cases hx with
  | error e => exact ⟨rfl, h⟩
  | ok hu => exact ⟨rfl, hu⟩

/-- **Directories that are made in both leave them alike**, whether or not all could be made. -/
theorem makeDirectories (h : Alike logFile t t') (p : Path) :
    Kept logFile (t.makeDirectories p) (t'.makeDirectories p) := by
  rw [Tree.makeDirectories, Tree.makeDirectories]
  induction p.parts.reverse generalizing t t' with
  | nil => exact h.kept (h.ensureDirectory _)
  | cons part above ih =>
    rw [makeParts, makeParts]
    have hlast := h.ensureDirectory ⟨p.root, (part :: above).reverse⟩
    generalize t.ensureDirectory ⟨p.root, (part :: above).reverse⟩ = made at hlast
    generalize t'.ensureDirectory ⟨p.root, (part :: above).reverse⟩ = made' at hlast
    cases hlast with
    | ok hmade => exact ⟨rfl, hmade⟩
    | error e =>
      dsimp only
      split
      · exact ⟨rfl, h⟩
      · have habove := ih h
        rcases hx : makeParts p.root t above with ⟨out, u⟩
        rcases hx' : makeParts p.root t' above with ⟨out', u'⟩
        rw [hx, hx'] at habove
        obtain ⟨rfl, hu⟩ := habove
        dsimp only at hu ⊢
        cases out' with
        | error e => exact ⟨rfl, hu⟩
        | ok _ => exact hu.kept (hu.ensureDirectory _)

/-- A copy of a file other than the one. -/
theorem copyFile (h : Alike logFile t t') {source : Path} (hsource : source.Normal)
    (hplace : logFile ≠ some (source.resolve t.cwd)) (target : Path) :
    Outcome logFile (t.copyFile source target) (t'.copyFile source target) := by
  rw [Tree.copyFile, Tree.copyFile, h.readFile_eq hsource hplace]
  cases t.readFile source with
  | error e => exact .error e
  | ok bytes =>
    rcases h.status_cases target with heq | ⟨b, b', hb, hb'⟩
    · rw [heq]
      exact h.writeFile _ _
    · rw [hb, hb']
      exact h.writeFile _ _

end Alike
end Tree
end Localize
