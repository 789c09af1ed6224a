import Localize.Files.Tree
import Localize.Proofs.Files.Path
import Localize.Proofs.Lookup

/-!
# What one operation on a tree does

Each operation finds the place of its path, looks at what stands there, and puts at most one entry
into the tree.  This file says for each of them when it succeeds and what the tree is then, so that
nothing after it has to open one again.

* `entry?_set` — what a tree holds after an entry is put.
* `eq_resolve_of_locate` — a path that is found is found where `Path.resolve` says it is.
* `readFile_eq_ok_iff`, `writeFile_eq_ok_iff`, `makeDirectory_eq_ok_iff`, `of_copyFile_eq_ok` — the
  operations.
-/

set_option autoImplicit false

namespace Localize

/-- Outcomes can be compared. -/
instance decidableEqExcept {ε α : Type} [DecidableEq ε] [DecidableEq α] : DecidableEq (Except ε α)
  | .ok a, .ok b => decidable_of_iff (a = b) (by simp)
  | .error e, .error f => decidable_of_iff (e = f) (by simp)
  | .ok _, .error _ => isFalse nofun
  | .error _, .ok _ => isFalse nofun

attribute [ext] Tree

/-- The system takes the path: it can be asked about it, and neither the path nor a part of it is too
long. -/
structure Path.Taken (p : Path) : Prop where
  askable : pathFault? p.toText = none
  length : Tree.byteLength p.toText ≤ Tree.maxPath
  lengths : ∀ part ∈ p.parts, Tree.byteLength part ≤ Tree.maxName

instance : DecidablePred Path.Taken := fun p =>
  decidable_of_iff (pathFault? p.toText = none ∧ Tree.byteLength p.toText ≤ Tree.maxPath ∧
      ∀ part ∈ p.parts, Tree.byteLength part ≤ Tree.maxName)
    ⟨fun h => ⟨h.1, h.2.1, h.2.2⟩, fun h => ⟨h.askable, h.length, h.lengths⟩⟩

namespace Tree

variable {t t' : Tree} {p : Path} {place q : Location} {bytes : Bytes}

/-! ## Entries -/

theorem entry?_root (t : Tree) : t.entry? [] = some .directory := if_pos rfl

theorem entry?_of_ne_nil (h : q ≠ []) : t.entry? q = t.entries.lookup q := if_neg h

/-- What a list of entries holds after one is put. -/
theorem lookup_put (place : Location) (e : Entry) (entries : List (Location × Entry))
    (q : Location) :
    (put place e entries).lookup q = if q = place then some e else entries.lookup q :=
  lookup_of_put (put place e) rfl (fun _ _ _ => rfl) entries q

/-- **What a tree holds after an entry is put**: the entry at its place, and everything else as it
was.  The root is not to be moved. -/
theorem entry?_set (t : Tree) (place : Location) (e : Entry) (q : Location) :
    entry? (t.set place e) q = if q = place ∧ q ≠ [] then some e else t.entry? q := by
  by_cases hroot : q = []
  · subst hroot
    rw [if_neg (by simp), entry?_root, entry?_root]
  · rw [entry?_of_ne_nil hroot, entry?_of_ne_nil hroot, set, lookup_put]
    simp [hroot]

theorem fileAt?_eq_some_iff : t.fileAt? q = some bytes ↔ t.entry? q = some (.file bytes) := by
  rw [fileAt?]
  cases t.entry? q with
  | none => simp
  | some e => cases e <;> simp

/-- Places with the same entry hold the same file, if any. -/
theorem fileAt?_congr (h : t'.entry? q = t.entry? q) : t'.fileAt? q = t.fileAt? q := by
  rw [fileAt?, fileAt?, h]

/-! ## Walking -/

/-- A walk that gets somewhere gets where the parts lead, whatever stands on the way. -/
theorem eq_foldl_of_walk {parts : List Text} (h : t.walk place parts = .ok q) :
    q = (parts.filter fun part => part ≠ [] && part ≠ Path.dot).foldl Path.resolveStep place := by
  induction parts generalizing place with
  | nil =>
    rw [walk] at h
    cases h
    rfl
  | cons part rest ih =>
    rw [walk] at h
    split at h
    · cases h
    · cases h
    · split at h
      · rename_i hskip
        rw [List.filter_cons_of_neg (by rcases hskip with hskip | hskip <;> simp [hskip])]
        exact ih h
      · rename_i hkept
        rw [not_or] at hkept
        rw [List.filter_cons_of_pos (by simp [hkept.1, hkept.2]), List.foldl_cons, Path.resolveStep]
        split at h
        · rename_i hup
          rw [if_pos hup]
          exact ih h
        · rename_i hup
          rw [if_neg hup]
          split at h
          · cases h
          · exact ih h

theorem walk_append (t : Tree) (place : Location) (parts more : List Text) :
    t.walk place (parts ++ more) = t.walk place parts >>= fun q => t.walk q more := by
  induction parts generalizing place with
  | nil => rfl
  | cons part parts ih =>
    rw [List.cons_append, walk, walk]
    split
    · rfl
    · rfl
    · split
      · exact ih _
      · split
        · exact ih _
        · split
          · rfl
          · exact ih _

/-- What says nothing is passed over. -/
theorem walk_filter {parts : List Text} (h : t.walk place parts = .ok q) :
    t.walk place (parts.filter fun part => part ≠ [] && part ≠ Path.dot) = .ok q := by
  induction parts generalizing place with
  | nil => exact h
  | cons part rest ih =>
    rw [walk] at h
    split at h
    · cases h
    · cases h
    · rename_i hdir
      split at h
      · rename_i hskip
        rw [List.filter_cons_of_neg (by rcases hskip with hskip | hskip <;> simp [hskip])]
        exact ih h
      · rename_i hkept
        rw [List.filter_cons_of_pos (by rw [not_or] at hkept; simp [hkept.1, hkept.2]), walk, hdir]
        dsimp only
        rw [if_neg hkept]
        split at h
        · rename_i hup
          rw [if_pos hup]
          exact ih h
        · rename_i hup
          rw [if_neg hup]
          split at h
          · cases h
          · rename_i hlength
            rw [if_neg hlength]
            exact ih h

/-- What says nothing is passed over at the root. -/
theorem walk_replicate_append (t : Tree) (n : Nat) (parts : List Text) :
    t.walk [] (List.replicate n [] ++ parts) = t.walk [] parts := by
  induction n with
  | zero => rfl
  | succ n ih =>
    rw [List.replicate_succ, List.cons_append, walk, entry?_root]
    dsimp only
    rw [if_pos (Or.inl rfl), ih]

/-- What it takes to find a path as it is written. -/
theorem walk_of_locateRaw {path : Text} (h : t.locateRaw path = .ok place) :
    t.walk (if Path.rootOf path = .relative then t.cwd else []) (Text.splitOn Path.slash path)
      = .ok place := by
  rw [locateRaw] at h
  split at h
  · cases h
  · split at h
    · cases h
    · split at h
      · cases h
      · exact h

/-- **A path that is found is found where it leads**, read without a look at the tree. -/
theorem eq_resolve_of_locate (hp : p.Normal) (h : t.locate p = .ok place) :
    place = p.resolve t.cwd := by
  have hplace : place = (Path.ofText p.toText).resolve t.cwd :=
    eq_foldl_of_walk (walk_of_locateRaw h)
  rw [hplace, Path.ofText_toText hp]

/-- The place that the parts of a path are walked from. -/
def startOf (t : Tree) (p : Path) : Location := if p.root = .relative then t.cwd else []

/-- A path that is found is found by walking its parts. -/
theorem walk_of_locate (hp : p.Normal) (h : t.locate p = .ok place) :
    t.walk (t.startOf p) p.parts = .ok place := by
  have hwalk := walk_filter (walk_of_locateRaw h)
  have hparts : (Text.splitOn Path.slash p.toText).filter
      (fun part => part ≠ [] && part ≠ Path.dot) = p.parts :=
    congrArg Path.parts (Path.ofText_toText hp)
  have hroot : Path.rootOf p.toText = p.root := congrArg Path.root (Path.ofText_toText hp)
  rwa [hparts, hroot] at hwalk

/-- A path that the system takes is found by walking its parts. -/
theorem locate_eq_walk (hp : p.Normal) (hne : p.parts ≠ []) (h : p.Taken) :
    t.locate p = t.walk (t.startOf p) p.parts := by
  obtain ⟨n, hcut, hn⟩ := Path.exists_splitOn_toText hp hne
  have hroot : Path.rootOf p.toText = p.root := congrArg Path.root (Path.ofText_toText hp)
  have hsome : p.toText ≠ [] := fun hnil => by
    have hparts : p.parts = [] := by
      rw [← Path.ofText_toText hp, hnil]
      rfl
    exact hne hparts
  rw [locate, locateRaw, h.askable]
  dsimp only
  rw [if_neg hsome, if_neg (Nat.not_lt.2 h.length), hcut, hroot, startOf]
  split
  · rename_i hrelative
    rw [hn hrelative]
    rfl
  · exact walk_replicate_append t n p.parts

/-! ## Reading and writing -/

theorem named_eq_ok_iff {α : Type} {x : Except FileCause α} {a : α} :
    named p x = .ok a ↔ x = .ok a := by
  cases x <;> simp [named]

theorem status_eq_ok_iff {e : Entry} :
    t.status p = .ok e ↔ ∃ place, t.locate p = .ok place ∧ t.entry? place = some e := by
  rw [status, statusRaw, ← locate]
  cases t.locate p with
  | error cause => simp [bind, Except.bind]
  | ok place =>
    dsimp only [bind, Except.bind]
    cases hentry : t.entry? place <;> simp [hentry]

/-- A directory is found where its path leads. -/
theorem isDirectory_eq_true_iff :
    t.isDirectory p = .ok true ↔
      ∃ place, t.locate p = .ok place ∧ t.entry? place = some .directory := by
  rw [← status_eq_ok_iff, isDirectory, test]
  cases t.status p with
  | ok e => cases e <;> simp [isDirectoryEntry]
  | error cause => cases cause <;> simp

/-- A text names the file that stands where it leads. -/
theorem fileNamed?_eq_some_iff {path : Text} :
    t.fileNamed? path = some bytes ↔
      ∃ place, t.locateRaw path = .ok place ∧ t.fileAt? place = some bytes := by
  rw [fileNamed?, statusRaw]
  cases t.locateRaw path with
  | error cause => simp [bind, Except.bind]
  | ok place =>
    simp only [bind, Except.bind, Except.ok.injEq, exists_eq_left']
    rw [fileAt?]
    cases t.entry? place with
    | none => simp
    | some e => cases e <;> simp

/-- A file is read where its path leads. -/
theorem readFile_eq_ok_iff :
    t.readFile p = .ok bytes ↔ ∃ place, t.locate p = .ok place ∧ t.fileAt? place = some bytes := by
  rw [readFile, named_eq_ok_iff]
  constructor
  · intro h
    cases hstatus : t.status p with
    | error cause =>
      rw [hstatus] at h
      cases h
    | ok e =>
      obtain ⟨place, hlocate, hentry⟩ := status_eq_ok_iff.1 hstatus
      rw [hstatus] at h
      cases e with
      | directory => cases h
      | file b =>
        cases h
        exact ⟨place, hlocate, fileAt?_eq_some_iff.2 hentry⟩
  · rintro ⟨place, hlocate, hfile⟩
    rw [status_eq_ok_iff.2 ⟨place, hlocate, fileAt?_eq_some_iff.1 hfile⟩]
    rfl

/-- A path without parts is not that of a file. -/
theorem parts_ne_nil_of_readFile (h : t.readFile p = .ok bytes) : p.parts ≠ [] := by
  intro hnil
  obtain ⟨root, parts⟩ := p
  obtain rfl : parts = [] := hnil
  obtain ⟨place, hlocate, hfile⟩ := readFile_eq_ok_iff.1 h
  have hentry := fileAt?_eq_some_iff.1 hfile
  have hwalk := walk_of_locateRaw hlocate
  have hsteps : t.entry? place = some .directory := by
    cases root with
    | relative =>
      have hcut : Text.splitOn Path.slash (Path.toText ⟨.relative, []⟩) = [Path.dot] := by decide
      rw [hcut, walk] at hwalk
      split at hwalk
      · cases hwalk
      · cases hwalk
      · rename_i hdir
        rw [if_pos (Or.inr rfl), walk] at hwalk
        cases hwalk
        exact hdir
    | absolute =>
      obtain rfl : [] = place := Except.ok.inj hwalk
      exact entry?_root t
    | doubled =>
      obtain rfl : [] = place := Except.ok.inj hwalk
      exact entry?_root t
  rw [hsteps] at hentry
  cases hentry

/-- A file is written where its path leads, unless a directory stands there. -/
theorem writeFile_eq_ok_iff :
    t.writeFile p bytes = .ok t' ↔
      ∃ place, t.locate p = .ok place ∧ t.entry? place ≠ some .directory ∧
        t' = t.set place (.file bytes) := by
  rw [writeFile, named_eq_ok_iff]
  cases t.locate p with
  | error cause => simp [bind, Except.bind]
  | ok place =>
    dsimp only [bind, Except.bind]
    cases hentry : t.entry? place with
    | none => simp [hentry, eq_comm]
    | some e => cases e <;> simp [hentry, eq_comm]

/-- A directory is made where its path leads, unless something stands there. -/
theorem makeDirectory_eq_ok_iff :
    t.makeDirectory p = .ok t' ↔
      ∃ place, t.locate p = .ok place ∧ t.entry? place = none ∧ t' = t.set place .directory := by
  rw [makeDirectory, named_eq_ok_iff]
  cases t.locate p with
  | error cause => simp [bind, Except.bind]
  | ok place =>
    dsimp only [bind, Except.bind]
    cases hentry : t.entry? place <;> simp [hentry, eq_comm]

theorem of_ensureDirectory_eq_ok (h : t.ensureDirectory p = .ok t') :
    t.makeDirectory p = .ok t' ∨ t' = t := by
  rw [ensureDirectory] at h
  split at h
  · rename_i made hmade
    cases h
    exact Or.inl hmade
  · split at h
    · cases h
    · split at h
      · cases h
        exact Or.inr rfl
      · cases h

/-- A copy gets the bytes of its source.  It goes where the target leads, or, where a directory
stands there, into that directory. -/
theorem of_copyFile_eq_ok {source target : Path} (h : t.copyFile source target = .ok t') :
    ∃ goal place bytes, (goal = target ∧ t.status target ≠ .ok .directory ∨
        goal = target.join (.ofNames [source.name]) ∧ t.status target = .ok .directory) ∧
      t.readFile source = .ok bytes ∧ t.locate goal = .ok place ∧
      t.entry? place ≠ some .directory ∧ t' = t.set place (.file bytes) := by
  rw [copyFile] at h
  cases hread : t.readFile source with
  | error e =>
    rw [hread] at h
    cases h
  | ok bytes =>
    rw [hread] at h
    cases hstatus : t.status target with
    | error cause =>
      rw [hstatus] at h
      obtain ⟨place, hlocate, hentry, hset⟩ := writeFile_eq_ok_iff.1 h
      exact ⟨target, place, bytes, Or.inl ⟨rfl, nofun⟩, rfl, hlocate, hentry, hset⟩
    | ok e =>
      rw [hstatus] at h
      obtain ⟨place, hlocate, hentry, hset⟩ := writeFile_eq_ok_iff.1 h
      cases e with
      | directory => exact ⟨_, place, bytes, Or.inr ⟨rfl, rfl⟩, rfl, hlocate, hentry, hset⟩
      | file b => exact ⟨_, place, bytes, Or.inl ⟨rfl, nofun⟩, rfl, hlocate, hentry, hset⟩

end Tree
end Localize
