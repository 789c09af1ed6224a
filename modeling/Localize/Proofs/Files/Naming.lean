import Localize.Proofs.Files.Alike
import Localize.Proofs.Files.WellFormed

/-!
# Texts that name files

A text, taken as a path, may be the name of a file.  Which file that is hangs on the tree, and so do
its bytes: where a text names a file, any bytes may stand there (`fileNamed?_set_file`).  Some texts
name a file in no tree (`NamesNoFile`), because the system cannot be asked about them, or because
they or one of their parts are too long.  Among texts without a slash these are all, but for the
dots that name directories (`namesNoFile_iff_of_no_slash`).
-/

set_option autoImplicit false

namespace Localize
namespace Tree

variable {t t' : Tree} {place q : Location} {bytes : Bytes} {path : Text} {parts : List Text}
variable {logFile : Option Location}

/-! ## The file of a name -/

theorem Alike.locateRaw_eq (h : Alike logFile t t') (path : Text) :
    t'.locateRaw path = t.locateRaw path := by
  rw [locateRaw, locateRaw, h.cwd, h.walk_eq]

/-- A tree stays as it should be when a file gets other bytes. -/
theorem WellFormed.set_file (h : t.WellFormed) {old : Bytes} (hfile : t.fileAt? place = some old)
    (bytes : Bytes) : (t.set place (.file bytes)).WellFormed := by
  have hentry := fileAt?_eq_some_iff.1 hfile
  refine h.set (h.admits hentry) (fun hroot => ?_) (Or.inr ?_)
  · rw [hroot, entry?_root] at hentry
    cases hentry
  · rw [hentry]
    exact nofun

/-- **Where a text names a file, it may name any bytes.** -/
theorem fileNamed?_set_file (hlocate : t.locateRaw path = .ok place) {old : Bytes}
    (hfile : t.fileAt? place = some old) (bytes : Bytes) :
    (t.set place (.file bytes)).fileNamed? path = some bytes := by
  have halike := Alike.of_set_file t (Option.isSome_iff_exists.2 ⟨old, hfile⟩) bytes
  have hroot : place ≠ [] := by
    rintro rfl
    cases hfile
  refine fileNamed?_eq_some_iff.2 ⟨place, (halike.locateRaw_eq path).trans hlocate, ?_⟩
  rw [fileAt?_eq_some_iff, entry?_set, if_pos ⟨rfl, hroot⟩]

/-! ## Texts that name no file -/

/-- The text names no file, in whatever tree. -/
def NamesNoFile (path : Text) : Prop := ∀ t : Tree, t.WellFormed → t.fileNamed? path = none

/-- A text that no tree leads anywhere names no file. -/
theorem namesNoFile_of_locateRaw (h : ∀ (t : Tree) place, t.locateRaw path ≠ .ok place) :
    NamesNoFile path := fun t _ =>
  Option.eq_none_iff_forall_ne_some.2 fun _ hfile =>
    let ⟨place, hlocate, _⟩ := fileNamed?_eq_some_iff.1 hfile
    h t place hlocate

/-- What it takes to be asked about. -/
theorem of_locateRaw_eq_ok (h : t.locateRaw path = .ok place) :
    pathFault? path = none ∧ byteLength path ≤ maxPath := by
  rw [locateRaw] at h
  split at h
  · cases h
  · rename_i hfault
    split at h
    · cases h
    · split at h
      · cases h
      · rename_i hlength
        refine ⟨Option.eq_none_iff_forall_ne_some.2 fun cause hcause => hfault cause hcause, ?_⟩
        exact Nat.le_of_not_lt hlength

/-- Every part of a path that leads somewhere is short enough for a name. -/
theorem byteLength_le_of_walk (h : t.walk place parts = .ok q) :
    ∀ part ∈ parts, byteLength part ≤ maxName := by
  induction parts generalizing place with
  | nil => exact nofun
  | cons part rest ih =>
    suffices hhead : byteLength part ≤ maxName ∧ ∃ next, t.walk next rest = .ok q by
      obtain ⟨hpart, next, hnext⟩ := hhead
      exact fun other hother =>
        (List.mem_cons.1 hother).elim (fun heq => heq ▸ hpart) (ih hnext other)
    rw [walk] at h
    split at h
    · cases h
    · cases h
    · split at h
      · rename_i hskip
        exact ⟨by rcases hskip with rfl | rfl <;> decide, _, h⟩
      · split at h
        · rename_i hup
          exact ⟨by rw [hup]; decide, _, h⟩
        · split at h
          · cases h
          · rename_i hlength
            exact ⟨Nat.le_of_not_lt hlength, _, h⟩

/-- **A text names no file** if the system cannot be asked about it, if it is too long for a path,
or if a part of it is too long for a name. -/
theorem namesNoFile_of_long (h : pathFault? path ≠ none ∨ maxPath < byteLength path ∨
    ∃ part ∈ Text.splitOn Path.slash path, maxName < byteLength part) : NamesNoFile path := by
  refine namesNoFile_of_locateRaw fun t place hlocate => ?_
  obtain ⟨hfault, hpath⟩ := of_locateRaw_eq_ok hlocate
  have hparts := byteLength_le_of_walk (walk_of_locateRaw hlocate)
  rcases h with h | h | ⟨part, hpart, h⟩
  · exact h hfault
  · exact absurd hpath (Nat.not_le_of_lt h)
  · exact absurd (hparts part hpart) (Nat.not_le_of_lt h)

/-! ## Texts without a slash -/

theorem splitOn_of_no_slash (h : CodePoint.ofChar '/' ∉ path) :
    Text.splitOn Path.slash path = [path] :=
  Text.splitOn_of_absent fun hin => h (hin.subset (List.mem_singleton.2 rfl))

/-- Dots name directories. -/
theorem namesNoFile_of_dots (h : path = Path.dot ∨ path = Path.up) : NamesNoFile path := by
  intro t hwell
  refine Option.eq_none_iff_forall_ne_some.2 fun bytes hfile => ?_
  obtain ⟨place, hlocate, hfile⟩ := fileNamed?_eq_some_iff.1 hfile
  have hwalk := walk_of_locateRaw hlocate
  have hentry := fileAt?_eq_some_iff.1 hfile
  rcases h with rfl | rfl
  · rw [splitOn_of_no_slash (by decide), walk] at hwalk
    split at hwalk
    · cases hwalk
    · cases hwalk
    · rename_i hdir
      rw [if_pos (Or.inr rfl), walk] at hwalk
      cases hwalk
      rw [hdir] at hentry
      cases hentry
  · rw [splitOn_of_no_slash (by decide), walk] at hwalk
    split at hwalk
    · cases hwalk
    · cases hwalk
    · rename_i hdir
      rw [if_neg (by decide), if_pos rfl, walk] at hwalk
      cases hwalk
      -- the directory above a directory is one
      generalize (if Path.rootOf Path.up = .relative then t.cwd else []) = start at hdir hentry
      have habove : t.entry? start.dropLast = some .directory := by
        by_cases hroot : start = []
        · rw [hroot]
          exact t.entry?_root
        · exact (hwell.admits hdir hroot).2
      rw [habove] at hentry
      cases hentry

/-- A name is the name of a file in a tree that holds nothing else. -/
theorem fileNamed?_of_isName (h : Path.IsName path) (hfault : pathFault? path = none)
    (hlength : byteLength path ≤ maxName) :
    ∃ t : Tree, t.WellFormed ∧ t.fileNamed? path = some [] := by
  let t : Tree := ⟨[([path], .file [])], []⟩
  have hwell : t.WellFormed := by
    refine ⟨List.nodup_cons.2 ⟨List.not_mem_nil, List.nodup_nil⟩, ?_, ?_⟩
    · rintro l hl part hpart
      rw [List.mem_singleton.1 hl, List.mem_singleton] at hpart
      exact hpart ▸ h
    · rintro l hl
      rw [List.mem_singleton.1 hl]
      exact ⟨List.cons_ne_nil _ _, t.entry?_root⟩
  refine ⟨t, hwell, fileNamed?_eq_some_iff.2 ⟨[path], ?_, ?_⟩⟩
  · have hpath : byteLength path ≤ maxPath := Nat.le_trans hlength (by decide)
    have hwalk : t.walk [] [path] = .ok [path] := by
      rw [walk, entry?_root]
      dsimp only
      rw [if_neg (not_or.2 ⟨h.1.1, h.1.2.1⟩), if_neg h.2, if_neg (Nat.not_lt_of_le hlength)]
      rfl
    rw [locateRaw, hfault]
    dsimp only
    rw [if_neg h.1.1, if_neg (Nat.not_lt_of_le hpath), splitOn_of_no_slash h.1.2.2, ← hwalk]
    exact congrArg (t.walk · [path]) (ite_self _)
  · rw [fileAt?_eq_some_iff, entry?_of_ne_nil (List.cons_ne_nil _ _)]
    exact List.lookup_cons_self

/-- **Among texts without a slash**, these name no file: the empty one, those that the system cannot
be asked about, the dots, and those that are too long for a name. -/
theorem namesNoFile_iff_of_no_slash (h : CodePoint.ofChar '/' ∉ path) :
    NamesNoFile path ↔ path = [] ∨ pathFault? path ≠ none ∨ path = Path.dot ∨ path = Path.up ∨
      maxName < byteLength path := by
  constructor
  · refine fun hnone => Classical.byContradiction fun hname => ?_
    simp only [not_or, Classical.not_not, Nat.not_lt] at hname
    obtain ⟨hne, hfault, hdot, hup, hlength⟩ := hname
    obtain ⟨t, hwell, hfile⟩ := fileNamed?_of_isName ⟨⟨hne, hdot, h⟩, hup⟩ hfault hlength
    rw [hnone t hwell] at hfile
    cases hfile
  · rintro (rfl | hfault | hdot | hup | hlength)
    · exact namesNoFile_of_locateRaw fun t place hlocate => by cases hlocate
    · exact namesNoFile_of_long (Or.inl hfault)
    · exact namesNoFile_of_dots (Or.inl hdot)
    · exact namesNoFile_of_dots (Or.inr hup)
    · refine namesNoFile_of_long (Or.inr (Or.inr ⟨path, ?_, hlength⟩))
      rw [splitOn_of_no_slash h]
      exact List.mem_singleton_self path

end Tree
end Localize
