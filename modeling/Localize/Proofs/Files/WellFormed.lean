import Localize.Proofs.Files.Change
import Localize.Proofs.Lookup

/-!
# Trees as a system of files has them

Not every list of places and entries is a tree of files.  In one that is (`Tree.WellFormed`), no
place is listed twice, every place is made of names, and every entry lies in a directory that is
there.  Everything that finds its place by walking keeps a tree this way (`WellFormed.set`,
`WellFormed.makeDirectories`), because a walk passes through directories only.

In such a tree nothing stands below a place where nothing is (`WellFormed.entry?_append_eq_none`),
and the files that are listed below a place are the files there are, each once (`mem_filesUnder`,
`nodup_filesUnder`).
-/

set_option autoImplicit false

namespace Localize
namespace Tree

variable {t t' : Tree} {p : Path} {place q : Location} {bytes : Bytes}

/-- A tree as a system of files has it. -/
structure WellFormed (t : Tree) : Prop where
  nodup : (t.entries.map Prod.fst).Nodup
  names : ∀ l ∈ t.entries.map Prod.fst, ∀ part ∈ l, Path.IsName part
  parent : ∀ l ∈ t.entries.map Prod.fst, l ≠ [] ∧ t.entry? l.dropLast = some .directory

instance : DecidablePred WellFormed := fun t =>
  decidable_of_iff
    ((t.entries.map Prod.fst).Nodup ∧
      (∀ l ∈ t.entries.map Prod.fst, ∀ part ∈ l, Path.IsName part) ∧
      ∀ l ∈ t.entries.map Prod.fst, l ≠ [] ∧ t.entry? l.dropLast = some .directory)
    ⟨fun h => ⟨h.1, h.2.1, h.2.2⟩, fun h => ⟨h.nodup, h.names, h.parent⟩⟩

/-- Something may stand at the place: it is made of names and lies in a directory, unless it is the
root. -/
def Admits (t : Tree) (q : Location) : Prop :=
  q ≠ [] → (∀ part ∈ q, Path.IsName part) ∧ t.entry? q.dropLast = some .directory

/-! ## Listing files -/

/-- The name of a listed file from a place on, if it lies below that place. -/
def nameBelow? (place : Location) : Location × Entry → Option Location
  | (l, .file _) => if place.isPrefixOf l ∧ l ≠ place then some (l.drop place.length) else none
  | _ => none

theorem nameBelow?_eq_some_iff {entry : Location × Entry} {names : Location} :
    nameBelow? place entry = some names ↔
      names ≠ [] ∧ ∃ bytes, entry = (place ++ names, .file bytes) := by
  obtain ⟨l, e⟩ := entry
  cases e with
  | directory => simp [nameBelow?]
  | file b =>
    rw [nameBelow?]
    constructor
    · intro h
      split at h
      · rename_i hl
        cases h
        obtain ⟨names, rfl⟩ := List.isPrefixOf_iff_prefix.1 hl.1
        rw [List.drop_left]
        exact ⟨fun hnil => hl.2 (by rw [hnil, List.append_nil]), b, rfl⟩
      · cases h
    · rintro ⟨hne, bytes, heq⟩
      cases heq
      have hbelow := List.isPrefixOf_iff_prefix.2 (List.prefix_append place names)
      rw [if_pos ⟨hbelow, by simpa using hne⟩, List.drop_left]

theorem filesUnder_eq (t : Tree) (place : Location) :
    t.filesUnder place = (t.entries.filterMap (nameBelow? place)).mergeSort
      fun a b => (Text.compareList a b).isLE := by
  refine congrArg (fun f => List.mergeSort (t.entries.filterMap f) _) (funext fun entry => ?_)
  obtain ⟨l, e⟩ := entry
  cases e <;> rfl

theorem filesUnder_perm (t : Tree) (place : Location) :
    (t.filesUnder place).Perm (t.entries.filterMap (nameBelow? place)) := by
  rw [filesUnder_eq]
  exact List.mergeSort_perm _ _

/-- Files that stand in the order of their names are listed as they stand. -/
theorem filesUnder_of_pairwise (h : (t.entries.filterMap (nameBelow? place)).Pairwise
    fun a b => (Text.compareList a b).isLE) :
    t.filesUnder place = t.entries.filterMap (nameBelow? place) := by
  rw [filesUnder_eq, List.mergeSort_of_pairwise h]

namespace WellFormed

/-- Where something stands, something may stand. -/
theorem admits (h : t.WellFormed) {e : Entry} (he : t.entry? q = some e) : t.Admits q := by
  intro hq
  rw [entry?_of_ne_nil hq] at he
  have hmem : q ∈ t.entries.map Prod.fst := List.mem_map.2 ⟨_, mem_of_lookup he, rfl⟩
  exact ⟨h.names q hmem, (h.parent q hmem).2⟩

/-! ## Walking -/

/-- **A walk leads to where something may stand.** -/
theorem admits_of_walk (h : t.WellFormed) {parts : List Text}
    (hslash : ∀ part ∈ parts, CodePoint.ofChar '/' ∉ part) (hplace : t.Admits place)
    (hwalk : t.walk place parts = .ok q) : t.Admits q := by
  induction parts generalizing place with
  | nil =>
    rw [walk] at hwalk
    cases hwalk
    exact hplace
  | cons part rest ih =>
    have hrest : ∀ part ∈ rest, CodePoint.ofChar '/' ∉ part := fun part hpart =>
      hslash part (List.mem_cons_of_mem _ hpart)
    rw [walk] at hwalk
    split at hwalk
    · cases hwalk
    · cases hwalk
    · rename_i hdir
      split at hwalk
      · exact ih hrest hplace hwalk
      · rename_i hkept
        rw [not_or] at hkept
        split at hwalk
        · -- up: a directory that is not the root lies in a directory, which lies in one again
          refine ih hrest (fun hne => ?_) hwalk
          have hroot : place ≠ [] := fun hnil => hne (by rw [hnil]; rfl)
          exact h.admits (hplace hroot).2 hne
        · rename_i hup
          split at hwalk
          · cases hwalk
          · refine ih hrest (fun _ => ⟨fun name hname => ?_, ?_⟩) hwalk
            · rcases List.mem_append.1 hname with hname | hname
              · exact (hplace (List.ne_nil_of_mem hname)).1 name hname
              · rw [List.mem_singleton.1 hname]
                exact ⟨⟨hkept.1, hkept.2, hslash part List.mem_cons_self⟩, hup⟩
            · rw [List.dropLast_concat]
              exact hdir

/-- A path leads to where something may stand. -/
theorem admits_of_locate (h : t.WellFormed) (hlocate : t.locate p = .ok q) : t.Admits q := by
  have hwalk := walk_of_locateRaw hlocate
  refine h.admits_of_walk (fun part hpart => Text.not_mem_of_mem_splitOn hpart) ?_ hwalk
  intro hne
  obtain ⟨part, rest, hparts⟩ :=
    List.exists_cons_of_ne_nil (Text.splitFrom_ne_nil Path.slash 0 [] p.toText)
  rw [Text.splitOn, hparts, walk] at hwalk
  split at hwalk
  · cases hwalk
  · cases hwalk
  · rename_i hdir
    exact h.admits hdir hne

/-! ## Putting entries -/

theorem map_fst_put (place : Location) (e : Entry) (entries : List (Location × Entry)) :
    (put place e entries).map Prod.fst
      = if place ∈ entries.map Prod.fst then entries.map Prod.fst
        else entries.map Prod.fst ++ [place] := by
  induction entries with
  | nil => rfl
  | cons entry entries ih =>
    obtain ⟨l, old⟩ := entry
    rw [put]
    by_cases hl : l = place
    · simp [hl]
    · rw [if_neg hl, List.map_cons, ih]
      by_cases hmem : place ∈ entries.map Prod.fst
      · simp [hmem]
      · simp [hmem, Ne.symm hl]

/-- **A tree stays as it should be when an entry is put where one may stand**, as long as no
directory gives way to a file. -/
theorem set (h : t.WellFormed) {e : Entry} (hplace : t.Admits place) (hroot : place ≠ [])
    (he : e = .directory ∨ t.entry? place ≠ some .directory) : (t.set place e).WellFormed := by
  have hkeys : ∀ l ∈ (t.set place e).entries.map Prod.fst,
      l ∈ t.entries.map Prod.fst ∨ l = place := by
    intro l hl
    rw [Tree.set, map_fst_put] at hl
    split at hl
    · exact Or.inl hl
    · exact (List.mem_append.1 hl).imp_right List.mem_singleton.1
  have hdirectories : ∀ l, t.entry? l = some .directory →
      entry? (t.set place e) l = some .directory := by
    intro l hl
    rw [entry?_set]
    split
    · rename_i hlp
      rcases he with rfl | he
      · rfl
      · exact absurd (hlp.1 ▸ hl) he
    · exact hl
  refine ⟨?_, fun l hl => ?_, fun l hl => ?_⟩
  · rw [Tree.set, map_fst_put]
    split
    · exact h.nodup
    · rename_i hnew
      refine List.nodup_append.2 ⟨h.nodup, List.nodup_cons.2 ⟨List.not_mem_nil, List.nodup_nil⟩, ?_⟩
      rintro l hl _ hplace' rfl
      exact hnew (List.mem_singleton.1 hplace' ▸ hl)
  · rcases hkeys l hl with hl | rfl
    · exact h.names l hl
    · exact (hplace hroot).1
  · rcases hkeys l hl with hl | rfl
    · exact ⟨(h.parent l hl).1, hdirectories _ (h.parent l hl).2⟩
    · exact ⟨hroot, hdirectories _ (hplace hroot).2⟩

theorem writeFile (h : t.WellFormed) (hwrite : t.writeFile p bytes = .ok t') : t'.WellFormed := by
  obtain ⟨place, hlocate, hentry, rfl⟩ := writeFile_eq_ok_iff.1 hwrite
  refine h.set (h.admits_of_locate hlocate) (fun hnil => ?_) (Or.inr hentry)
  rw [hnil, entry?_root] at hentry
  exact hentry rfl

theorem copyFile (h : t.WellFormed) {source target : Path}
    (hcopy : t.copyFile source target = .ok t') : t'.WellFormed := by
  obtain ⟨goal, place, bytes, -, -, hlocate, hentry, rfl⟩ := of_copyFile_eq_ok hcopy
  exact h.writeFile (writeFile_eq_ok_iff.2 ⟨place, hlocate, hentry, rfl⟩)

/-- Adding to a file that is there keeps the tree as it should be. -/
theorem append (h : t.WellFormed) (hfile : (t.fileAt? place).isSome) :
    (t.append place bytes).WellFormed := by
  obtain ⟨old, hold⟩ := Option.isSome_iff_exists.1 hfile
  have hentry := fileAt?_eq_some_iff.1 hold
  rw [Tree.append, hold]
  refine h.set (h.admits hentry) (fun hnil => ?_) (Or.inr fun hdir => ?_)
  · rw [hnil, entry?_root] at hentry
    cases hentry
  · rw [hentry] at hdir
    cases hdir

theorem makeDirectories (h : t.WellFormed) : (t.makeDirectories p).2.WellFormed := by
  refine makeDirectories_induction h fun above u u' _ hu hmake => ?_
  obtain ⟨place, hlocate, hentry, rfl⟩ := makeDirectory_eq_ok_iff.1 hmake
  refine hu.set (hu.admits_of_locate hlocate) (fun hnil => ?_) (Or.inl rfl)
  rw [hnil, entry?_root] at hentry
  cases hentry

/-! ## What lies below a place -/

/-- **What something lies below is a directory.** -/
theorem entry?_of_append (h : t.WellFormed) {more : Location} (hmore : more ≠ []) {e : Entry}
    (he : t.entry? (q ++ more) = some e) : t.entry? q = some .directory := by
  have hparent : ∀ l part (e : Entry), t.entry? (l ++ [part]) = some e →
      t.entry? l = some .directory := by
    intro l part e he
    have hdir := (h.admits he (by simp)).2
    rwa [List.dropLast_concat] at hdir
  induction more generalizing q with
  | nil => exact absurd rfl hmore
  | cons part rest ih =>
    rw [List.append_cons] at he
    by_cases hrest : rest = []
    · rw [hrest, List.append_nil] at he
      exact hparent q part e he
    · exact hparent q part .directory (ih hrest he)

/-- Names lead to what stands below a place. -/
theorem walk_names (h : t.WellFormed) {names : Location}
    (hlengths : ∀ name ∈ names, byteLength name ≤ maxName) {e : Entry}
    (he : t.entry? (place ++ names) = some e) : t.walk place names = .ok (place ++ names) := by
  induction names generalizing place with
  | nil => rw [walk, List.append_nil]
  | cons name names ih =>
    have hname : Path.IsName name := by
      refine (h.admits he (by simp)).1 name ?_
      simp
    rw [List.append_cons] at he ⊢
    have hdir : t.entry? place = some .directory := by
      rw [List.append_assoc] at he
      exact h.entry?_of_append (List.cons_ne_nil _ _) he
    rw [walk, hdir]
    dsimp only
    rw [if_neg (not_or.2 ⟨hname.1.1, hname.1.2.1⟩), if_neg hname.2,
      if_neg (Nat.not_lt.2 (hlengths name List.mem_cons_self))]
    exact ih (fun other hother => hlengths other (List.mem_cons_of_mem _ hother)) he

/-- **What stands below a place is found by its path**, if the system takes it. -/
theorem locate_join (h : t.WellFormed) (hp : p.Normal) (hplace : t.locate p = .ok place)
    {names : Location} (hne : names ≠ []) (htaken : (p.join (.ofNames names)).Taken) {e : Entry}
    (he : t.entry? (place ++ names) = some e) :
    t.locate (p.join (.ofNames names)) = .ok (place ++ names) := by
  have hnames : ∀ name ∈ names, Path.IsName name := fun name hname =>
    (h.admits he (by simp [hne])).1 name (List.mem_append_right _ hname)
  have hjoin : p.join (.ofNames names) = ⟨p.root, p.parts ++ names⟩ := rfl
  have hnormal : (p.join (.ofNames names)).Normal := hp.join fun name hname => (hnames name hname).1
  rw [locate_eq_walk hnormal (by simp [hjoin, hne]) htaken, hjoin]
  show t.walk (t.startOf p) (p.parts ++ names) = _
  rw [walk_append, walk_of_locate hp hplace]
  exact h.walk_names (fun name hname => htaken.lengths name (List.mem_append_right _ hname)) he

/-- Nothing stands below a place where nothing is. -/
theorem entry?_append_eq_none (h : t.WellFormed) (hq : t.entry? q = none) (more : Location) :
    t.entry? (q ++ more) = none := by
  by_cases hmore : more = []
  · rw [hmore, List.append_nil, hq]
  · cases he : t.entry? (q ++ more) with
    | none => rfl
    | some e =>
      rw [h.entry?_of_append hmore he] at hq
      cases hq

/-! ## Files below a place -/

/-- A file stands at a place if it is listed there. -/
theorem mem_entries_iff (h : t.WellFormed) :
    (q, .file bytes) ∈ t.entries ↔ t.fileAt? q = some bytes := by
  rw [fileAt?_eq_some_iff]
  constructor
  · intro hmem
    rw [entry?_of_ne_nil (h.parent q (List.mem_map.2 ⟨_, hmem, rfl⟩)).1]
    exact lookup_of_mem h.nodup hmem
  · intro hentry
    by_cases hq : q = []
    · rw [hq, entry?_root] at hentry
      cases hentry
    · rw [entry?_of_ne_nil hq] at hentry
      exact mem_of_lookup hentry

/-- **The files listed below a place are those that stand there.** -/
theorem mem_filesUnder (h : t.WellFormed) {names : Location} :
    names ∈ t.filesUnder place ↔ names ≠ [] ∧ (t.fileAt? (place ++ names)).isSome := by
  rw [(filesUnder_perm t place).mem_iff, List.mem_filterMap, Option.isSome_iff_exists]
  constructor
  · rintro ⟨entry, hmem, hname⟩
    obtain ⟨hne, bytes, rfl⟩ := nameBelow?_eq_some_iff.1 hname
    exact ⟨hne, bytes, h.mem_entries_iff.1 hmem⟩
  · rintro ⟨hne, bytes, hfile⟩
    exact ⟨_, h.mem_entries_iff.2 hfile, nameBelow?_eq_some_iff.2 ⟨hne, bytes, rfl⟩⟩

/-- No file lies below another. -/
theorem eq_of_prefix (h : t.WellFormed) {l l' : Location} (hl : l ∈ t.filesUnder place)
    (hl' : l' ∈ t.filesUnder place) (hbelow : l <+: l') : l' = l := by
  obtain ⟨more, rfl⟩ := hbelow
  by_cases hmore : more = []
  · rw [hmore, List.append_nil]
  · obtain ⟨bytes, hbytes⟩ := Option.isSome_iff_exists.1 (h.mem_filesUnder.1 hl).2
    obtain ⟨bytes', hbytes'⟩ := Option.isSome_iff_exists.1 (h.mem_filesUnder.1 hl').2
    rw [← List.append_assoc, fileAt?_eq_some_iff] at hbytes'
    have hdir := h.entry?_of_append hmore hbytes'
    rw [fileAt?_eq_some_iff.1 hbytes] at hdir
    cases hdir

/-- No file is listed twice. -/
theorem nodup_filesUnder (h : t.WellFormed) (place : Location) : (t.filesUnder place).Nodup := by
  rw [(filesUnder_perm t place).nodup_iff]
  have hentries : t.entries.Pairwise fun a b => a.1 ≠ b.1 := List.pairwise_map.1 h.nodup
  refine List.Pairwise.filterMap _ (fun a b hab names hname names' hname' heq => ?_) hentries
  obtain ⟨-, bytes, rfl⟩ := nameBelow?_eq_some_iff.1 hname
  obtain ⟨-, bytes', rfl⟩ := nameBelow?_eq_some_iff.1 hname'
  exact hab (by rw [heq])

/-- The names of a file below a place are names. -/
theorem isName_of_mem_filesUnder (h : t.WellFormed) {names : Location}
    (hmem : names ∈ t.filesUnder place) : ∀ name ∈ names, Path.IsName name := by
  obtain ⟨hne, hfile⟩ := h.mem_filesUnder.1 hmem
  obtain ⟨bytes, hfile⟩ := Option.isSome_iff_exists.1 hfile
  have hadmits := h.admits (fileAt?_eq_some_iff.1 hfile) (by simp [hne])
  exact fun name hname => hadmits.1 name (List.mem_append_right _ hname)

end WellFormed
end Tree
end Localize
