import Localize.Proofs.Build.Placing
import Localize.Proofs.Text.Order

/-!
# Which files are assets

The assets of a build are to be the files below its input directory.  If the output directory lies
inside, its files were written by a build and are left out.  So much is said of them
(`Settings.IsInput`), and it is what is found, each file once and in the order of their names, if
the two directories lie apart, are the same, or the output lies inside the input.

There is one more case.  What is tested is whether a file lies in the output directory, and not
whether that directory lies inside the input.  If it is the other way round, and the input lies
inside the output, every file below the input lies in the output as well, and none is found: a build
from `o/i` to `o` does nothing.

All this is told of a search that comes through.  A system breaks one off at a path that it does not
take, and where directories lie too deep inside one another; a tree without such places is
`Settings.Searchable`, and of any other it is left open here what a system does.  Where a search
comes through, what is found can be read.

* `mem_assetFiles_iff_isInput`, `assetFiles_eq_nil_of_isBelow` — what is found in either case.
* `assetNames_unless_input_isBelow_output` — the names, their order, and when they can be told.
* `not_forall_inputs_found` — a file that is not found.
-/

set_option autoImplicit false

namespace Localize

/-- A place lies strictly below another one. -/
def Location.IsBelow (place above : Location) : Prop := above <+: place ∧ above ≠ place

instance (place above : Location) : Decidable (place.IsBelow above) :=
  inferInstanceAs (Decidable (_ ∧ _))

namespace Settings

variable {s : Settings} {t : Tree} {l : Location}

/-- The names lead from the input directory down to a file that is to be an asset.  Files in the
output directory are not, if that lies inside the input directory. -/
def IsInput (s : Settings) (t : Tree) (l : Location) : Prop :=
  ∃ place, t.locate s.inputDir = .ok place ∧ l ≠ [] ∧ (t.fileAt? (place ++ l)).isSome ∧
    ¬ ((s.outputDir.resolve t.cwd).IsBelow place ∧ s.outputDir.resolve t.cwd <+: place ++ l)

/-- How many directories a search goes down, one inside the other, in any case. -/
def searchDepth : Nat := 900

/-- A search for assets comes through: the system takes the path of everything below the input
directory, and nothing there lies too deep. -/
structure Searchable (s : Settings) (t : Tree) : Prop where
  taken : ∀ place ∈ t.entries.map Prod.fst, s.inputDir.resolve t.cwd <+: place →
    (s.inputDir.join (.ofNames (place.drop (s.inputDir.resolve t.cwd).length))).Taken
  shallow : ∀ place ∈ t.entries.map Prod.fst, s.inputDir.resolve t.cwd <+: place →
    place.length ≤ (s.inputDir.resolve t.cwd).length + searchDepth

instance (s : Settings) (t : Tree) : Decidable (s.Searchable t) :=
  decidable_of_iff
    ((∀ place ∈ t.entries.map Prod.fst, s.inputDir.resolve t.cwd <+: place →
        (s.inputDir.join (.ofNames (place.drop (s.inputDir.resolve t.cwd).length))).Taken) ∧
      ∀ place ∈ t.entries.map Prod.fst, s.inputDir.resolve t.cwd <+: place →
        place.length ≤ (s.inputDir.resolve t.cwd).length + searchDepth)
    ⟨fun h => ⟨h.1, h.2⟩, fun h => ⟨h.taken, h.shallow⟩⟩

/-! ## Files -/

/-- If the input directory does not lie below the output directory, a file in the output directory
is below the input directory only if the output directory is. -/
theorem isBelow_of_prefix_append {input output : Location} (hapart : ¬ input.IsBelow output)
    (hne : output ≠ input) (h : output <+: input ++ l) : output.IsBelow input := by
  rcases List.prefix_or_prefix_of_prefix h (List.prefix_append input l) with habove | hbelow
  · exact absurd ⟨habove, hne⟩ hapart
  · exact ⟨hbelow, hne.symm⟩

/-- There are files below the input directory only if it is there. -/
theorem isDirectory_of_isInput (hwell : t.WellFormed) (h : s.IsInput t l) :
    t.isDirectory s.inputDir = .ok true := by
  obtain ⟨place, hplace, hne, hfile, -⟩ := h
  obtain ⟨bytes, hbytes⟩ := Option.isSome_iff_exists.1 hfile
  exact Tree.isDirectory_eq_true_iff.2
    ⟨place, hplace, hwell.entry?_of_append hne (Tree.fileAt?_eq_some_iff.1 hbytes)⟩

/-- **The files that are to be assets are found**, unless the input directory lies below the output
directory. -/
theorem mem_assetFiles_iff_isInput (hs : s.inputDir.Normal) (hwell : t.WellFormed)
    (hdir : t.isDirectory s.inputDir = .ok true)
    (hapart : ¬ (s.inputDir.resolve t.cwd).IsBelow (s.outputDir.resolve t.cwd)) :
    l ∈ s.assetFiles t ↔ s.IsInput t l := by
  obtain ⟨place, hplace, -⟩ := Tree.isDirectory_eq_true_iff.1 hdir
  obtain rfl := Tree.eq_resolve_of_locate hs hplace
  rw [mem_assetFiles, hwell.mem_filesUnder, inPlace, decide_eq_true_iff]
  constructor
  · rintro ⟨⟨hne, hfile⟩, hkept⟩
    refine ⟨_, hplace, hne, hfile, fun ⟨hbelow, hin⟩ => ?_⟩
    exact hkept.elim (fun hsame => hbelow.2 hsame.symm) fun hnot => hnot hin
  · rintro ⟨place, hplace', hne, hfile, hkept⟩
    obtain rfl := Tree.eq_resolve_of_locate hs hplace'
    refine ⟨⟨hne, hfile⟩, Decidable.or_iff_not_imp_left.2 fun hdiffer hin => ?_⟩
    exact hkept ⟨isBelow_of_prefix_append hapart hdiffer hin, hin⟩

/-- **No file is found if the input directory lies below the output directory**: all of them are in
the output directory, too. -/
theorem assetFiles_eq_nil_of_isBelow
    (h : (s.inputDir.resolve t.cwd).IsBelow (s.outputDir.resolve t.cwd)) : s.assetFiles t = [] := by
  refine List.eq_nil_iff_forall_not_mem.2 fun l hl => ?_
  rcases (mem_assetFiles.1 hl).2 with hsame | hout
  · exact h.2 (of_decide_eq_true hsame)
  · exact hout (h.1.trans (List.prefix_append _ l))

/-- **A file that a search finds can be read** by its path. -/
theorem exists_readFile_of_mem_assetFiles (hs : s.inputDir.Normal) (hwell : t.WellFormed)
    (hdir : t.isDirectory s.inputDir = .ok true) (hsearch : s.Searchable t)
    (hl : l ∈ s.assetFiles t) :
    ∃ bytes, t.readFile (assetPath s.inputDir (assetName l)) = .ok bytes := by
  obtain ⟨place, hplace, -⟩ := Tree.isDirectory_eq_true_iff.1 hdir
  obtain rfl := Tree.eq_resolve_of_locate hs hplace
  have hmem := (mem_assetFiles.1 hl).1
  obtain ⟨hne, hsome⟩ := hwell.mem_filesUnder.1 hmem
  obtain ⟨bytes, hbytes⟩ := Option.isSome_iff_exists.1 hsome
  have hentry : s.inputDir.resolve t.cwd ++ l ∈ t.entries.map Prod.fst :=
    List.mem_map.2 ⟨_, hwell.mem_entries_iff.2 hbytes, rfl⟩
  have htaken := hsearch.taken _ hentry (List.prefix_append _ l)
  rw [List.drop_left] at htaken
  refine ⟨bytes, Tree.readFile_eq_ok_iff.2 ⟨_, ?_, hbytes⟩⟩
  rw [assetPath, assetName, Path.ofText_join_names hne (hwell.isName_of_mem_filesUnder hmem)]
  exact hwell.locate_join hs hplace hne htaken (Tree.fileAt?_eq_some_iff.1 hbytes)

/-! ## Names -/

/-- The names of files are in the order of the files. -/
theorem pairwise_map_assetName (hwell : t.WellFormed) :
    ((s.assetFiles t).map assetName).Pairwise fun a b =>
      Text.compareList (Path.ofText a).parts (Path.ofText b).parts = .lt := by
  have hsorted : (s.assetFiles t).Pairwise fun l l' => Text.compareList l l' = .lt := by
    refine List.Pairwise.filter _ (Text.pairwise_lt_of_nodup (hwell.nodup_filesUnder _) ?_)
    rw [Tree.filesUnder_eq]
    exact Text.pairwise_mergeSort_compareList _
  have hparts : ∀ l ∈ s.assetFiles t, (Path.ofText (assetName l)).parts = l := fun l hl =>
    have hfile := (mem_assetFiles.1 hl).1
    parts_assetName (hwell.mem_filesUnder.1 hfile).1 (hwell.isName_of_mem_filesUnder hfile)
  refine List.pairwise_map.2 (hsorted.imp_of_mem fun {l l'} hl hl' hlt => ?_)
  rwa [hparts l hl, hparts l' hl']

/-- Names can be told exactly if the system can be asked about both directories. -/
theorem exists_assetNames_iff (hs : s.inputDir.Normal) :
    (∃ names, s.assetNames t = .ok names) ↔
      s.outputDir.checkAskable = .ok () ∧ ∃ there, t.isDirectory s.inputDir = .ok there := by
  constructor
  · rintro ⟨names, h⟩
    have hdir : ∃ there, t.isDirectory s.inputDir = .ok there :=
      (of_assetNames_eq_ok hs h).elim (fun h => ⟨_, h.1⟩) fun h => ⟨_, h.1⟩
    refine ⟨?_, hdir⟩
    cases hout : s.outputDir.checkAskable with
    | ok _ => rfl
    | error e =>
      rw [assetNames, hout] at h
      cases h
  · rintro ⟨hout, there, hdir⟩
    cases there with
    | true => exact ⟨_, assetNames_of_isDirectory hs hout hdir⟩
    | false =>
      rw [assetNames, hout, hdir]
      exact ⟨_, rfl⟩

/-- **Which files a build finds.**  If the system can be asked about both directories, the names of
assets can be told.  They strictly increase, part by part, so no file is found twice.  They are the
names of the files that are to be assets, unless the input directory lies below the output directory;
then there are none.  If the search comes through, as is taken for granted, all of them can be
read. -/
theorem assetNames_unless_input_isBelow_output (hs : s.inputDir.Normal) (hwell : t.WellFormed) :
    ((∃ names, s.assetNames t = .ok names) ↔
        s.outputDir.checkAskable = .ok () ∧ ∃ there, t.isDirectory s.inputDir = .ok there) ∧
      ∀ names, s.assetNames t = .ok names →
        (names.Pairwise fun a b =>
          Text.compareList (Path.ofText a).parts (Path.ofText b).parts = .lt) ∧
        (¬ (s.inputDir.resolve t.cwd).IsBelow (s.outputDir.resolve t.cwd) →
          ∀ name, name ∈ names ↔ ∃ l, s.IsInput t l ∧ name = assetName l) ∧
        ((s.inputDir.resolve t.cwd).IsBelow (s.outputDir.resolve t.cwd) → names = []) ∧
        (s.Searchable t → ∀ name ∈ names, ∃ bytes,
          t.readFile (assetPath s.inputDir name) = .ok bytes) := by
  refine ⟨exists_assetNames_iff hs, fun names h => ?_⟩
  rcases of_assetNames_eq_ok hs h with ⟨hdir, rfl⟩ | ⟨hdir, rfl⟩
  · refine ⟨pairwise_map_assetName hwell, fun hapart name => ?_, fun hbelow => ?_,
      fun hsearch name hname => ?_⟩
    · rw [List.mem_map]
      constructor
      · rintro ⟨l, hl, rfl⟩
        exact ⟨l, (mem_assetFiles_iff_isInput hs hwell hdir hapart).1 hl, rfl⟩
      · rintro ⟨l, hl, rfl⟩
        exact ⟨l, (mem_assetFiles_iff_isInput hs hwell hdir hapart).2 hl, rfl⟩
    · rw [assetFiles_eq_nil_of_isBelow hbelow]
      rfl
    · obtain ⟨l, hl, rfl⟩ := List.mem_map.1 hname
      exact exists_readFile_of_mem_assetFiles hs hwell hdir hsearch hl
  · refine ⟨List.Pairwise.nil, fun _ name => ⟨nofun, ?_⟩, fun _ => rfl, fun _ => nofun⟩
    rintro ⟨l, hl, -⟩
    rw [isDirectory_of_isInput hwell hl] at hdir
    cases hdir

/-! ### Two directories -/

/-- Settings with two directories. -/
def discovering (input output : List Text) : Settings where
  build := { inputDir := ⟨.relative, input⟩, outputDir := some ⟨.relative, output⟩ }

/-- A tree with a directory in another one, and a file in each of them. -/
def discoveryTree : Tree where
  entries := [([['o']], .directory), ([['o'], ['i']], .directory), ([['o'], ['i'], ['x']], .file []),
    ([['o'], ['y']], .file [])]
  cwd := []

/-- With the output inside the input, the file outside the output is found, and no other. -/
theorem assetNames_unless_input_isBelow_output_inside :
    (discovering [['o']] [['o'], ['i']]).assetNames discoveryTree = .ok [['y']] ∧
      (∃ l, (discovering [['o']] [['o'], ['i']]).IsInput discoveryTree l ∧
        assetName l = Text.ofChars ['y']) ∧
      (discovering [['o']] [['o'], ['i']]).Searchable discoveryTree ∧
      ∃ bytes, discoveryTree.readFile (assetPath ⟨.relative, [['o']]⟩ ['y']) = .ok bytes := by
  have hs : (discovering [['o']] [['o'], ['i']]).inputDir.Normal := by decide
  have hnames : (discovering [['o']] [['o'], ['i']]).assetNames discoveryTree = .ok [['y']] := by
    rw [assetNames_of_pairwise hs (by decide) (by decide +kernel) (by decide +kernel)]
    decide +kernel
  obtain ⟨-, hfound⟩ := assetNames_unless_input_isBelow_output (t := discoveryTree) hs
    (by decide +kernel)
  obtain ⟨-, hinputs, -, hread⟩ := hfound _ hnames
  obtain ⟨l, hl, hname⟩ := (hinputs (by decide) _).1 List.mem_cons_self
  have hsearch : (discovering [['o']] [['o'], ['i']]).Searchable discoveryTree := by decide +kernel
  exact ⟨hnames, ⟨l, hl, hname.symm⟩, hsearch, hread hsearch _ List.mem_cons_self⟩

/-- **Not all files that are to be assets are found.**  With the input inside the output, none is. -/
theorem not_forall_inputs_found :
    ¬ ∀ (s : Settings) (t : Tree) (names : List Text), s.Normal → t.WellFormed →
      s.assetNames t = .ok names → ∀ name, name ∈ names ↔ ∃ l, s.IsInput t l ∧ name = assetName l := by
  intro h
  have hs : (discovering [['o'], ['i']] [['o']]).Normal := ⟨by decide, by decide, nofun⟩
  have hnames : (discovering [['o'], ['i']] [['o']]).assetNames discoveryTree = .ok [] := by
    rw [assetNames_of_isDirectory hs.input (by decide) (by decide +kernel),
      assetFiles_eq_nil_of_isBelow (by decide)]
    rfl
  have hinput : (discovering [['o'], ['i']] [['o']]).IsInput discoveryTree [['x']] :=
    ⟨[['o'], ['i']], by decide +kernel, by decide, by decide, by decide⟩
  cases (h _ _ _ hs (by decide +kernel) hnames _).2 ⟨_, hinput, rfl⟩

end Settings
end Localize
