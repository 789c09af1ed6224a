import Localize.Proofs.Build.Alike

/-!
# The names of assets and the places they stand for

An asset is named by its place below the input directory.  Read as a path below a directory, the
name leads to the same place below that directory (`resolve_assetPath`), since the places of a tree
are made of names.  So the assets of a build are files of its tree (`Settings.assetFiles`), and none
of them is the log file if that lies elsewhere (`logApart_of_assetNames`).
-/

set_option autoImplicit false

namespace Localize
namespace Settings

variable {s : Settings} {t : Tree} {cwd : Location} {names : Location}

/-- **The name of an asset leads to its place**, from any directory. -/
theorem resolve_assetPath (directory : Path) (hne : names ≠ [])
    (h : ∀ name ∈ names, Path.IsName name) (cwd : Location) :
    (assetPath directory (assetName names)).resolve cwd = directory.resolve cwd ++ names := by
  rw [assetPath, assetName, Path.ofText_join_names hne h]
  exact Path.resolve_join_ofNames directory (fun hup => (h _ hup).2 rfl) cwd

/-- The directories on the way to an asset are those on the way to the directory it lies in, and
those that its name leads through below. -/
theorem mem_waypoints_assetPath {directory : Path} (hne : names ≠ [])
    (h : ∀ name ∈ names, Path.IsName name) {q : Location}
    (hq : q ∈ (assetPath directory (assetName names)).parent.waypoints cwd) :
    q ∈ directory.waypoints cwd ∨
      ∃ above, above <+: names.dropLast ∧ q = directory.resolve cwd ++ above := by
  have hparent : (assetPath directory (assetName names)).parent
      = directory.join (Path.ofNames names.dropLast) := by
    rw [assetPath, assetName, Path.ofText_join_names hne h, Path.join_ofNames, Path.join_ofNames,
      Path.parent, List.dropLast_append_of_ne_nil hne]
  rw [hparent] at hq
  exact Path.mem_waypoints_join (fun hup => (h _ (List.dropLast_subset _ hup)).2 rfl) hq

/-- The assets of a tree, by their places below the input directory. -/
def assetFiles (s : Settings) (t : Tree) : List Location :=
  (t.filesUnder (s.inputDir.resolve t.cwd)).filter fun names =>
    !s.isOutput t.cwd (s.inputDir.resolve t.cwd ++ names)

/-- The names of assets are those of the files that are assets. -/
theorem assetNames_of_isDirectory (hs : s.inputDir.Normal)
    (hout : s.outputDir.checkAskable = .ok ()) (hdir : t.isDirectory s.inputDir = .ok true) :
    s.assetNames t = .ok ((s.assetFiles t).map assetName) := by
  obtain ⟨place, hplace, -⟩ := Tree.isDirectory_eq_true_iff.1 hdir
  rw [assetNames, hout, hdir, hplace, Tree.eq_resolve_of_locate hs hplace]
  rfl

/-- **If assets can be named**, either the input directory is there and they are the files that are
assets, or it is not and there are none. -/
theorem of_assetNames_eq_ok (hs : s.inputDir.Normal) {assets : List Text}
    (h : s.assetNames t = .ok assets) :
    t.isDirectory s.inputDir = .ok true ∧ assets = (s.assetFiles t).map assetName ∨
      t.isDirectory s.inputDir = .ok false ∧ assets = [] := by
  cases hout : s.outputDir.checkAskable with
  | error e =>
    rw [assetNames, hout] at h
    cases h
  | ok _ =>
    cases hdir : t.isDirectory s.inputDir with
    | error e =>
      rw [assetNames, hout, hdir] at h
      cases h
    | ok isDir =>
      cases isDir with
      | false =>
        rw [assetNames, hout, hdir] at h
        cases h
        exact Or.inr ⟨rfl, rfl⟩
      | true =>
        rw [assetNames_of_isDirectory hs hout hdir] at h
        cases h
        exact Or.inl ⟨rfl, rfl⟩

/-- The names of assets in a tree whose files are listed in order. -/
theorem assetNames_of_pairwise (hs : s.inputDir.Normal) (hout : s.outputDir.checkAskable = .ok ())
    (hdir : t.isDirectory s.inputDir = .ok true)
    (hsorted : (t.entries.filterMap (Tree.nameBelow? (s.inputDir.resolve t.cwd))).Pairwise
      fun a b => (Text.compareList a b).isLE) :
    s.assetNames t = .ok (((t.entries.filterMap (Tree.nameBelow? (s.inputDir.resolve t.cwd))).filter
      fun names => !s.isOutput t.cwd (s.inputDir.resolve t.cwd ++ names)).map assetName) := by
  rw [assetNames_of_isDirectory hs hout hdir, assetFiles, Tree.filesUnder_of_pairwise hsorted]

/-- An asset is a file below the input directory. -/
theorem exists_of_mem_assetNames (hs : s.inputDir.Normal) {assets : List Text}
    (h : s.assetNames t = .ok assets) {name : Text} (hname : name ∈ assets) :
    ∃ names, name = assetName names ∧ names ∈ t.filesUnder (s.inputDir.resolve t.cwd) := by
  rcases of_assetNames_eq_ok hs h with ⟨-, rfl⟩ | ⟨-, rfl⟩
  · obtain ⟨names, hmem, rfl⟩ := List.mem_map.1 hname
    exact ⟨names, rfl, (List.mem_filter.1 hmem).1⟩
  · cases hname

/-- The place of an asset lies below the input directory. -/
theorem resolve_assetPath_of_mem (hwell : t.WellFormed) {place : Location} (directory : Path)
    (h : names ∈ t.filesUnder place) (cwd : Location) :
    (assetPath directory (assetName names)).resolve cwd = directory.resolve cwd ++ names :=
  resolve_assetPath directory (hwell.mem_filesUnder.1 h).1 (hwell.isName_of_mem_filesUnder h) cwd

end Settings

/-- **A log file that does not lie below the input directory is no asset.** -/
theorem Run.logApart_of_assetNames {r : Run} {s : Settings} (hs : s.inputDir.Normal)
    (hwell : r.tree.WellFormed)
    (hlog : ∀ place, r.sinks.file = some place → ¬ s.inputDir.resolve r.tree.cwd <+: place)
    {assets : List Text} (h : s.assetNames r.tree = .ok assets) : r.LogApart s assets := by
  intro name hname hfile
  obtain ⟨names, rfl, hmem⟩ := Settings.exists_of_mem_assetNames hs h hname
  refine hlog _ hfile ?_
  rw [Settings.resolve_assetPath_of_mem hwell _ hmem]
  exact List.prefix_append _ _

end Localize
