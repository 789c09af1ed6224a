import Localize.Proofs.Build.Outcomes
import Localize.Proofs.Build.Workers

/-!
# Where the assets of a build are read and where they land

The assets that come of the work on a build are a `Batch`: each bears the name of a file below the
input directory that is no output, and no two bear the same name.  That is all it takes to keep
apart what is read and what is written.

* An asset lands at its place below the output directory or, if it is copied, below that place
  (`Batch.target_prefix`, `Batch.output_prefix`).
* No asset is read where one lands (`Batch.source_not_output`), unless the build is in place.
* No asset lands where another is to be (`Batch.not_prefix_target`): of two files, none lies below
  the other.
-/

set_option autoImplicit false

namespace Localize
namespace Settings

variable {s : Settings} {t : Tree} {cwd q l l' : Location} {asset : Processed}

/-- A file below the input directory is an asset unless it is output. -/
theorem mem_assetFiles :
    l ∈ s.assetFiles t ↔ l ∈ t.filesUnder (s.inputDir.resolve t.cwd) ∧
      (s.inPlace t.cwd ∨ ¬ s.outputDir.resolve t.cwd <+: s.inputDir.resolve t.cwd ++ l) := by
  rw [assetFiles, List.mem_filter, isOutput, Location.isUnder]
  simp [← List.isPrefixOf_iff_prefix]

/-- The name of a file, read as a path, is its place. -/
theorem parts_assetName (hl : l ≠ []) (h : ∀ name ∈ l, Path.IsName name) :
    (Path.ofText (assetName l)).parts = l := by
  rw [assetName, Path.ofText_join_names hl h]
  rfl

/-- Files with the same name are the same. -/
theorem assetName_injective (hl : l ≠ []) (h : ∀ name ∈ l, Path.IsName name) (hl' : l' ≠ [])
    (h' : ∀ name ∈ l', Path.IsName name) (heq : assetName l = assetName l') : l = l' := by
  rw [← parts_assetName hl h, heq, parts_assetName hl' h']

/-- The path of an asset ends in the name of its file. -/
theorem name_assetPath (directory : Path) (hl : l ≠ []) (h : ∀ name ∈ l, Path.IsName name) :
    (assetPath directory (assetName l)).name = l.getLast hl := by
  rw [assetPath, assetName, Path.ofText_join_names hl h, Path.join_ofNames, Path.name]
  simp [List.getLast?_append, List.getLast?_eq_some_getLast hl]

/-- **An asset lands at the place of its name below the output directory**, or in a directory that
stands there. -/
theorem prefix_of_mem_landings (hname : asset.result.name = assetName l) (hl : l ≠ [])
    (h : ∀ name ∈ l, Path.IsName name) (hq : q ∈ s.landings cwd asset) :
    s.outputDir.resolve cwd ++ l <+: q := by
  have htarget : (s.target asset).resolve cwd = s.outputDir.resolve cwd ++ l := by
    rw [target, hname, resolve_assetPath _ hl h]
  have hlast : Path.up ∉ [(s.source asset).name] := by
    rw [source, hname, name_assetPath _ hl h, List.mem_singleton]
    exact fun hup => (h _ (List.getLast_mem hl)).2 hup.symm
  have hinto : ((s.target asset).join (Path.ofNames [(s.source asset).name])).resolve cwd
      = s.outputDir.resolve cwd ++ l ++ [(s.source asset).name] := by
    rw [Path.resolve_join_ofNames _ hlast, htarget]
  rw [landings, htarget, hinto] at hq
  split at hq
  · rcases List.mem_singleton.1 hq with rfl
    exact List.prefix_rfl
  · split at hq
    · cases hq
    · rcases List.mem_cons.1 hq with rfl | hq
      · exact List.prefix_rfl
      · rw [List.mem_singleton.1 hq]
        exact List.prefix_append _ _

end Settings

namespace Build

variable {s : Settings} {p : Policy} {names : List Text} {r r₁ r₂ : Run} {q : Location}
variable {assets : List Processed} {a b : Processed}

/-! ## Names of what was worked on -/

/-- **What was worked on bears one of the names**, however the work was shared. -/
theorem mem_of_processAll {schedule : Schedule}
    (h : processAll s p schedule names r = (.ok assets, r₂)) (ha : a ∈ assets) :
    a.result.name ∈ names := by
  rw [← (of_processAll_eq_ok h).1]
  exact List.mem_map_of_mem ha

/-! ## Batches -/

/-- Assets that a build is to write: files below the input directory that are no output, each of
them once. -/
structure Batch (s : Settings) (r : Run) (assets : List Processed) : Prop where
  sound : r.Sound s
  nodup : (assets.map (·.result.name)).Nodup
  files : ∀ a ∈ assets, ∃ l ∈ s.assetFiles r.tree, a.result.name = Settings.assetName l

/-- The names of assets are those of the files that are assets, each of them once. -/
theorem nodup_of_assetNames (hs : s.inputDir.Normal) (hwell : r.tree.WellFormed)
    (h : s.assetNames r.tree = .ok names) :
    names.Nodup ∧ ∀ name ∈ names, ∃ l ∈ s.assetFiles r.tree, name = Settings.assetName l := by
  rcases Settings.of_assetNames_eq_ok hs h with ⟨-, rfl⟩ | ⟨-, rfl⟩
  · constructor
    · have hfiles : (s.assetFiles r.tree).Nodup := (hwell.nodup_filesUnder _).filter _
      refine List.pairwise_map.2 (hfiles.imp_of_mem fun {l l'} hl hl' hne heq => hne ?_)
      have hl := (Settings.mem_assetFiles.1 hl).1
      have hl' := (Settings.mem_assetFiles.1 hl').1
      exact Settings.assetName_injective (hwell.mem_filesUnder.1 hl).1
        (hwell.isName_of_mem_filesUnder hl) (hwell.mem_filesUnder.1 hl').1
        (hwell.isName_of_mem_filesUnder hl') heq
    · intro name hname
      obtain ⟨l, hl, rfl⟩ := List.mem_map.1 hname
      exact ⟨l, hl, rfl⟩
  · exact ⟨List.nodup_nil, nofun⟩

/-- **The assets of a build are a batch**, and what comes of each of them is what comes of the file
in the tree as it was when their names were found. -/
theorem Prepared.batch (h : Prepared s r p names r₁) (hs : s.Normal) (hr : r.Sound s)
    {schedule : Schedule}
    (hprocess : processAll s p schedule names (begun s names r₁) = (.ok assets, r₂)) :
    names.map (outcomeIn s p r₁) = assets.map .ok ∧ r₁.Alike r₂ ∧ Batch s r₁ assets := by
  have hr₁ : r₁.Sound s := hr.of_change (h.change hs)
  obtain ⟨u, halike, ⟨done, hdone, hout⟩ | ⟨e, -, hout⟩⟩ := h.processAll_eq hs hr schedule
  · rw [hprocess] at hout
    cases hout
    obtain ⟨hnodup, hfiles⟩ := nodup_of_assetNames hs.input hr₁.wellFormed h.names
    have hnames := map_name_of_map_eq hdone
    refine ⟨hdone, halike, hr₁, hnames ▸ hnodup, fun a ha => hfiles _ ?_⟩
    rw [← hnames]
    exact List.mem_map.2 ⟨a, ha, rfl⟩
  · rw [hprocess] at hout
    cases hout

/-- The writing of assets changes the log and the files where assets land. -/
theorem change_of_writeAll (hs : s.Normal) {out : Except BuildError Unit}
    (h : writeAll s assets r = (out, r₂)) :
    r.Change (fun _ => True)
      (fun q => r.sinks.file = some q ∨ ∃ a ∈ assets, q ∈ s.landings r.tree.cwd a) r₂ := by
  have hchange : r.Change (fun _ => True)
      (fun q => r.sinks.file = some q ∨ ∃ a ∈ assets, q ∈ s.landings r.tree.cwd a)
      (writeAll s assets r).2 :=
    confined_writeAll hs (fun _ => Or.inl) assets (fun _ _ _ _ => trivial)
      (fun a ha _ hq => Or.inr ⟨a, ha, hq⟩) r rfl rfl
  rwa [h] at hchange

namespace Batch

/-- A batch stays one when something is logged. -/
theorem of_alike (h : Batch s r assets) (halike : r.Alike r₂) (hr₂ : r₂.Sound s) :
    Batch s r₂ assets := by
  refine ⟨hr₂, h.nodup, fun a ha => ?_⟩
  obtain ⟨l, hl, hname⟩ := h.files a ha
  refine ⟨l, ?_, hname⟩
  rw [Settings.mem_assetFiles, h.sound.wellFormed.mem_filesUnder] at hl
  rw [Settings.mem_assetFiles, hr₂.wellFormed.mem_filesUnder, halike.tree.cwd,
    halike.tree.isSome_fileAt?]
  exact hl

/-- The place of an asset is that of a file below the input directory. -/
theorem exists_file (h : Batch s r assets) (ha : a ∈ assets) :
    ∃ l ∈ s.assetFiles r.tree, l ∈ r.tree.filesUnder (s.inputDir.resolve r.tree.cwd) ∧
      a.result.name = Settings.assetName l ∧
      (s.source a).resolve r.tree.cwd = s.inputDir.resolve r.tree.cwd ++ l ∧
      (s.target a).resolve r.tree.cwd = s.outputDir.resolve r.tree.cwd ++ l := by
  obtain ⟨l, hl, hname⟩ := h.files a ha
  have hbelow := (Settings.mem_assetFiles.1 hl).1
  refine ⟨l, hl, hbelow, hname, ?_, ?_⟩
  · rw [Settings.source, hname, Settings.resolve_assetPath_of_mem h.sound.wellFormed _ hbelow]
  · rw [Settings.target, hname, Settings.resolve_assetPath_of_mem h.sound.wellFormed _ hbelow]

/-- An asset is read from a file, which is not the log. -/
theorem source_isSome (h : Batch s r assets) (ha : a ∈ assets) :
    (r.tree.fileAt? ((s.source a).resolve r.tree.cwd)).isSome ∧
      r.sinks.file ≠ some ((s.source a).resolve r.tree.cwd) := by
  obtain ⟨l, -, hl, -, hsource, -⟩ := h.exists_file ha
  rw [hsource]
  exact ⟨(h.sound.wellFormed.mem_filesUnder.1 hl).2,
    fun hlog => h.sound.logApart _ hlog (List.prefix_append _ l)⟩

/-- **An asset is not read below the output directory.** -/
theorem source_not_output (h : Batch s r assets) (hplace : ¬ s.inPlace r.tree.cwd)
    (ha : a ∈ assets) :
    ¬ s.outputDir.resolve r.tree.cwd <+: (s.source a).resolve r.tree.cwd := by
  obtain ⟨l, hl, -, -, hsource, -⟩ := h.exists_file ha
  rw [hsource]
  exact (Settings.mem_assetFiles.1 hl).2.resolve_left hplace

/-- An asset lands where it is to be, or below. -/
theorem target_prefix (h : Batch s r assets) (ha : a ∈ assets)
    (hq : q ∈ s.landings r.tree.cwd a) : (s.target a).resolve r.tree.cwd <+: q := by
  obtain ⟨l, -, hl, hname, -, htarget⟩ := h.exists_file ha
  rw [htarget]
  exact Settings.prefix_of_mem_landings hname (h.sound.wellFormed.mem_filesUnder.1 hl).1
    (h.sound.wellFormed.isName_of_mem_filesUnder hl) hq

/-- **An asset lands below the output directory.** -/
theorem output_prefix (h : Batch s r assets) (ha : a ∈ assets)
    (hq : q ∈ s.landings r.tree.cwd a) : s.outputDir.resolve r.tree.cwd <+: q := by
  obtain ⟨l, -, -, -, -, htarget⟩ := h.exists_file ha
  exact ((htarget ▸ List.prefix_append _ l : _ <+: (s.target a).resolve r.tree.cwd)).trans
    (h.target_prefix ha hq)

/-- **No asset is to be where another is, or below**: else one file would lie below the other. -/
theorem not_prefix_target (h : Batch s r assets) (ha : a ∈ assets) (hb : b ∈ assets)
    (hne : a.result.name ≠ b.result.name) :
    ¬ (s.target b).resolve r.tree.cwd <+: (s.target a).resolve r.tree.cwd := by
  obtain ⟨l, -, hl, hname, -, htarget⟩ := h.exists_file ha
  obtain ⟨l', -, hl', hname', -, htarget'⟩ := h.exists_file hb
  rw [htarget, htarget', List.prefix_append_right_inj]
  intro hbelow
  rw [hname, hname', h.sound.wellFormed.eq_of_prefix hl' hl hbelow] at hne
  exact hne rfl

/-- **Where an asset is to be nothing is written** by the writing of others. -/
theorem target_kept (h : Batch s r assets) (hs : s.Normal) (ha : a ∈ assets)
    {others : List Processed} (hsub : others ⊆ assets)
    (hne : ∀ b ∈ others, a.result.name ≠ b.result.name) (hcwd : r₁.tree.cwd = r.tree.cwd)
    (hlog : r₁.sinks.file ≠ some ((s.target a).resolve r.tree.cwd))
    {out : Except BuildError Unit} (hwrite : writeAll s others r₁ = (out, r₂)) :
    r₂.tree.fileAt? ((s.target a).resolve r.tree.cwd)
      = r₁.tree.fileAt? ((s.target a).resolve r.tree.cwd) := by
  refine (change_of_writeAll hs hwrite).tree.files _ ?_
  rintro (hfile | ⟨b, hb, hlands⟩)
  · exact hlog hfile
  · exact h.not_prefix_target ha (hsub hb) (hne b hb) (h.target_prefix (hsub hb) (hcwd ▸ hlands))

end Batch
end Build
end Localize
