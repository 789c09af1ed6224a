import Localize.Proofs.Build.Workers
import Localize.Proofs.Build.Writing
import Localize.Settings.Load

/-!
# Builds in place and builds beside

The same settings can have the assets written where they are read, or into a directory of their own.
A build that is to write into a new directory outside its input (`Beside`) and one in place work on
the same assets with the same outcomes; then both put the same bytes in their places, and the one
beside leaves its input alone.

There is one thing more to ask.  A path that leads up again may lead through places below the new
directory before it gets there, and the directories on its way are made.  If an asset is to be
written where one of these is, its copy goes into that directory and its new text nowhere.
-/

set_option autoImplicit false

namespace Localize

/-- The settings without an output directory: assets are written where they are read. -/
def Settings.withoutOutput (s : Settings) : Settings :=
  { s with build := { s.build with outputDir := none } }

namespace Build

variable {s : Settings} {o : Path} {r : Run}

/-- A build that writes no table and writes its assets into a new directory outside its input.  No
asset has its place there on the way that leads to the directory. -/
structure Beside (s : Settings) (o : Path) (r : Run) : Prop where
  noLookup : s.catalog.lookupDir = none
  output : s.build.outputDir = some o
  new : r.tree.entry? (o.resolve r.tree.cwd) = none
  outside : ¬ s.inputDir.resolve r.tree.cwd <+: o.resolve r.tree.cwd
  passing : ∀ names ∈ r.tree.filesUnder (s.inputDir.resolve r.tree.cwd),
    o.resolve r.tree.cwd ++ names ∉ o.waypoints r.tree.cwd

namespace Beside

theorem outputDir_eq (h : Beside s o r) : s.outputDir = o := by
  rw [Settings.outputDir, h.output, Option.getD_some]

/-- The output directory is none that the input directory lies in. -/
theorem not_prefix (h : Beside s o r) (hr : r.Sound s)
    (hinput : r.tree.entry? (s.inputDir.resolve r.tree.cwd) = some .directory) :
    ¬ o.resolve r.tree.cwd <+: s.inputDir.resolve r.tree.cwd := by
  rintro ⟨more, hmore⟩
  have hnone := hr.wellFormed.entry?_append_eq_none h.new more
  rw [hmore, hinput] at hnone
  cases hnone

/-- What lies below the output directory does not lie below the input directory. -/
theorem not_prefix_append (h : Beside s o r) (hr : r.Sound s)
    (hinput : r.tree.entry? (s.inputDir.resolve r.tree.cwd) = some .directory) (more : Location) :
    ¬ s.inputDir.resolve r.tree.cwd <+: o.resolve r.tree.cwd ++ more := fun hbelow =>
  (List.prefix_or_prefix_of_prefix hbelow (List.prefix_append _ more)).elim h.outside
    (h.not_prefix hr hinput)

/-- There is nothing below the output directory. -/
theorem entry?_eq_none (h : Beside s o r) (hr : r.Sound s) {q : Location}
    (hq : o.resolve r.tree.cwd <+: q) : r.tree.entry? q = none := by
  obtain ⟨more, rfl⟩ := hq
  exact hr.wellFormed.entry?_append_eq_none h.new more

/-- The log does not lie below the output directory. -/
theorem log_ne (h : Beside s o r) (hr : r.Sound s) {q : Location}
    (hq : o.resolve r.tree.cwd <+: q) : r.sinks.file ≠ some q := by
  intro hlog
  have hfile := hr.logReady q hlog
  rw [Tree.fileAt?, h.entry?_eq_none hr hq] at hfile
  cases hfile

/-- No file below the input directory is output. -/
theorem assetFiles_eq (h : Beside s o r) (hr : r.Sound s)
    (hinput : r.tree.entry? (s.inputDir.resolve r.tree.cwd) = some .directory) {t : Tree}
    (hcwd : t.cwd = r.tree.cwd) :
    s.assetFiles t = t.filesUnder (s.inputDir.resolve r.tree.cwd) := by
  rw [Settings.assetFiles, hcwd]
  refine List.filter_eq_self.2 fun names _ => ?_
  have hunder : Location.isUnder (o.resolve r.tree.cwd) (s.inputDir.resolve r.tree.cwd ++ names)
      = false := by
    rw [Location.isUnder, Bool.eq_false_iff, ne_eq, List.isPrefixOf_iff_prefix]
    exact fun hbelow => (List.prefix_or_prefix_of_prefix hbelow (List.prefix_append _ names)).elim
      (h.not_prefix hr hinput) h.outside
  rw [Settings.isOutput, h.outputDir_eq, hunder, Bool.and_false, Bool.not_false]

end Beside

/-! ## Assets that have been worked on -/

/-- A sound run has its assets worked on: they are the files below the input directory, each once,
and nothing has changed but the log. -/
structure Worked (s : Settings) (r r₂ : Run) (files : List Location) (assets : List Processed) :
    Prop where
  sound : r.Sound s
  input : r.tree.entry? (s.inputDir.resolve r.tree.cwd) = some .directory
  alike : r.Alike r₂
  nodup : files.Nodup
  mem_files : ∀ l, l ∈ files ↔ l ∈ r.tree.filesUnder (s.inputDir.resolve r.tree.cwd)
  names : assets.map (·.result.name) = files.map Settings.assetName

namespace Worked

variable {r₂ r₃ : Run} {files : List Location} {assets : List Processed} {l : Location}

/-- Every asset is one of the files, and every file is an asset. -/
theorem exists_file (h : Worked s r r₂ files assets) {a : Processed} (ha : a ∈ assets) :
    ∃ l ∈ files, a.result.name = Settings.assetName l := by
  have hmem : a.result.name ∈ assets.map (·.result.name) := List.mem_map.2 ⟨a, ha, rfl⟩
  rw [h.names] at hmem
  obtain ⟨l, hl, heq⟩ := List.mem_map.1 hmem
  exact ⟨l, hl, heq.symm⟩

theorem exists_asset (h : Worked s r r₂ files assets) (hl : l ∈ files) :
    ∃ a ∈ assets, a.result.name = Settings.assetName l := by
  have hmem : Settings.assetName l ∈ files.map Settings.assetName := List.mem_map.2 ⟨l, hl, rfl⟩
  rw [← h.names] at hmem
  exact List.mem_map.1 hmem

/-- The name of an asset leads to its place. -/
theorem resolve_assetPath (h : Worked s r r₂ files assets) (hl : l ∈ files) (directory : Path) :
    (Settings.assetPath directory (Settings.assetName l)).resolve r₂.tree.cwd
      = directory.resolve r.tree.cwd ++ l := by
  rw [Settings.resolve_assetPath_of_mem h.sound.wellFormed _ ((h.mem_files l).1 hl),
    h.alike.tree.cwd]

/-- The log does not lie below the input directory. -/
theorem log_ne (h : Worked s r r₂ files assets) {q : Location}
    (hq : s.inputDir.resolve r.tree.cwd <+: q) : r.sinks.file ≠ some q :=
  fun hlog => h.sound.logApart q hlog hq

/-- The end of a build leaves the files as they were written. -/
theorem fileAt?_closing (h : Worked s r r₂ files assets) (hs : s.Normal)
    (hwrite : writeAll s assets r₂ = (.ok (), r₃)) (result : BuildResult) {q : Location}
    (hq : r.sinks.file ≠ some q) :
    (closing result r₃).2.tree.fileAt? q = r₃.tree.fileAt? q := by
  rw [← h.alike.sinks] at hq
  exact Build.fileAt?_closing hs hwrite result hq

/-- **The assets can be written one after the other**, if the places of the files below the output
directory allow it. -/
theorem spread (h : Worked s r r₂ files assets)
    (hapart : ∀ l ∈ files, ∀ l' ∈ files, l ≠ l' →
      s.inputDir.resolve r.tree.cwd ++ l' ≠ s.outputDir.resolve r.tree.cwd ++ l)
    (hlog : ∀ l ∈ files, r.sinks.file ≠ some (s.outputDir.resolve r.tree.cwd ++ l))
    (hclear : ¬ s.inPlace r.tree.cwd → ∀ l ∈ files,
      r₂.tree.entry? (s.outputDir.resolve r.tree.cwd ++ l) ≠ some .directory ∧
      ∀ l' ∈ files, s.outputDir.resolve r.tree.cwd ++ l ∉
        (Settings.assetPath s.outputDir (Settings.assetName l')).parent.waypoints r.tree.cwd) :
    Spread s r₂ assets where
  apart := by
    have hfiles : (files.map Settings.assetName).Pairwise fun m n =>
        (Settings.assetPath s.outputDir n).resolve r₂.tree.cwd
            ≠ (Settings.assetPath s.outputDir m).resolve r₂.tree.cwd ∧
          (Settings.assetPath s.inputDir n).resolve r₂.tree.cwd
            ≠ (Settings.assetPath s.outputDir m).resolve r₂.tree.cwd := by
      refine List.pairwise_map.2 (h.nodup.imp_of_mem fun {l l'} hl hl' hne => ?_)
      rw [h.resolve_assetPath hl, h.resolve_assetPath hl', h.resolve_assetPath hl']
      exact ⟨fun heq => hne (List.append_cancel_left heq).symm, hapart l hl l' hl' hne⟩
    rw [← h.names] at hfiles
    exact List.pairwise_map.1 hfiles
  targets a ha := by
    obtain ⟨l, hl, heq⟩ := h.exists_file ha
    rw [Settings.target, heq, h.resolve_assetPath hl, h.alike.sinks]
    exact hlog l hl
  sources a ha := by
    obtain ⟨l, hl, heq⟩ := h.exists_file ha
    rw [Settings.source, heq, h.resolve_assetPath hl, h.alike.sinks]
    exact h.log_ne (List.prefix_append _ l)
  clear hplace a ha := by
    obtain ⟨l, hl, heq⟩ := h.exists_file ha
    rw [h.alike.tree.cwd] at hplace
    obtain ⟨hdir, hway⟩ := hclear hplace l hl
    rw [Settings.target, heq, h.resolve_assetPath hl, h.alike.tree.cwd]
    refine ⟨hdir, fun b hb => ?_⟩
    obtain ⟨l', hl', heq'⟩ := h.exists_file hb
    rw [Settings.target, heq']
    exact hway l' hl'

/-! ### In place -/

/-- Where assets are written does not matter until they are. -/
theorem withoutOutput (h : Worked s r r₂ files assets) : Worked s.withoutOutput r r₂ files assets :=
  ⟨⟨h.sound.wellFormed, h.sound.logReady, h.sound.logApart⟩, h.input, h.alike, h.nodup, h.mem_files,
    h.names⟩

/-- **In place, assets are written where they are read.** -/
theorem of_writeAll_inPlace (h : Worked s r r₂ files assets) (hs : s.withoutOutput.Normal)
    (hwrite : writeAll s.withoutOutput assets r₂ = (.ok (), r₃)) {a : Processed} (ha : a ∈ assets)
    (hl : l ∈ files) (hname : a.result.name = Settings.assetName l) :
    r₃.tree.fileAt? (s.inputDir.resolve r.tree.cwd ++ l)
      = arriving s.withoutOutput r₂.tree a := by
  have hspread : Spread s.withoutOutput r₂ assets :=
    h.withoutOutput.spread (fun l _ l' _ hne heq => hne (List.append_cancel_left heq).symm)
      (fun l _ => h.log_ne (List.prefix_append _ l))
      fun hplace => absurd (decide_eq_true rfl) hplace
  rw [← (of_writeAll_eq_ok hs hspread hwrite).2 a ha, Settings.target, hname,
    h.withoutOutput.resolve_assetPath hl]
  rfl

/-! ### Beside -/

/-- What stands where nothing stood is no directory. -/
theorem entry?_ne_directory (h : Worked s r r₂ files assets) {q : Location}
    (hq : r.tree.entry? q = none) : r₂.tree.entry? q ≠ some .directory := by
  intro hdir
  rcases h.alike.tree.entry? q with heq | ⟨-, b, b', -, hb'⟩
  · rw [heq, hq] at hdir
    cases hdir
  · rw [hdir] at hb'
    cases hb'

/-- No asset has its place on the way to another below the output directory: it would be a file and
another would lie below it. -/
theorem not_mem_waypoints (h : Worked s r r₂ files assets) (hb : Beside s o r) {l' : Location}
    (hl : l ∈ files) (hl' : l' ∈ files) :
    o.resolve r.tree.cwd ++ l ∉
      (Settings.assetPath o (Settings.assetName l')).parent.waypoints r.tree.cwd := by
  intro hway
  have hwell := h.sound.wellFormed
  rw [h.mem_files] at hl hl'
  have hne' := (hwell.mem_filesUnder.1 hl').1
  rcases Settings.mem_waypoints_assetPath hne' (hwell.isName_of_mem_filesUnder hl') hway
    with hway | ⟨above, habove, heq⟩
  · exact hb.passing l hl hway
  · obtain rfl := List.append_cancel_left heq
    obtain rfl := hwell.eq_of_prefix hl hl' (habove.trans (List.dropLast_prefix l'))
    have hlength := habove.length_le
    have hpos := List.length_pos_iff.2 hne'
    rw [List.length_dropLast] at hlength
    omega

theorem spread_beside (h : Worked s r r₂ files assets) (hb : Beside s o r) :
    Spread s r₂ assets := by
  refine h.spread ?_ ?_ ?_
  · intro l _ l' _ _ heq
    rw [hb.outputDir_eq] at heq
    exact hb.not_prefix_append h.sound h.input l (heq ▸ List.prefix_append _ l')
  · intro l _
    rw [hb.outputDir_eq]
    exact hb.log_ne h.sound (List.prefix_append _ l)
  · intro _ l hl
    rw [hb.outputDir_eq]
    exact ⟨h.entry?_ne_directory (hb.entry?_eq_none h.sound (List.prefix_append _ l)),
      fun l' hl' => h.not_mem_waypoints hb hl hl'⟩

/-- **Beside, assets are written below the output directory**, nothing else is written there, and
the input stays as it is. -/
theorem of_writeAll_beside (h : Worked s r r₂ files assets) (hb : Beside s o r) (hs : s.Normal)
    (hwrite : writeAll s assets r₂ = (.ok (), r₃)) :
    (∀ a ∈ assets, ∀ l ∈ files, a.result.name = Settings.assetName l →
        r₃.tree.fileAt? (o.resolve r.tree.cwd ++ l) = arriving s r₂.tree a) ∧
      (∀ q, o.resolve r.tree.cwd <+: q → (r₃.tree.fileAt? q).isSome →
        ∃ l ∈ files, q = o.resolve r.tree.cwd ++ l) ∧
      ∀ q, s.inputDir.resolve r.tree.cwd <+: q → r₃.tree.fileAt? q = r.tree.fileAt? q := by
  obtain ⟨hothers, harrive⟩ := of_writeAll_eq_ok hs (h.spread_beside hb) hwrite
  rw [h.alike.sinks] at hothers
  have htarget : ∀ a : Processed, ∀ l ∈ files, a.result.name = Settings.assetName l →
      (s.target a).resolve r₂.tree.cwd = o.resolve r.tree.cwd ++ l := by
    intro a l hl hname
    rw [Settings.target, hname, h.resolve_assetPath hl, hb.outputDir_eq]
  refine ⟨fun a ha l hl hname => ?_, fun q hq hsome => ?_, fun q hq => ?_⟩
  · rw [← htarget a l hl hname, harrive a ha]
  · refine Classical.byContradiction fun hnone => ?_
    have hlog := hb.log_ne h.sound hq
    rw [hothers q ?_ hlog, h.alike.tree.fileAt?_eq hlog, Tree.fileAt?,
      hb.entry?_eq_none h.sound hq] at hsome
    · cases hsome
    · intro a ha heq
      obtain ⟨l, hl, hname⟩ := h.exists_file ha
      exact hnone ⟨l, hl, heq.trans (htarget a l hl hname)⟩
  · rw [hothers q ?_ (h.log_ne hq), h.alike.tree.fileAt?_eq (h.log_ne hq)]
    intro a ha heq
    obtain ⟨l, hl, hname⟩ := h.exists_file ha
    rw [htarget a l hl hname] at heq
    exact hb.not_prefix_append h.sound h.input l (heq ▸ hq)

end Worked

/-! ## Both builds -/

/-- A build that gets as far as its assets has its input directory. -/
theorem Prepared.entry?_input {p : Policy} {names : List Text} {r₁ : Run}
    (h : Prepared s r p names r₁) (hs : s.Normal) :
    r.tree.entry? (s.inputDir.resolve r.tree.cwd) = some .directory := by
  obtain ⟨place, hlocate, hentry⟩ := Tree.isDirectory_eq_true_iff.1 h.input
  rwa [← Tree.eq_resolve_of_locate hs.input hlocate]

/-- Settings without an output directory leave nothing out as output. -/
theorem assetFiles_withoutOutput (s : Settings) (t : Tree) :
    s.withoutOutput.assetFiles t = t.filesUnder (s.inputDir.resolve t.cwd) := by
  have hplace : s.withoutOutput.inPlace t.cwd = true := decide_eq_true rfl
  refine List.filter_eq_self.2 fun names _ => ?_
  rw [Settings.isOutput, hplace]
  rfl

/-- **Both builds get to the same assets**: the files below the input directory. -/
theorem Beside.prepared (hb : Beside s o r) (hs : s.Normal) (hr : r.Sound s) {p p' : Policy}
    {names names' : List Text} {r₁ r₁' : Run} (h : Prepared s r p names r₁)
    (h' : Prepared s.withoutOutput r p' names' r₁') :
    p = p' ∧ r₁ = r₁' ∧ names = names' ∧ r.Alike r₁ ∧
      names = (r₁.tree.filesUnder (s.inputDir.resolve r.tree.cwd)).map Settings.assetName := by
  have halike : r.Alike r₁ := h.alike hb.noLookup hr.logReady
  have hpolicy : ((Except.ok p, r₁) : Except BuildError Policy × Run) = (.ok p', r₁') :=
    h.policy.symm.trans h'.policy
  cases hpolicy
  have hdir : r₁.tree.isDirectory s.inputDir = .ok true := by
    rw [halike.tree.isDirectory_eq, h.input]
  have hnames :
      names = (r₁.tree.filesUnder (s.inputDir.resolve r.tree.cwd)).map Settings.assetName := by
    rcases Settings.of_assetNames_eq_ok hs.input h.names with ⟨-, heq⟩ | ⟨hfalse, -⟩
    · rw [heq, hb.assetFiles_eq hr (h.entry?_input hs) halike.tree.cwd]
    · rw [hdir] at hfalse
      cases hfalse
  refine ⟨rfl, rfl, ?_, halike, hnames⟩
  rcases Settings.of_assetNames_eq_ok (s := s.withoutOutput) hs.input h'.names
    with ⟨-, heq⟩ | ⟨hfalse, -⟩
  · rw [hnames, heq, assetFiles_withoutOutput, halike.tree.cwd]
  · exact absurd (hdir.symm.trans hfalse) nofun

/-- The same is to arrive in runs that are alike, wherever it is to be written. -/
theorem arriving_withoutOutput {r' : Run} (h : r.Alike r') {a : Processed}
    (hsource : r.sinks.file ≠ some ((s.source a).resolve r.tree.cwd)) :
    arriving s.withoutOutput r'.tree a = arriving s r.tree a := by
  rw [arriving, arriving]
  cases a.text with
  | some text => rfl
  | none =>
    dsimp only
    rw [h.tree.cwd]
    exact h.tree.fileAt?_eq hsource

/-- **Both builds work on the same assets, with the same outcomes**, and then they write them. -/
theorem Beside.exists_worked (hb : Beside s o r) (hs : s.Normal) (hr : r.Sound s)
    {schedule schedule' : Schedule} {duration duration' : Binary64} {b b' : BuildResult}
    {beside inPlace : Run} (hbeside : run s schedule duration r = (.ok b, beside))
    (hinPlace : run s.withoutOutput schedule' duration' r = (.ok b', inPlace)) :
    ∃ files assets r₂ r₃ r₂' r₃', Worked s r r₂ files assets ∧ Worked s r r₂' files assets ∧
      (writeAll s assets r₂ = (.ok (), r₃) ∧ b = resultOf s duration assets ∧
        beside = (closing b r₃).2) ∧
      writeAll s.withoutOutput assets r₂' = (.ok (), r₃') ∧
        b' = resultOf s.withoutOutput duration' assets ∧ inPlace = (closing b' r₃').2 := by
  have hs' : s.withoutOutput.Normal := ⟨hs.input, hs.input, hs.lookup⟩
  have hr' : r.Sound s.withoutOutput := ⟨hr.wellFormed, hr.logReady, hr.logApart⟩
  obtain ⟨p, names, assets, r₁, r₂, r₃, h, hprocess, hwrite, rfl, rfl⟩ :=
    exists_of_run_eq_ok hbeside
  obtain ⟨p', names', assets', u₁, r₂', r₃', h', hprocess', hwrite', rfl, rfl⟩ :=
    exists_of_run_eq_ok hinPlace
  obtain ⟨rfl, rfl, rfl, h₁, hnames⟩ := hb.prepared hs hr h h'
  obtain ⟨hassets, h₁₂, v₂, hprocess'', h₁₂'⟩ :=
    h.processAll_congr h' hs hs' hr hr' (fun _ _ => rfl) schedule' hprocess
  rw [hprocess'] at hprocess''
  cases hprocess''
  have hwell : r₁.tree.WellFormed := (hr.of_change (h.change hs)).wellFormed
  have hmem : ∀ l, l ∈ r₁.tree.filesUnder (s.inputDir.resolve r.tree.cwd) ↔
      l ∈ r.tree.filesUnder (s.inputDir.resolve r.tree.cwd) := fun l => by
    rw [hr.wellFormed.mem_filesUnder, hwell.mem_filesUnder, h₁.tree.isSome_fileAt?]
  have hworked : ∀ {v}, r₁.Alike v → Worked s r v _ assets := fun hv =>
    ⟨hr, h.entry?_input hs, h₁.trans hv, hwell.nodup_filesUnder _, hmem,
      (map_name_of_map_eq hassets).trans hnames⟩
  exact ⟨_, assets, r₂, r₃, r₂', r₃', hworked h₁₂, hworked h₁₂', ⟨hwrite, rfl, rfl⟩, hwrite', rfl,
    rfl⟩

/-- **Builds in place and builds beside agree.**  Where both succeed, their assets have the same
results, and every file below the input directory has the same bytes in place after the one as it
has below the output directory after the other.  The output directory holds nothing else then, and
the input directory what it held. -/
theorem beside_agrees_with_inPlace (hs : s.Normal) (hr : r.Sound s) (hb : Beside s o r)
    {schedule schedule' : Schedule} {duration duration' : Binary64} {b b' : BuildResult}
    {beside inPlace : Run} (hbeside : run s schedule duration r = (.ok b, beside))
    (hinPlace : run s.withoutOutput schedule' duration' r = (.ok b', inPlace)) :
    b'.assets = b.assets ∧
      (∀ names ∈ r.tree.filesUnder (s.inputDir.resolve r.tree.cwd), ∃ bytes,
        beside.tree.fileAt? (o.resolve r.tree.cwd ++ names) = some bytes ∧
          inPlace.tree.fileAt? (s.inputDir.resolve r.tree.cwd ++ names) = some bytes) ∧
      (∀ q, o.resolve r.tree.cwd <+: q → (beside.tree.fileAt? q).isSome →
        ∃ names ∈ r.tree.filesUnder (s.inputDir.resolve r.tree.cwd),
          q = o.resolve r.tree.cwd ++ names) ∧
      ∀ q, s.inputDir.resolve r.tree.cwd <+: q → beside.tree.fileAt? q = r.tree.fileAt? q := by
  have hs' : s.withoutOutput.Normal := ⟨hs.input, hs.input, hs.lookup⟩
  have hkept := (change_run hs' schedule' duration' r).tree.kept
  rw [hinPlace] at hkept
  obtain ⟨files, assets, r₂, r₃, r₂', r₃', h, h', ⟨hwrite, rfl, rfl⟩, hwrite', rfl, rfl⟩ :=
    hb.exists_worked hs hr hbeside hinPlace
  obtain ⟨harrive, honly, hinput⟩ := h.of_writeAll_beside hb hs hwrite
  refine ⟨rfl, fun l hl => ?_, fun q hq hsome => ?_, fun q hq => ?_⟩
  · -- the asset of this name arrives in both places, and what is in place is a file
    have hfile := (h.mem_files l).2 hl
    obtain ⟨a, ha, hname⟩ := h.exists_asset hfile
    have hsame : arriving s.withoutOutput r₂'.tree a = arriving s r₂.tree a := by
      have hsource := (h.spread_beside hb).sources a ha
      exact arriving_withoutOutput (h.alike.symm.trans h'.alike) hsource
    have hlog := h.log_ne (List.prefix_append _ l)
    have hlog' := hb.log_ne hr (List.prefix_append _ l)
    obtain ⟨bytes, hbytes⟩ :=
      Option.isSome_iff_exists.1 (hkept _ (hr.wellFormed.mem_filesUnder.1 hl).2)
    refine ⟨bytes, ?_, hbytes⟩
    rw [h'.withoutOutput.fileAt?_closing hs' hwrite' _ hlog,
      h'.of_writeAll_inPlace hs' hwrite' ha hfile hname, hsame] at hbytes
    rw [h.fileAt?_closing hs hwrite _ hlog', harrive a ha l hfile hname, hbytes]
  · rw [h.fileAt?_closing hs hwrite _ (hb.log_ne hr hq)] at hsome
    obtain ⟨l, hl, heq⟩ := honly q hq hsome
    exact ⟨l, (h.mem_files l).1 hl, heq⟩
  · rw [h.fileAt?_closing hs hwrite _ (h.log_ne hq), hinput q hq]

/-! ### One asset and a new directory -/

/-- A run on the asset `h`, which is `x` in the directory `i`. -/
def oneAsset : Run where
  tree :=
    { entries := [([['i']], .directory), ([['i'], ['x']], .file [104])]
      cwd := [] }

/-- Settings by which the assets of `i` are written below a path. -/
def copying (output : List Char) : Settings where
  build :=
    { inputDir := Path.ofText (Text.ofChars ['i'])
      outputDir := some (Path.ofText (Text.ofChars output)) }

/-- What comes of the asset, in any directory. -/
def oneProcessed : List Processed := [⟨{ name := Text.ofChars ['x'], status := .unchanged }, none⟩]

theorem sound_oneAsset (output : List Char) : oneAsset.Sound (copying output) :=
  ⟨by decide, nofun, nofun⟩

/-! ### Two assets, a catalog and a new directory -/

/-- Settings by which the assets of `i` are translated by the catalog `c` and written to `o`. -/
def wording : Settings :=
  { copying ['o'] with catalog := { path := some (Path.ofText (Text.ofChars ['c'])) } }

/-- A tree with a catalog that words `a`, an asset with a nugget of this key, and an asset without
nuggets in a directory of its own. -/
def mixedTree : Tree where
  entries := [([['c']], .file (Utf8.encodeLossy "msgid \"a\"\nmsgstr \"b\"\n")),
    ([['i']], .directory), ([['i'], ['d']], .directory), ([['i'], ['d'], ['y']], .file [104]),
    ([['i'], ['x']], .file (Utf8.encodeLossy "<[[[a]]]>"))]
  cwd := []

/-- A run on this tree. -/
def mixedRun : Run where
  tree := mixedTree

/-- The policy of the catalog. -/
def mixedPolicy : Policy where
  table := some ⟨[(['a'], ['b'])]⟩
  locale := wording.locale

/-- The names of the assets. -/
def mixedNames : List Text := ["d/y", "x"]

/-- What comes of the assets, in any directory. -/
def mixedProcessed : List Processed := [
  ⟨{ name := "d/y", status := .unchanged }, none⟩,
  ⟨{ name := "x", status := .rewritten, nuggets := 1, translated := 1 }, some "<b>"⟩]

theorem prepared_mixedRun :
    Prepared wording mixedRun mixedPolicy mixedNames (loadPolicy wording mixedRun).2 :=
  ⟨by decide +kernel, eq_of_outcome (by decide +kernel),
    (Settings.assetNames_of_pairwise (by decide) (by decide) (by decide +kernel)
      (by decide +kernel)).trans (by decide +kernel)⟩

theorem prepared_withoutOutput_mixedRun :
    Prepared wording.withoutOutput mixedRun mixedPolicy mixedNames
      (loadPolicy wording.withoutOutput mixedRun).2 :=
  ⟨by decide +kernel, eq_of_outcome (by decide +kernel),
    (Settings.assetNames_of_pairwise (by decide) (by decide) (by decide +kernel)
      (by decide +kernel)).trans (by decide +kernel)⟩

/-- The asset that is rewritten and the one that is not are the same in place and beside, whichever
is worked on first. -/
theorem beside_agrees_with_inPlace_mixedRun :
    ∃ b b' beside inPlace,
      run wording .inOrder (.zero false) mixedRun = (.ok b, beside) ∧
      run wording.withoutOutput Schedule.backwards (.zero false) mixedRun = (.ok b', inPlace) ∧
      b.assets = mixedProcessed.map (·.result) ∧ b'.assets = b.assets ∧
      ∀ names ∈ ([[['d'], ['y']], [['x']]] : List Location), ∃ bytes,
        beside.tree.fileAt? (['o'] :: names) = some bytes ∧
          inPlace.tree.fileAt? (['i'] :: names) = some bytes := by
  have hs : wording.Normal := ⟨by decide, by decide, nofun⟩
  have hr : mixedRun.Sound wording := ⟨by decide +kernel, nofun, nofun⟩
  have hsorted : (mixedTree.entries.filterMap (Tree.nameBelow? [['i']])).Pairwise
      fun a b => (Text.compareList a b).isLE := by decide +kernel
  have hfiles : mixedTree.filesUnder [['i']] = ([[['d'], ['y']], [['x']]] : List Location) := by
    rw [Tree.filesUnder_of_pairwise hsorted]
    decide +kernel
  have hb : Beside wording (Path.ofText (Text.ofChars ['o'])) mixedRun := by
    refine ⟨rfl, rfl, by decide, by decide, ?_⟩
    show ∀ names ∈ mixedTree.filesUnder [['i']], _
    rw [hfiles]
    decide +kernel
  have hprocess : (processAll wording mixedPolicy .inOrder mixedNames
      (begun wording mixedNames (loadPolicy wording mixedRun).2)).1 = .ok mixedProcessed := by
    decide +kernel
  have hprocess' : (processAll wording.withoutOutput mixedPolicy Schedule.backwards mixedNames
      (begun wording.withoutOutput mixedNames (loadPolicy wording.withoutOutput mixedRun).2)).1
        = .ok mixedProcessed := by decide +kernel
  have hbeside : run wording .inOrder (.zero false) mixedRun = _ :=
    run_of_written prepared_mixedRun (eq_of_outcome hprocess) (eq_of_outcome (by decide +kernel))
  have hinPlace : run wording.withoutOutput Schedule.backwards (.zero false) mixedRun = _ :=
    run_of_written prepared_withoutOutput_mixedRun (eq_of_outcome hprocess')
      (eq_of_outcome (by decide +kernel))
  obtain ⟨hassets, hsame, -⟩ := beside_agrees_with_inPlace hs hr hb hbeside hinPlace
  exact ⟨_, _, _, _, hbeside, hinPlace, rfl, hassets, fun names h => hsame names (hfiles ▸ h)⟩

/-! ### One asset and a path that leads up -/

/-- **A path that leads up can make builds disagree.**  On the way to `o/x/../../o` a directory is
made where `x` is to be copied, and takes the copy in. -/
theorem not_forall_beside_agrees :
    ¬ ∀ (doc : Settings.Document) (s : Settings) (o : Path) (r beside inPlace : Run)
        (schedule schedule' : Schedule) (duration duration' : Binary64) (b b' : BuildResult),
      Settings.ofDocument doc = .ok s → r.Sound s → s.catalog = {} → s.build.outputDir = some o →
      r.tree.entry? (o.resolve r.tree.cwd) = none →
      ¬ s.inputDir.resolve r.tree.cwd <+: o.resolve r.tree.cwd →
      ¬ o.resolve r.tree.cwd <+: s.inputDir.resolve r.tree.cwd →
      run s schedule duration r = (.ok b, beside) →
      run s.withoutOutput schedule' duration' r = (.ok b', inPlace) →
      ∀ names ∈ r.tree.filesUnder (s.inputDir.resolve r.tree.cwd),
        beside.tree.fileAt? (o.resolve r.tree.cwd ++ names)
          = inPlace.tree.fileAt? (s.inputDir.resolve r.tree.cwd ++ names) := by
  intro hagree
  let output : List Char := ['o', '/', 'x', '/', '.', '.', '/', '.', '.', '/', 'o']
  let doc : Settings.Document :=
    [(.text "build", .map [(.text "input_dir", .text "i"),
      (.text "output_dir", .text (Text.ofChars output))])]
  have hbeside : (run (copying output) .inOrder (.zero false) oneAsset).1
      = .ok (resultOf (copying output) (.zero false) oneProcessed) := by decide +kernel
  have hinPlace : (run (copying output).withoutOutput .inOrder (.zero false) oneAsset).1
      = .ok (resultOf (copying output).withoutOutput (.zero false) oneProcessed) := by
    decide +kernel
  have hsame := hagree doc (copying output) (Path.ofText (Text.ofChars output)) oneAsset
    _ _ _ _ _ _ _ _ rfl (sound_oneAsset output) rfl rfl (by decide) (by decide) (by decide)
    (eq_of_outcome hbeside) (eq_of_outcome hinPlace) [['x']] (by decide +kernel)
  revert hsame
  decide +kernel

end Build
end Localize
