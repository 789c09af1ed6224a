import Localize.Proofs.Build.Arrival
import Localize.Proofs.Build.Reach
import Localize.Proofs.Build.Repeats
import Localize.Proofs.Text.Order

/-!
# A build that is run again

A build into another directory can be run again on what it has made.  It gives the same result then,
and leaves every file but the log as it is (`run_again`).

Its steps are done again (`Build.Repeats`).  Between them there is the work on the assets.  The
second time it finds the same assets, since all that the first run added is output
(`Prepared.again`), and the same in each of them (`Batch.outcomes_again`).

The text of the catalog must not be the name of a file, and not that of a file which the first run
makes either (`not_forall_run_again`).
-/

set_option autoImplicit false

namespace Localize
namespace Build

variable {s : Settings} {r r' v : Run} {w : Tree}

/-! ## Between the phases -/

/-- An asset that comes out well comes out the same if it is read again. -/
theorem processAsset_again {p : Policy} {t t' : Tree} {name : Text} {a : Processed}
    (h : (processAsset s p t name).2 = .ok a)
    (hread : ∀ bytes, t.readFile (Settings.assetPath s.inputDir name) = .ok bytes →
      t'.readFile (Settings.assetPath s.inputDir name) = .ok bytes) :
    (processAsset s p t' name).2 = .ok a := by
  rw [processAsset] at h ⊢
  split at h
  · rename_i hmap
    rw [if_pos hmap]
    exact h
  · rename_i hmap
    rw [if_neg hmap]
    split at h
    · rename_i hskip
      rw [if_pos hskip]
      exact h
    · rename_i hskip
      rw [if_neg hskip]
      split at h
      · cases h
      · rename_i bytes hbytes
        rw [hread bytes hbytes]
        exact h

/-- **The same assets are found** in a tree that has the same files below the input directory,
output apart. -/
theorem assetNames_congr (hs : s.inputDir.Normal) {t t' : Tree} (hwell : t.WellFormed)
    (hwell' : t'.WellFormed) (hcwd : t'.cwd = t.cwd) (hdir : t.isDirectory s.inputDir = .ok true)
    (hdir' : t'.isDirectory s.inputDir = .ok true)
    (hfiles : ∀ q, s.inputDir.resolve t.cwd <+: q →
      s.inPlace t.cwd ∨ ¬ s.outputDir.resolve t.cwd <+: q →
        (t'.fileAt? q).isSome = (t.fileAt? q).isSome)
    {names : List Text} (h : s.assetNames t = .ok names) : s.assetNames t' = .ok names := by
  have hsame : s.assetFiles t' = s.assetFiles t := by
    refine Text.eq_of_pairwise_compareList ((hwell'.nodup_filesUnder _).filter _)
      ((hwell.nodup_filesUnder _).filter _)
      ((Text.pairwise_mergeSort_compareList _).filter _)
      ((Text.pairwise_mergeSort_compareList _).filter _) fun l => ?_
    rw [Settings.mem_assetFiles, Settings.mem_assetFiles, hwell.mem_filesUnder,
      hwell'.mem_filesUnder, hcwd, and_assoc, and_assoc]
    refine and_congr_right fun _ => ?_
    constructor
    · rintro ⟨hfile, hout⟩
      exact ⟨hfiles _ (List.prefix_append _ l) hout ▸ hfile, hout⟩
    · rintro ⟨hfile, hout⟩
      exact ⟨(hfiles _ (List.prefix_append _ l) hout).symm ▸ hfile, hout⟩
  cases hout : s.outputDir.checkAskable with
  | error e =>
    rw [Settings.assetNames, hout] at h
    cases h
  | ok _ =>
    rw [Settings.assetNames_of_isDirectory hs hout hdir] at h
    rw [Settings.assetNames_of_isDirectory hs hout hdir', hsame, h]

/-! ## Whole builds -/

/-- The catalog of a build is apart from what the build writes, and its text is not the name of a
file, also not of one that is there in the end. -/
structure CatalogApart (s : Settings) (r : Run) (w : Tree) : Prop where
  output : ∀ path place, s.catalog.path = some path → r.tree.locate path = .ok place →
    ¬ s.outputDir.resolve r.tree.cwd <+: place
  lookup : ∀ path place, s.catalog.path = some path → r.tree.locate path = .ok place →
    s.lookupPlace? r.tree.cwd ≠ some place
  log : ∀ path place, s.catalog.path = some path → r.tree.locate path = .ok place →
    r.sinks.file ≠ some place
  unnamed : ∀ path bytes text, s.catalog.path = some path → r.tree.readFile path = .ok bytes →
    Utf8.decodeMarked bytes = .ok text → w.fileNamed? text = none

/-- A catalog that was found is apart if its place and its text are. -/
theorem CatalogApart.of_found {path : Path} {place : Location} {bytes : Bytes} {text : Text}
    (hpath : s.catalog.path = some path) (hfound : r.tree.locate path = .ok place)
    (hread : r.tree.readFile path = .ok bytes) (hdecoded : Utf8.decodeMarked bytes = .ok text)
    (houtput : ¬ s.outputDir.resolve r.tree.cwd <+: place)
    (hlookup : s.lookupPlace? r.tree.cwd ≠ some place) (hlog : r.sinks.file ≠ some place)
    (hunnamed : w.fileNamed? text = none) : CatalogApart s r w := by
  have hplace : ∀ path' place', s.catalog.path = some path' → r.tree.locate path' = .ok place' →
      place' = place := by
    intro path' place' hpath' hfound'
    cases hpath.symm.trans hpath'
    exact Except.ok.inj (hfound'.symm.trans hfound)
  refine ⟨fun path' place' hpath' hfound' => ?_, fun path' place' hpath' hfound' => ?_,
    fun path' place' hpath' hfound' => ?_, fun path' bytes' text' hpath' hread' hdecoded' => ?_⟩
  · rw [hplace path' place' hpath' hfound']
    exact houtput
  · rw [hplace path' place' hpath' hfound']
    exact hlookup
  · rw [hplace path' place' hpath' hfound']
    exact hlog
  · cases hpath.symm.trans hpath'
    cases hread.symm.trans hread'
    cases hdecoded.symm.trans hdecoded'
    exact hunnamed

/-- A place that a build into another directory leaves alone: it is not the log, and no output. -/
def Untouched (s : Settings) (r : Run) (q : Location) : Prop :=
  r.sinks.file ≠ some q ∧ ¬ s.outputDir.resolve r.tree.cwd <+: q

/-- From when its assets are known in `r₁`, a build into another directory lets the tree grow to `w`
and leaves alone what it should. -/
structure Outputs (s : Settings) (r₁ : Run) (w : Tree) : Prop where
  grows : r₁.tree.Grows w
  kept : ∀ q, Untouched s r₁ q → w.fileAt? q = r₁.tree.fileAt? q

section Runs

variable {p : Policy} {names : List Text} {assets : List Processed} {r₁ r₂ r₃ v₁ : Run}

/-- Assets are read where the build leaves alone what is there. -/
theorem Batch.untouched (h : Batch s r assets) (hplace : ¬ s.inPlace r.tree.cwd) {a : Processed}
    (ha : a ∈ assets) : Untouched s r ((s.source a).resolve r.tree.cwd) :=
  ⟨(h.source_isSome ha).2, h.source_not_output hplace ha⟩

/-- **Once its assets are known, a build into another directory only adds output.** -/
theorem Batch.outputs (h : Batch s r₂ assets) (hs : s.Normal) (halike : r₁.Alike r₂)
    (hwrite : writeAll s assets r₂ = (.ok (), r₃)) (result : BuildResult) :
    Outputs s r₁ (closing result r₃).2.tree ∧ r₃.tree.Grows (closing result r₃).2.tree := by
  have hwritten := growing_writeAll s assets r₂ h.sound.logReady
  rw [hwrite] at hwritten
  have hclosed := growing_of_onlyLogs (onlyLogs_closing result) r₃
    (hwritten.logReady h.sound.logReady)
  refine ⟨⟨?_, fun q hq => ?_⟩, hclosed.tree⟩
  · exact (Run.Grows.of_alike halike).tree.trans (hwritten.tree.trans hclosed.tree)
  · have hlog : r₂.sinks.file ≠ some q := halike.sinks ▸ hq.1
    rw [fileAt?_closing hs hwrite result hlog, ← halike.tree.fileAt?_eq hq.1]
    refine (change_of_writeAll hs hwrite).tree.files q ?_
    rintro (hfile | ⟨a, ha, hlands⟩)
    · exact hlog hfile
    · exact hq.2 (halike.tree.cwd ▸ h.output_prefix ha hlands)

/-- The bytes of the catalog are read again at the end, and their text means the same. -/
theorem CatalogApart.reads (h : CatalogApart s r w) (hcwd : r₁.tree.cwd = r.tree.cwd)
    (hsinks : r₁.sinks = r.sinks) (hgrows : r.tree.Grows w) (houtputs : Outputs s r₁ w)
    (hkept : ∀ q, ¬ (r.sinks.file = some q ∨ s.lookupPlace? r.tree.cwd = some q) →
      r₁.tree.fileAt? q = r.tree.fileAt? q)
    {path : Path} {bytes : Bytes} (hpath : s.catalog.path = some path)
    (hbytes : r.tree.readFile path = .ok bytes) :
    w.readFile path = .ok bytes ∧ ∀ text, Utf8.decodeMarked bytes = .ok text →
      w.fileNamed? text = r.tree.fileNamed? text := by
  refine ⟨hgrows.readFile_eq_ok hbytes fun place hplace => ?_, fun text htext => ?_⟩
  · have huntouched : Untouched s r₁ place := by
      rw [Untouched, hcwd, hsinks]
      exact ⟨h.log path place hpath hplace, h.output path place hpath hplace⟩
    rw [houtputs.kept place huntouched]
    exact hkept place fun hw =>
      hw.elim (h.log path place hpath hplace) (h.lookup path place hpath hplace)
  · have hnone := h.unnamed path bytes text hpath hbytes htext
    rw [hnone]
    cases hnamed : r.tree.fileNamed? text with
    | none => rfl
    | some old =>
      have hthere : (w.fileNamed? text).isSome := hgrows.fileNamed?_isSome (by rw [hnamed]; rfl)
      rw [hnone] at hthere
      cases hthere

/-- **The second time, the build gets as far as its assets**, and finds the same. -/
theorem Prepared.again (h : Prepared s r p names r₁) (hs : s.Normal) (hr : r.Sound s)
    (hv : v.Sound s) (hplace : ¬ s.inPlace r₁.tree.cwd) (houtputs : Outputs s r₁ w)
    (hcatalog : CatalogApart s r w) (htree : v.tree = w) (hsinks : v.sinks.file = r.sinks.file) :
    ∃ v₁, Prepared s v p names v₁ ∧ Run.Again r₁.tree.cwd (Untouched s r₁) w r₁ v₁ := by
  have hloaded := h.change hs
  have hcwd : r₁.tree.cwd = r.tree.cwd := hloaded.tree.cwd
  have hr₁ := hr.of_change hloaded
  have hload := growing_loadPolicy s r hr.logReady
  rw [h.policy] at hload
  have hgrows : r.tree.Grows w := hload.tree.trans houtputs.grows
  subst htree
  have hreads : ∀ path bytes, s.catalog.path = some path → r.tree.readFile path = .ok bytes → _ :=
    fun _ _ => hcatalog.reads hcwd hloaded.sinks hgrows houtputs hloaded.tree.files
  -- up to here nothing had to be read but the catalog
  have hstart : Run.Again r₁.tree.cwd (fun _ => False) v.tree r v :=
    ⟨hcwd.symm, houtputs.grows.cwd, ⟨.refl _, .refl _, fun _ _ => Or.inr rfl, nofun⟩, hsinks,
      hr.logReady, hv.logReady, nofun⟩
  obtain ⟨v₁, hpolicy, hagain⟩ := loadPolicy_again hs h.policy houtputs.grows hstart
    (fun path bytes hpath hbytes => (hreads path bytes hpath hbytes).1)
    fun path bytes text hpath hbytes => (hreads path bytes hpath hbytes).2 text
  have hv₁ := hv.of_change (change_of_loadPolicy hs hpolicy)
  have hsame : ∀ q, Untouched s r₁ q → v₁.tree.fileAt? q = r₁.tree.fileAt? q := fun q hq =>
    (hagain.tree.files q hq.1).elim id fun heq => heq.trans (houtputs.kept q hq)
  have hinput : r₁.tree.isDirectory s.inputDir = .ok true := hload.tree.isDirectory_eq_true h.input
  refine ⟨v₁, ⟨hgrows.isDirectory_eq_true h.input, hpolicy, ?_⟩, rfl, hagain.cwd_eq',
    ⟨hagain.tree.grows, hagain.tree.within, hagain.tree.files, hsame⟩, hagain.sinks,
    hagain.ready, hagain.ready', fun _ hq => hq.1⟩
  have hinput' : v₁.tree.isDirectory s.inputDir = .ok true :=
    (houtputs.grows.trans hagain.tree.grows).isDirectory_eq_true hinput
  refine assetNames_congr hs.input hr₁.wellFormed hv₁.wellFormed hagain.cwd_eq' hinput hinput'
    (fun q hq hout => ?_) h.names
  rw [hsame q ⟨fun hlog => hr₁.logApart q hlog hq, hout.resolve_left hplace⟩]

/-- **The second time, the same comes of every asset.** -/
theorem Batch.outcomes_again (h : Batch s r₁ assets) (hs : s.Normal)
    (hplace : ¬ s.inPlace r₁.tree.cwd) (hgrows : r₁.tree.Grows w)
    (hagain : Run.Again r₁.tree.cwd (Untouched s r₁) w r₁ v₁)
    (hassets : names.map (outcomeIn s p r₁) = assets.map .ok) :
    names.map (outcomeIn s p v₁) = assets.map .ok := by
  rw [← hassets]
  refine List.map_congr_left fun name hname => ?_
  obtain ⟨a, houtcome⟩ := exists_of_map_eq hassets hname
  rw [houtcome]
  refine processAsset_again houtcome fun bytes hbytes => ?_
  refine hagain.tree.readFile hgrows hbytes fun place hlocate => ?_
  rw [Tree.eq_resolve_of_locate (Settings.normal_assetPath hs.input name) hlocate]
  rw [← map_name_of_map_eq hassets] at hname
  obtain ⟨b, hb, rfl⟩ := List.mem_map.1 hname
  exact h.untouched hplace hb

/-- **A build is run again with the same result.**  A build into another directory that has
succeeded, and has left its catalog alone, succeeds again on the tree it has left.  It gives the
same result then, but for the time it takes, and leaves every file but the log as it is. -/
theorem run_again (hs : s.Normal) (hr : r.Sound s) (hplace : ¬ s.inPlace r.tree.cwd)
    {schedule : Schedule} {duration : Binary64} {b : BuildResult}
    (h : run s schedule duration r = (.ok b, r')) (hcatalog : CatalogApart s r r'.tree)
    (htree : v.tree = r'.tree) (hsinks : v.sinks.file = r.sinks.file)
    (schedule' : Schedule) (duration' : Binary64) :
    ∃ v', run s schedule' duration' v = (.ok { b with duration := .exact duration' }, v') ∧
      ∀ q, r.sinks.file ≠ some q → v'.tree.fileAt? q = r'.tree.fileAt? q := by
  have hrun := change_run hs schedule duration r
  rw [h] at hrun
  have hv : v.Sound s := by
    have hr' := hr.of_change hrun
    have hsame : v.sinks.file = r'.sinks.file := hsinks.trans (by rw [hrun.sinks])
    refine ⟨htree ▸ hr'.wellFormed, ?_, ?_⟩
    · rw [Run.LogReady, hsame, htree]
      exact hr'.logReady
    · rw [hsame, htree]
      exact hr'.logApart
  obtain ⟨p, names, assets, r₁, r₂, r₃, hready, hprocess, hwrite, rfl, rfl⟩ := exists_of_run_eq_ok h
  obtain ⟨hassets, halike, hbatch⟩ := hready.batch hs hr hprocess
  have hworked := change_of_processed hs hready hprocess
  have hcwd : r₁.tree.cwd = r.tree.cwd := (hready.change hs).tree.cwd
  rw [← hcwd] at hplace
  obtain ⟨houtputs, hclosed⟩ := (hbatch.of_alike halike (hr.of_change hworked)).outputs hs halike
    hwrite (resultOf s duration assets)
  obtain ⟨v₁, hready', hagain₁⟩ :=
    hready.again hs hr hv hplace houtputs hcatalog htree hsinks
  obtain ⟨v₂, hprocess', halike'⟩ := hready'.exists_processAll hs hv
    (hbatch.outcomes_again hs hplace houtputs.grows hagain₁ hassets) schedule'
  obtain ⟨v₃, hwrite', hagain₃⟩ :=
    (repeats_writeAll hs fun _ a ha => hbatch.untouched hplace ha).again r₂ r₃ v₂ () hwrite hclosed
      (hagain₁.of_alike halike halike')
  refine ⟨_, run_of_written hready' hprocess' hwrite', fun q hq => ?_⟩
  have hlog₂ : r₂.sinks.file ≠ some q := by rwa [hworked.sinks]
  have hlog₃ : r₃.sinks.file ≠ some q := by rwa [sinks_of_writeAll hs hwrite]
  have hlog₂' : v₂.sinks.file ≠ some q := by
    rwa [halike'.sinks, (hready'.change hs).sinks, hsinks]
  rw [fileAt?_closing hs hwrite' _ hlog₂']
  rcases hagain₃.tree.files q hlog₃ with heq | heq
  · rw [heq, fileAt?_closing hs hwrite _ hlog₂]
  · exact heq

end Runs

/-! ### An output directory in the input directory -/

/-- Settings with a catalog and a directory for tables, by which assets of `i` are written to `o`
in it. -/
def nesting : Settings where
  catalog := (tabling ['d']).catalog
  build :=
    { inputDir := Path.ofText (Text.ofChars ['i'])
      outputDir := some (Path.ofText (Text.ofChars ['i', '/', 'o'])) }

theorem run_again_nesting :
    ∃ b r' v', run nesting .inOrder (.zero false) tablingRun = (.ok b, r') ∧
      run nesting Schedule.backwards (.zero false) r' = (.ok b, v') ∧
      ∀ q, v'.tree.fileAt? q = r'.tree.fileAt? q := by
  have hs : nesting.Normal :=
    ⟨by decide, by decide, fun directory h => Option.some.inj h ▸ by decide⟩
  have hr : tablingRun.Sound nesting := ⟨by decide +kernel, nofun, nofun⟩
  have hrun : (run nesting .inOrder (.zero false) tablingRun).1
      = .ok (resultOf nesting (.zero false) oneProcessed) := by decide +kernel
  have hfound : tablingRun.tree.locate (Path.ofText (Text.ofChars ['c'])) = .ok [['c']] := by
    decide +kernel
  have hread : tablingRun.tree.readFile (Path.ofText (Text.ofChars ['c'])) = .ok tablingBytes := by
    decide +kernel
  have hdecoded : Utf8.decodeMarked tablingBytes = .ok tablingText := by decide +kernel
  have hcatalog : CatalogApart nesting tablingRun
      (run nesting .inOrder (.zero false) tablingRun).2.tree :=
    CatalogApart.of_found rfl hfound hread hdecoded (by decide) (by decide +kernel) nofun
      (by decide +kernel)
  obtain ⟨v', hagain, hfiles⟩ := run_again hs hr (by decide) (eq_of_outcome hrun) hcatalog rfl
    (by decide +kernel) Schedule.backwards (.zero false)
  exact ⟨_, _, v', eq_of_outcome hrun, hagain, fun q => hfiles q nofun⟩

/-! ### A catalog that is the name of an output -/

/-- Settings with the catalog `c`, by which assets of `i` are written below `# o`. -/
def commenting : Settings where
  catalog := { path := some (Path.ofText (Text.ofChars ['c'])) }
  build :=
    { inputDir := Path.ofText (Text.ofChars ['i'])
      outputDir := some (Path.ofText (Text.ofChars ['#', ' ', 'o'])) }

/-- A catalog that is one comment, and the name of the file that the asset `x` goes to. -/
def commentText : Text := Text.ofChars ['#', ' ', 'o', '/', 'x']

/-- A run on this catalog and on the asset `h`. -/
def commentingRun : Run where
  tree :=
    { entries := [([['c']], .file (Utf8.encodeLossy commentText)), ([['i']], .directory),
        ([['i'], ['x']], .file [104])]
      cwd := [] }

/-- **A catalog can come to be the name of a file.**  Its text is none before the first run, and
stands for the asset that was written there in the second. -/
theorem not_forall_run_again :
    ¬ ∀ (doc : Settings.Document) (s : Settings) (schedule : Schedule) (duration : Binary64)
        (r r' : Run) (b : BuildResult),
      Settings.ofDocument doc = .ok s → r.Sound s → r.sinks.file = none →
      ¬ s.inPlace r.tree.cwd → CatalogApart s r r.tree →
      run s schedule duration r = (.ok b, r') →
      ∃ v', run s schedule duration r' = (.ok b, v') ∧
        ∀ q, v'.tree.fileAt? q = r'.tree.fileAt? q := by
  intro hagain
  let doc : Settings.Document :=
    [(.text "catalog", .map [(.text "path", .text "c")]),
      (.text "build", .map [(.text "input_dir", .text "i"), (.text "output_dir", .text "# o")])]
  have hsound : commentingRun.Sound commenting := ⟨by decide +kernel, nofun, nofun⟩
  have hfound : commentingRun.tree.locate (Path.ofText (Text.ofChars ['c'])) = .ok [['c']] := by
    decide +kernel
  have hread : commentingRun.tree.readFile (Path.ofText (Text.ofChars ['c']))
      = .ok (Utf8.encodeLossy commentText) := by decide +kernel
  have hdecoded : Utf8.decodeMarked (Utf8.encodeLossy commentText) = .ok commentText := by
    decide +kernel
  have hcatalog : CatalogApart commenting commentingRun commentingRun.tree :=
    CatalogApart.of_found rfl hfound hread hdecoded (by decide) (by decide +kernel) nofun
      (by decide +kernel)
  have hrun : (run commenting .inOrder (.zero false) commentingRun).1
      = .ok (resultOf commenting (.zero false) oneProcessed) := by decide +kernel
  obtain ⟨v', hsecond, -⟩ := hagain doc commenting .inOrder (.zero false) commentingRun _ _ rfl
    hsound rfl (by decide) hcatalog (eq_of_outcome hrun)
  have hfails : (run commenting .inOrder (.zero false)
      (run commenting .inOrder (.zero false) commentingRun).2).1.toOption = none := by
    decide +kernel
  rw [hsecond] at hfails
  cases hfails

end Build
end Localize
