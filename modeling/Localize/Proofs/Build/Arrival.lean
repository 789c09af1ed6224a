import Localize.Proofs.Build.Agreement
import Localize.Proofs.Build.Failures
import Localize.Proofs.Build.Growth
import Localize.Proofs.Build.Placing

/-!
# Every asset arrives

A build that writes into another directory puts every asset there: the new text of one that was
rewritten, and the bytes of any other (`delivery`).  What stands in that directory beforehand does
not matter, with one exception.  An asset that is copied where a directory stands is put into that
directory, and the build goes on as if it had arrived.  An asset that is rewritten fails there.

The argument is about one asset at a time (`arrives_of_write`).  What is written before it does not
touch what it is read from, and what is written after it does not touch its place
(`arrives_of_writeAll`), because of two files none lies below the other.
-/

set_option autoImplicit false

namespace Localize
namespace Build

variable {s : Settings} {p : Policy} {r r' : Run} {t : Tree} {name : Text} {asset a : Processed}
variable {assets : List Processed}

/-! ## What is to arrive -/

/-- The bytes that an asset is to have below the output directory: those of its new text if it was
rewritten, and those that it is read from if not. -/
def delivery (s : Settings) (p : Policy) (t : Tree) (a : AssetResult) : Option Bytes := do
  let bytes ← t.fileAt? ((Settings.assetPath s.inputDir a.name).resolve t.cwd)
  if a.status = .rewritten then
    let text ← (Utf8.decode bytes).toOption
    let result ← (p.localize text a.name).toOption
    (Utf8.encode result.text).toOption
  else some bytes

/-- **What arrives is what is to arrive**, as long as the file that the asset is read from stays. -/
theorem arriving_eq_delivery (hs : s.inputDir.Normal) {t' u : Tree}
    (houtcome : (processAsset s p t name).2 = .ok a) {bytes : Bytes}
    (ht : t.fileAt? ((s.source a).resolve t.cwd) = some bytes)
    (ht' : t'.fileAt? ((s.source a).resolve t'.cwd) = some bytes)
    (hu : u.fileAt? ((s.source a).resolve u.cwd) = some bytes) :
    arriving s t' a = delivery s p u a.result := by
  rw [arriving, delivery, hu]
  rcases of_processAsset_eq_ok houtcome with ⟨htext, hstatus⟩ |
    ⟨bytes', text, result, hread, hdecode, hlocalize, htext, hstatus, -⟩
  · rw [htext]
    simp [hstatus, ht']
  · obtain rfl := name_of_processAsset houtcome
    obtain ⟨place, hlocate, hfile⟩ := Tree.readFile_eq_ok_iff.1 hread
    rw [Tree.eq_resolve_of_locate (Settings.normal_assetPath hs _) hlocate, ht] at hfile
    cases hfile
    rw [htext]
    simp [hstatus, hdecode, hlocalize, Except.toOption]

/-! ## One asset -/

/-- **An asset that was written is in its place**, unless it was copied and a directory stands
there. -/
theorem arrives_of_write (hs : s.Normal) (hplace : ¬ s.inPlace r.tree.cwd)
    (hlog : r.sinks.file ≠ some ((s.target asset).resolve r.tree.cwd))
    (h : write s asset r = (.ok (), r')) :
    (asset.text = none ∧ r'.tree.entry? ((s.target asset).resolve r.tree.cwd) = some .directory) ∨
      ((arriving s r.tree asset).isSome ∧
        r'.tree.fileAt? ((s.target asset).resolve r.tree.cwd) = arriving s r.tree asset) := by
  have htarget := Settings.normal_assetPath hs.output asset.result.name
  have hwritten := written_of_write s asset r
  rw [h] at hwritten
  dsimp only at hwritten
  generalize hout : (Except.ok () : Except BuildError Unit) = out at hwritten
  cases hwritten with
  | noDirectory | unencodable | unwritten | uncopied => cases hout
  | there _ hin => exact absurd hin hplace
  | @written text _ _ _ htext =>
    obtain ⟨bytes, hencode, hbytes⟩ := of_write_text hs htext hlog h
    have harriving : arriving s r.tree asset = some bytes := by
      rw [arriving, htext]
      dsimp only
      rw [hencode]
      rfl
    rw [harriving]
    exact Or.inr ⟨rfl, hbytes⟩
  | @copied t t' htext _ hmade hcopy =>
    have hmake := Tree.change_makeDirectories (t := r.tree) htarget.parent
    rw [hmade] at hmake
    obtain ⟨goal, place, bytes, hgoal, hread, hlocate, hentry, rfl⟩ := Tree.of_copyFile_eq_ok hcopy
    rcases hgoal with ⟨rfl, -⟩ | ⟨-, hstatus⟩
    · -- the copy goes where it is to go
      obtain ⟨origin, hfound, hfile⟩ := Tree.readFile_eq_ok_iff.1 hread
      have hsource := Settings.normal_assetPath hs.input asset.result.name
      have harriving : arriving s r.tree asset = some bytes := by
        rw [arriving, htext]
        dsimp only
        rw [← hmake.files _ id, ← hmake.cwd, ← Tree.eq_resolve_of_locate hsource hfound, hfile]
      rw [harriving, ← hmake.cwd, ← Tree.eq_resolve_of_locate htarget hlocate]
      have hkept : Tree.Change Tree.nowhere Tree.nowhere t t := .refl t
      exact Or.inr ⟨rfl, (Tree.change_set_of_made hkept hentry bytes).2⟩
    · -- a directory takes it in, and stays
      obtain ⟨found, hfound, hdir⟩ := Tree.status_eq_ok_iff.1 hstatus
      rw [Tree.eq_resolve_of_locate htarget hfound, hmake.cwd] at hdir
      exact Or.inl ⟨htext, (Tree.Grows.copyFile hcopy).directories _ hdir⟩

/-! ## All assets -/

theorem writeAll_append (s : Settings) (assets rest : List Processed) (r : Run) :
    writeAll s (assets ++ rest) r =
      match writeAll s assets r with
      | (.ok (), r') => writeAll s rest r'
      | (.error e, r') => (.error e, r') := by
  induction assets generalizing r with
  | nil => rfl
  | cons asset assets ih =>
    rw [List.cons_append, writeAll, writeAll, bind_apply, bind_apply]
    rcases write s asset r with ⟨e | _, r'⟩
    · rfl
    · exact ih r'

/-- An asset among others that were written is written between those before it and those after. -/
theorem exists_of_writeAll_append_cons {before after : List Processed}
    (h : writeAll s (before ++ a :: after) r = (.ok (), r')) :
    ∃ u v, writeAll s before r = (.ok (), u) ∧ write s a u = (.ok (), v) ∧
      writeAll s after v = (.ok (), r') := by
  rw [writeAll_append] at h
  rcases hbefore : writeAll s before r with ⟨e | _, u⟩
  · rw [hbefore] at h
    cases h
  rw [hbefore] at h
  dsimp only at h
  rw [writeAll, bind_apply] at h
  rcases hwrite : write s a u with ⟨e | _, v⟩
  · rw [hwrite] at h
    cases h
  rw [hwrite] at h
  exact ⟨u, v, rfl, hwrite, h⟩

/-- **What assets are read from stays** while they are written to another directory. -/
theorem Batch.source_kept (h : Batch s r assets) (hs : s.Normal) (hplace : ¬ s.inPlace r.tree.cwd)
    {written : List Processed} (hsub : written ⊆ assets)
    (hwrite : writeAll s written r = (.ok (), r')) (ha : a ∈ assets) :
    r'.tree.fileAt? ((s.source a).resolve r.tree.cwd)
      = r.tree.fileAt? ((s.source a).resolve r.tree.cwd) := by
  refine (change_of_writeAll hs hwrite).tree.files _ ?_
  rintro (hfile | ⟨b, hb, hlands⟩)
  · exact (h.source_isSome ha).2 hfile
  · exact h.source_not_output hplace ha (h.output_prefix (hsub hb) hlands)

/-- **Assets that were written are in their places**, unless they were copied and directories stand
there. -/
theorem arrives_of_writeAll (hs : s.Normal) (hbatch : Batch s r assets)
    (hplace : ¬ s.inPlace r.tree.cwd)
    (hlog : ∀ a ∈ assets, r.sinks.file ≠ some ((s.target a).resolve r.tree.cwd))
    (h : writeAll s assets r = (.ok (), r')) (ha : a ∈ assets) :
    (a.text = none ∧ r'.tree.entry? ((s.target a).resolve r.tree.cwd) = some .directory) ∨
      ((arriving s r.tree a).isSome ∧
        r'.tree.fileAt? ((s.target a).resolve r.tree.cwd) = arriving s r.tree a) := by
  obtain ⟨done, rest, rfl⟩ := List.append_of_mem ha
  obtain ⟨u, v, hdone, hwrite, h⟩ := exists_of_writeAll_append_cons h
  have hbefore := change_of_writeAll hs hdone
  have hself := change_of_write hs hwrite
  have hafter := change_of_writeAll hs h
  have hcwd : v.tree.cwd = r.tree.cwd := hself.tree.cwd.trans hbefore.tree.cwd
  have hsinks : v.sinks = r.sinks := hself.sinks.trans hbefore.sinks
  have hready : v.LogReady := hself.logReady (hbefore.logReady hbatch.sound.logReady)
  -- the assets before it do not touch what it is read from
  have hread : arriving s u.tree a = arriving s r.tree a := by
    rw [arriving, arriving]
    cases a.text with
    | some text => rfl
    | none =>
      dsimp only
      rw [hbefore.tree.cwd]
      exact hbatch.source_kept hs hplace (List.subset_append_left _ _) hdone ha
  -- and those after it do not touch its place
  have hstays : r'.tree.fileAt? ((s.target a).resolve r.tree.cwd)
      = v.tree.fileAt? ((s.target a).resolve r.tree.cwd) := by
    refine hbatch.target_kept hs ha (fun b hb => ?_) (fun b hb heq => ?_) hcwd
      (hsinks ▸ hlog a ha) h
    · exact List.mem_append_right _ (List.mem_cons_of_mem _ hb)
    · have hnodup := hbatch.nodup
      rw [List.map_append, List.map_cons, List.nodup_append, List.nodup_cons] at hnodup
      exact hnodup.2.1.1 (heq ▸ List.mem_map.2 ⟨b, hb, rfl⟩)
  have harrives := arrives_of_write hs (hbefore.tree.cwd.symm ▸ hplace)
    (hbefore.tree.cwd.symm ▸ hbefore.sinks.symm ▸ hlog a ha) hwrite
  rw [hbefore.tree.cwd, hread] at harrives
  refine harrives.imp (fun hdir => ⟨hdir.1, ?_⟩) fun hbytes => ⟨hbytes.1, hstays.trans hbytes.2⟩
  have hgrows := growing_writeAll s rest v hready
  rw [h] at hgrows
  exact hgrows.tree.directories _ hdir.2

/-! ## Whole builds -/

/-- **Every asset of a build arrives.**  After a build into another directory, each asset is at its
place there: the new text of one that was rewritten, and the bytes that any other is read from.  The
exception is one that is copied where a directory stands. -/
theorem assets_arrive (hs : s.Normal) (hr : r.Sound s) (hplace : ¬ s.inPlace r.tree.cwd)
    {schedule : Schedule} {duration : Binary64} {b : BuildResult}
    (hlog : ∀ a ∈ b.assets,
      r.sinks.file ≠ some ((Settings.assetPath s.outputDir a.name).resolve r.tree.cwd))
    (h : run s schedule duration r = (.ok b, r')) :
    ∃ p r₁, loadPolicy s r = (.ok p, r₁) ∧ ∀ a ∈ b.assets,
      (a.status ≠ .rewritten ∧
        r'.tree.entry? ((Settings.assetPath s.outputDir a.name).resolve r.tree.cwd)
          = some .directory) ∨
      ∃ bytes, delivery s p r'.tree a = some bytes ∧
        r'.tree.fileAt? ((Settings.assetPath s.outputDir a.name).resolve r.tree.cwd)
          = some bytes := by
  obtain ⟨p, names, assets, r₁, r₂, r₃, hready, hprocess, hwrite, rfl, rfl⟩ := exists_of_run_eq_ok h
  refine ⟨p, r₁, hready.policy, fun result hresult => ?_⟩
  obtain ⟨a, ha, rfl⟩ := List.mem_map.1 hresult
  obtain ⟨houtcomes, halike, hbatch₁⟩ := hready.batch hs hr hprocess
  have hworked := change_of_processed hs hready hprocess
  have hbatch := hbatch₁.of_alike halike (hr.of_change hworked)
  have hwritten := change_of_writeAll hs hwrite
  have hcwd : r₂.tree.cwd = r.tree.cwd := hworked.tree.cwd
  have hsinks : r₂.sinks = r.sinks := hworked.sinks
  -- the work on the asset, in the tree as it was when its name was found
  have hmem : Except.ok a ∈ names.map (outcomeIn s p r₁) := by
    rw [houtcomes]
    exact List.mem_map_of_mem ha
  obtain ⟨name, -, houtcome⟩ := List.mem_map.1 hmem
  -- what the asset is read from stays until the end
  obtain ⟨hsome, hsource⟩ := hbatch.source_isSome ha
  obtain ⟨bytes, hbytes⟩ := Option.isSome_iff_exists.1 hsome
  have hread : r₃.tree.fileAt? ((s.source a).resolve r₂.tree.cwd) = some bytes := by
    rw [hbatch.source_kept hs (hcwd ▸ hplace) (List.Subset.refl assets) hwrite ha, hbytes]
  have hend := change_closing (resultOf s duration assets) r₃
  have hendCwd : (closing (resultOf s duration assets) r₃).2.tree.cwd = r₂.tree.cwd :=
    hend.tree.cwd.trans hwritten.tree.cwd
  have hdelivery : arriving s r₂.tree a
      = delivery s p (closing (resultOf s duration assets) r₃).2.tree a.result := by
    refine arriving_eq_delivery hs.input houtcome ?_ hbytes ?_
    · rw [← halike.tree.fileAt?_eq (halike.sinks ▸ halike.tree.cwd ▸ hsource),
        ← halike.tree.cwd, hbytes]
    · rw [fileAt?_closing hs hwrite _ (hendCwd ▸ hsource), hendCwd, hread]
  have hlogs : ∀ b ∈ assets, r₂.sinks.file ≠ some ((s.target b).resolve r₂.tree.cwd) := by
    intro b hb
    rw [hsinks, hcwd]
    exact hlog _ (List.mem_map_of_mem hb)
  rw [← hcwd]
  rcases arrives_of_writeAll hs hbatch (hcwd ▸ hplace) hlogs hwrite ha with
    ⟨htext, hdir⟩ | ⟨harrives, htarget⟩
  · have hgrows := growing_of_onlyLogs (onlyLogs_closing (resultOf s duration assets)) r₃
      (hwritten.logReady hbatch.sound.logReady)
    refine Or.inl ⟨fun hstatus => ?_, hgrows.tree.directories _ hdir⟩
    rcases of_processAsset_eq_ok houtcome with ⟨-, hne⟩ | ⟨_, _, _, -, -, -, hsome, -⟩
    · exact hne hstatus
    · rw [htext] at hsome
      cases hsome
  · obtain ⟨new, hnew⟩ := Option.isSome_iff_exists.1 harrives
    refine Or.inr ⟨new, hdelivery ▸ hnew, ?_⟩
    rw [fileAt?_closing hs hwrite _ (hlogs a ha), htarget, hnew]

/-! ### Two assets over those of an earlier build -/

/-- What an earlier build has left: other files in the places of the assets, and one more. -/
def staleEntries : List (Location × Entry) := [
  ([['o']], .directory), ([['o'], ['d']], .directory), ([['o'], ['d'], ['y']], .file [48]),
  ([['o'], ['x']], .file [49]), ([['o'], ['z']], .file [50])]

/-- A run on the two assets over what was left. -/
def staleRun : Run where
  tree := { mixedTree with entries := mixedTree.entries ++ staleEntries }

theorem prepared_staleRun :
    Prepared wording staleRun mixedPolicy mixedNames (loadPolicy wording staleRun).2 :=
  ⟨by decide +kernel, eq_of_outcome (by decide +kernel),
    (Settings.assetNames_of_pairwise (by decide) (by decide) (by decide +kernel)
      (by decide +kernel)).trans (by decide +kernel)⟩

/-- The new text of the asset that is rewritten and the bytes of the one that is not take the places
of what was there. -/
theorem assets_arrive_staleRun :
    ∃ p b r', run wording Schedule.backwards (.zero false) staleRun = (.ok b, r') ∧
      b.assets = mixedProcessed.map (·.result) ∧
      ∀ a ∈ b.assets, ∃ bytes, delivery wording p r'.tree a = some bytes ∧
        r'.tree.fileAt? ((Settings.assetPath wording.outputDir a.name).resolve []) = some bytes := by
  have hs : wording.Normal := ⟨by decide, by decide, nofun⟩
  have hr : staleRun.Sound wording := ⟨by decide +kernel, nofun, nofun⟩
  let done := processAll wording mixedPolicy Schedule.backwards mixedNames
    (begun wording mixedNames (loadPolicy wording staleRun).2)
  have hprocess : done.1 = .ok mixedProcessed := by decide +kernel
  have hwrite : (writeAll wording mixedProcessed done.2).1 = .ok () := by decide +kernel
  have hrun : run wording Schedule.backwards (.zero false) staleRun = _ :=
    run_of_written prepared_staleRun (eq_of_outcome hprocess) (eq_of_outcome hwrite)
  obtain ⟨p, -, -, harrive⟩ := assets_arrive hs hr (by decide) (fun _ _ => nofun) hrun
  have hfiles : ∀ a ∈ mixedProcessed.map (·.result),
      (closing (resultOf wording (.zero false) mixedProcessed)
        (writeAll wording mixedProcessed done.2).2).2.tree.entry?
          ((Settings.assetPath wording.outputDir a.name).resolve []) ≠ some .directory := by
    decide +kernel
  exact ⟨p, _, _, hrun, rfl, fun a ha =>
    (harrive a ha).resolve_left fun ⟨_, hdir⟩ => hfiles a ha hdir⟩

/-! ### One asset, and a directory in its place -/

/-- The run on the asset `h`, and a directory in the place where it is to be copied. -/
def oneAssetBlocked : Run where
  tree :=
    { entries := [([['i']], .directory), ([['i'], ['x']], .file [104]), ([['o']], .directory),
        ([['o'], ['x']], .directory)]
      cwd := [] }

/-- **A copy can go astray.**  Where a directory stands in the place of the asset, the build succeeds
without one. -/
theorem not_forall_assets_arrive :
    ¬ ∀ (doc : Settings.Document) (s : Settings) (schedule : Schedule) (duration : Binary64)
        (r r' r₁ : Run) (p : Policy) (b : BuildResult),
      Settings.ofDocument doc = .ok s → r.Sound s → r.sinks.file = none →
      ¬ s.inPlace r.tree.cwd → run s schedule duration r = (.ok b, r') →
      loadPolicy s r = (.ok p, r₁) →
      ∀ a ∈ b.assets, ∃ bytes, delivery s p r'.tree a = some bytes ∧
        r'.tree.fileAt? ((Settings.assetPath s.outputDir a.name).resolve r.tree.cwd)
          = some bytes := by
  intro harrive
  let doc : Settings.Document :=
    [(.text "build", .map [(.text "input_dir", .text "i"), (.text "output_dir", .text "o")])]
  have hsound : oneAssetBlocked.Sound (copying ['o']) := ⟨by decide, nofun, nofun⟩
  have hrun : (run (copying ['o']) .inOrder (.zero false) oneAssetBlocked).1
      = .ok (resultOf (copying ['o']) (.zero false) oneProcessed) := by decide +kernel
  obtain ⟨bytes, -, hbytes⟩ := harrive doc (copying ['o']) .inOrder (.zero false) oneAssetBlocked
    _ _ _ _ rfl hsound rfl (by decide) (eq_of_outcome hrun) rfl
    { name := Text.ofChars ['x'], status := .unchanged } List.mem_cons_self
  have hnone : (run (copying ['o']) .inOrder (.zero false) oneAssetBlocked).2.tree.fileAt?
      [['o'], ['x']] = none := by decide +kernel
  cases hnone.symm.trans hbytes

end Build
end Localize
