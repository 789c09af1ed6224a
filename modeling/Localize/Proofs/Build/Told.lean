import Localize.Proofs.Build.Accounts
import Localize.Proofs.Build.Arrival

/-!
# What a build tells people

Of the records of a run, some are for people (`Run.told`).  A build tells its story in them: what it
translates by, the assets it rewrites, the wordings that are missing, and that it is complete
(`story`).

Most steps are silent.  Where a build is not, the event comes after what it tells of: the table is
loaded, the file is written.  So a build that fails has told the story up to there, and the assets
it has told of are those that it had written (`told_of_run`).
-/

set_option autoImplicit false

namespace Localize

/-- What people have been told in a run so far. -/
def Run.told (r : Run) : List Record :=
  (r.trace.map (·.record)).filter fun x => x.level = Level.human

namespace Build

variable {α : Type} {s : Settings} {p : Policy} {schedule : Schedule} {duration : Binary64}
variable {r r' r₁ r₂ r₃ : Run} {names : List Text} {asset a : Processed} {assets : List Processed}

/-! ## The story -/

/-- The start of the story: what the build translates by. -/
def opening (s : Settings) (table : Option Table) : List Record :=
  match s.catalog.path, table with
  | some path, some table =>
    BuildEvent.catalogLoaded path.toText table.size ::
      (s.catalog.lookupDir.map fun directory =>
        BuildEvent.lookupWritten (Catalog.lookupTarget s.locale directory).toText).toList
  | _, _ => [BuildEvent.defaultPass s.locale]

/-- The story of a build with a result. -/
def story (s : Settings) (table : Option Table) (b : BuildResult) : List Record :=
  opening s table ++ b.rewritten.map BuildEvent.assetRewritten
    ++ b.warnings.map BuildEvent.missing ++ [BuildEvent.complete b]

/-- The table of a build that starts from a run: what its catalog is loaded into. -/
def Loads (s : Settings) (r : Run) (table : Option Table) : Prop :=
  match s.catalog.path with
  | none => table = none
  | some path => ∃ found r', loadTable s.locale path s.catalog.includeFuzzy r = (.ok found, r') ∧
      table = some found

theorem opening_of_catalog {path : Path} (h : s.catalog.path = some path) (table : Table) :
    opening s (some table) = BuildEvent.catalogLoaded path.toText table.size ::
      (s.catalog.lookupDir.map fun directory =>
        BuildEvent.lookupWritten (Catalog.lookupTarget s.locale directory).toText).toList := by
  unfold opening
  rw [h]

theorem loads_of_catalog {path : Path} (h : s.catalog.path = some path) {table : Table}
    (hload : loadTable s.locale path s.catalog.includeFuzzy r = (.ok table, r')) :
    Loads s r (some table) := by
  rw [Loads, h]
  exact ⟨table, r', hload, rfl⟩

/-! ## Silent steps -/

/-- A record is told if it is for people. -/
theorem told_logTo (known : Bool) (x : Record) (r : Run) :
    (logTo known x r).told = r.told ++ if x.level = Level.human then [x] else [] := by
  rw [Run.told, Run.told, logTo]
  dsimp only
  rw [List.map_append, List.filter_append, List.map_singleton]
  by_cases h : x.level = Level.human <;> simp [h]

/-- A record for people is told. -/
theorem told_logTo_of_human (known : Bool) {x : Record} (h : x.level = Level.human) (r : Run) :
    (logTo known x r).told = r.told ++ [x] := by rw [told_logTo, if_pos h]

/-- Any other is not. -/
theorem told_logTo_of_not_human (known : Bool) {x : Record} (h : x.level ≠ Level.human) (r : Run) :
    (logTo known x r).told = r.told := by rw [told_logTo, if_neg h, List.append_nil]

/-- Whatever comes of the computation, people are told nothing. -/
def Silent (m : Build α) : Prop := ∀ r, (m r).2.told = r.told

/-- **Silent steps, one after the other, are silent.** -/
theorem sequential_silent : Sequential Silent := by
  have hseq : Sequential fun m => ∀ r : Run, True → (m r).2.told = r.told :=
    sequential_of_trans (R := fun r r' => r'.told = r.told) (fun _ _ => rfl)
      (fun h h' => h'.trans h) fun h _ => h
  show Sequential fun m => ∀ r : Run, (m r).2.told = r.told
  simpa only [true_imp_iff] using hseq

/-- Logging is silent, unless it is for people. -/
theorem silent_logTo (known : Bool) {x : Record} (h : x.level ≠ Level.human) :
    Silent (modify (logTo known x) : Build Unit) := fun r => told_logTo_of_not_human known h r

theorem silent_log {x : Record} (h : x.level ≠ Level.human) : Silent (log x) := silent_logTo true h

theorem silent_change (wrap : FileError → BuildError) (f : Tree → Except FileError Tree) :
    Silent (change wrap f) := by
  intro r
  rw [Run.told, Run.told, (trace_change wrap f r).1]

theorem silent_makeDirectories (wrap : FileError → BuildError) (path : Path) :
    Silent (makeDirectories wrap path) := by
  intro r
  rw [Run.told, Run.told, (trace_makeDirectories wrap path r).1]

theorem silent_loadTable (locale : Text) (path : Path) (includeFuzzy : Bool) :
    Silent (loadTable locale path includeFuzzy) :=
  sequential_silent.loadTable (fun _ _ => silent_log) locale path includeFuzzy

theorem silent_writeTable (locale : Text) (table : Table) (directory : Path) :
    Silent (writeTable locale table directory) :=
  sequential_silent.writeTable (fun _ _ => silent_log)
    (fun wrap => silent_makeDirectories wrap directory) (fun wrap _ => silent_change wrap _) table

/-- **While assets are worked on, people are told nothing**, whoever works on them. -/
theorem silent_processAll (s : Settings) (p : Policy) (schedule : Schedule) (names : List Text) :
    Silent (processAll s p schedule names) := by
  refine sequential_silent.processAll (fun known x hx => silent_logTo known ?_) s p schedule names
  rw [hx.level]
  exact debug_ne_human

theorem told_of_processAll {out : Except BuildError (List Processed)}
    (h : processAll s p schedule names r = (out, r')) : r'.told = r.told := by
  have hsilent := silent_processAll s p schedule names r
  rwa [h] at hsilent

/-! ## The opening -/

/-- The table is written to the file that goes with its locale. -/
theorem of_writeTable_eq_ok {locale : Text} {table : Table} {directory target : Path}
    (h : writeTable locale table directory r = (.ok target, r')) :
    target = Catalog.lookupTarget locale directory := by
  obtain ⟨_, _, -, hrest⟩ := of_bind_eq_ok h
  obtain ⟨_, _, -, hlast⟩ := of_bind_eq_ok hrest
  exact (Except.ok.inj (Prod.mk.inj hlast).1).symm

/-- **Getting the table tells the opening of the story**, or a part of it if it fails. -/
theorem told_loadPolicy (s : Settings) (r : Run) :
    ∃ table xs, (loadPolicy s r).2.told = r.told ++ xs ∧ xs <+: opening s table ∧
      (xs ≠ [] → Loads s r table) ∧
      ∀ p, (loadPolicy s r).1 = .ok p → p.table = table ∧ xs = opening s table := by
  rw [loadPolicy_apply]
  cases hcatalog : s.catalog.path with
  | none =>
    refine ⟨none, opening s none, ?_, List.prefix_rfl, fun _ => ?_, fun p hp => ?_⟩
    · unfold opening
      rw [hcatalog]
      exact told_logTo_of_human true rfl r
    · unfold Loads
      rw [hcatalog]
    · cases hp
      exact ⟨rfl, rfl⟩
  | some path =>
    dsimp only
    have hsilent := silent_loadTable s.locale path s.catalog.includeFuzzy r
    rcases hload : loadTable s.locale path s.catalog.includeFuzzy r with ⟨e | table, r₁⟩
    all_goals
      rw [hload] at hsilent
      dsimp only at hsilent ⊢
    · exact ⟨none, [], hsilent.trans (List.append_nil _).symm, List.nil_prefix, absurd rfl, nofun⟩
    have hloads := loads_of_catalog hcatalog hload
    have hfirst : (logTo true (BuildEvent.catalogLoaded path.toText table.size) r₁).told
        = r.told ++ [BuildEvent.catalogLoaded path.toText table.size] := by
      rw [told_logTo_of_human true rfl, hsilent]
    have hopening := opening_of_catalog hcatalog table
    cases hdir : s.catalog.lookupDir with
    | none =>
      rw [hdir] at hopening
      refine ⟨some table, _, hopening ▸ hfirst, List.prefix_rfl, fun _ => hloads, fun p hp => ?_⟩
      cases hp
      exact ⟨rfl, rfl⟩
    | some directory =>
      rw [hdir] at hopening
      dsimp only
      have hquiet := silent_writeTable s.locale table directory
        (logTo true (BuildEvent.catalogLoaded path.toText table.size) r₁)
      rcases hwrite : writeTable s.locale table directory
          (logTo true (BuildEvent.catalogLoaded path.toText table.size) r₁) with ⟨e | target, r₂⟩
      all_goals
        rw [hwrite] at hquiet
        dsimp only at hquiet ⊢
      · refine ⟨some table, _, hquiet.trans hfirst, ?_, fun _ => hloads, nofun⟩
        rw [hopening]
        exact List.cons_prefix_cons.2 ⟨rfl, List.nil_prefix⟩
      · refine ⟨some table, opening s (some table), ?_, List.prefix_rfl, fun _ => hloads,
          fun p hp => ?_⟩
        · rw [told_logTo_of_human true rfl, hquiet, hfirst, of_writeTable_eq_ok hwrite,
            List.append_assoc, hopening]
          rfl
        · cases hp
          exact ⟨rfl, rfl⟩

/-- **A build that begins to work has told the opening.** -/
theorem Prepared.told (h : Prepared s r p names r₁) :
    Loads s r p.table ∧ (begun s names r₁).told = r.told ++ opening s p.table := by
  obtain ⟨table, xs, htold, -, hloads, hok⟩ := told_loadPolicy s r
  rw [h.policy] at htold hok
  obtain ⟨htable, hxs⟩ := hok p rfl
  rw [htable]
  refine ⟨hloads ?_, ?_⟩
  · rw [hxs]
    unfold opening
    split <;> exact List.cons_ne_nil _ _
  · rw [begun, told_logTo_of_not_human true info_ne_human, ← hxs]
    exact htold

/-! ## The assets -/

/-- What is told of assets that were written: those with a new text, in their order. -/
def rewritings (assets : List Processed) : List Record :=
  (assets.filter (·.text.isSome)).map fun a => BuildEvent.assetRewritten a.result

/-- **An asset is told of when its new text has been written.** -/
theorem told_of_write_eq_ok (h : write s asset r = (.ok (), r')) :
    r'.told = r.told ++ rewritings [asset] := by
  have hwritten := written_of_write s asset r
  rw [h] at hwritten
  dsimp only at hwritten
  generalize hout : (Except.ok () : Except BuildError Unit) = out at hwritten
  cases hwritten with
  | noDirectory | unencodable | unwritten | uncopied => cases hout
  | there htext => simp [rewritings, htext]
  | copied htext => simp [rewritings, htext, Run.told]
  | written htext =>
    rw [told_logTo_of_human true rfl]
    simp [rewritings, htext, Run.told]

theorem told_of_write_eq_error {e : BuildError} (h : write s asset r = (.error e, r')) :
    r'.told = r.told := by
  have hwritten := written_of_write s asset r
  rw [h] at hwritten
  generalize hout : (Except.error e : Except BuildError Unit) = out at hwritten
  cases hwritten with
  | there | written | copied => cases hout
  | noDirectory | unencodable | unwritten | uncopied => rfl

/-- **Writing assets tells of those with a new text**, in their order. -/
theorem told_of_writeAll_eq_ok (h : writeAll s assets r = (.ok (), r')) :
    r'.told = r.told ++ rewritings assets := by
  induction assets generalizing r with
  | nil =>
    cases h
    exact (List.append_nil _).symm
  | cons asset assets ih =>
    obtain ⟨_, r₁, hwrite, hrest⟩ := of_bind_eq_ok h
    rw [ih hrest, told_of_write_eq_ok hwrite, List.append_assoc, rewritings, rewritings, rewritings,
      ← List.map_append, ← List.filter_append, List.singleton_append]

/-- Assets have new texts if they were rewritten. -/
theorem rewritings_eq (h : processAll s p schedule names r = (.ok assets, r'))
    (duration : Binary64) :
    rewritings assets = (resultOf s duration assets).rewritten.map BuildEvent.assetRewritten := by
  have hsame : ∀ a ∈ assets, a.text.isSome = decide (a.result.status = .rewritten) := by
    intro a ha
    obtain ⟨t, -, houtcome⟩ := (of_processAll_eq_ok h).2 a ha
    rcases of_processAsset_eq_ok houtcome with ⟨htext, hstatus⟩ |
      ⟨_, _, _, -, -, -, htext, hstatus, -⟩
    · simp [htext, hstatus]
    · simp [htext, hstatus]
  rw [rewritings, List.filter_congr hsame, BuildResult.rewritten, resultOf, List.filter_map,
    List.map_map]
  rfl

/-! ## The end -/

theorem told_logAll {xs : List Record} (h : ∀ x ∈ xs, x.level = Level.human) (r : Run) :
    (logAll xs r).2.told = r.told ++ xs := by
  induction xs generalizing r with
  | nil => exact (List.append_nil _).symm
  | cons x xs ih =>
    rw [logAll, bind_apply, log_apply]
    dsimp only
    rw [ih fun y hy => h y (List.mem_cons_of_mem _ hy),
      told_logTo_of_human true (h x List.mem_cons_self), List.append_assoc, List.singleton_append]

/-- **The end of a build tells what is missing**, and that it is complete. -/
theorem told_closing (b : BuildResult) (r : Run) :
    (closing b r).2.told
      = r.told ++ b.warnings.map BuildEvent.missing ++ [BuildEvent.complete b] := by
  have hmissing : ∀ x ∈ b.warnings.map BuildEvent.missing, x.level = Level.human := by
    intro x hx
    obtain ⟨_, -, rfl⟩ := List.mem_map.1 hx
    rfl
  have hfinished : (BuildEvent.finished b).level ≠ Level.human := info_ne_human
  rw [closing_apply]
  dsimp only
  rw [told_logTo_of_not_human true hfinished, told_logTo_of_human true rfl, told_logAll hmissing]

/-! ## Whole builds -/

/-- A record says that an asset was rewritten. -/
def isRewriting (x : Record) : Bool :=
  match x.content with
  | .event (.text name) _ => name = ("asset.rewritten" : Text)
  | _ => false

theorem filter_opening (s : Settings) (table : Option Table) :
    (opening s table).filter isRewriting = [] := by
  unfold opening
  split
  · cases s.catalog.lookupDir <;> rfl
  · rfl

/-- In a part of the opening no asset is told of. -/
theorem filter_of_prefix_opening {table : Option Table} {xs : List Record}
    (h : xs <+: opening s table) : xs.filter isRewriting = [] := by
  have hfilter := h.filter isRewriting
  rw [filter_opening] at hfilter
  exact List.prefix_nil.1 hfilter

theorem filter_rewritings (assets : List Processed) :
    (rewritings assets).filter isRewriting = rewritings assets := by
  refine List.filter_eq_self.2 fun x hx => ?_
  obtain ⟨a, -, rfl⟩ := List.mem_map.1 hx
  rfl

/-- Since a run, the new texts of some of the assets have come to their places, and nothing has come
to where the others are to be.  The place of the log is left out. -/
structure Stands (s : Settings) (r r' : Run) (assets done : List Processed) : Prop where
  texts : ∀ a ∈ done, ∀ text, a.text = some text →
    r.sinks.file ≠ some ((s.target a).resolve r.tree.cwd) →
    ∃ bytes, Utf8.encode text = .ok bytes ∧
      r'.tree.fileAt? ((s.target a).resolve r.tree.cwd) = some bytes
  others : ∀ a ∈ assets, a ∉ done → r.sinks.file ≠ some ((s.target a).resolve r.tree.cwd) →
    r'.tree.fileAt? ((s.target a).resolve r.tree.cwd)
      = r.tree.fileAt? ((s.target a).resolve r.tree.cwd)

/-- **Where the writing of assets fails, those before it stand**, and no other does. -/
theorem Batch.stands {done rest : List Processed} {e : BuildError} (hs : s.Normal)
    (h : Batch s r (done ++ asset :: rest)) (hdone : writeAll s done r = (.ok (), r₁))
    (hfailed : write s asset r₁ = (.error e, r')) :
    Stands s r r' (done ++ asset :: rest) done := by
  have hkept := files_of_write_eq_error hs hfailed
  have hsub : done ⊆ done ++ asset :: rest := List.subset_append_left _ _
  have hnodup := h.nodup
  rw [List.map_append, List.nodup_append] at hnodup
  refine ⟨fun a ha text htext hlog => ?_, fun a ha hother hlog => ?_⟩
  · -- the assets after it leave its place alone
    obtain ⟨before, after, rfl⟩ := List.append_of_mem ha
    obtain ⟨u, v, hbefore, hwrite, hafter⟩ := exists_of_writeAll_append_cons hdone
    have hfirst := change_of_writeAll hs hbefore
    have hself := change_of_write hs hwrite
    have hcwd : v.tree.cwd = r.tree.cwd := hself.tree.cwd.trans hfirst.tree.cwd
    have hsinks : v.sinks = r.sinks := hself.sinks.trans hfirst.sinks
    have hapart : ∀ b ∈ after, a.result.name ≠ b.result.name := by
      have hinner := hnodup.1
      rw [List.map_append, List.map_cons, List.nodup_append, List.nodup_cons] at hinner
      exact fun b hb heq => hinner.2.1.1 (heq ▸ List.mem_map.2 ⟨b, hb, rfl⟩)
    rw [← hfirst.sinks, ← hfirst.tree.cwd] at hlog
    obtain ⟨bytes, hencode, hbytes⟩ := of_write_text hs htext hlog hwrite
    rw [hfirst.tree.cwd, hfirst.sinks] at hlog
    rw [hfirst.tree.cwd] at hbytes
    refine ⟨bytes, hencode, ?_⟩
    rw [hkept, h.target_kept hs (hsub ha) (fun b hb => hsub ?_) hapart hcwd (hsinks ▸ hlog) hafter,
      hbytes]
    exact List.mem_append_right _ (List.mem_cons_of_mem _ hb)
  · have hapart : ∀ b ∈ done, a.result.name ≠ b.result.name := by
      intro b hb heq
      have ha' : a ∈ asset :: rest := (List.mem_append.1 ha).resolve_left hother
      exact hnodup.2.2 _ (List.mem_map_of_mem hb) _ (List.mem_map_of_mem ha') heq.symm
    rw [hkept, h.target_kept hs ha hsub hapart rfl hlog hdone]

/-- Where a build stops that fails: the assets that it was to write, and those that it had written.
-/
inductive Stops (s : Settings) (schedule : Schedule) (r : Run) :
    List Processed → List Processed → Run → Prop
  /-- It had not come to its assets, and had changed no file but the log and that of the table. -/
  | before {r' : Run} (hkept : s.Normal → r.Change (fun _ => True)
      (fun q => r.sinks.file = some q ∨ s.lookupPlace? r.tree.cwd = some q) r') :
      Stops s schedule r [] [] r'
  /-- It failed to write an asset, and those before it are written. -/
  | among {p : Policy} {names : List Text} {done rest : List Processed} {asset : Processed}
      {e : BuildError} {r₁ r₂ r₃ r' : Run} (hready : Prepared s r p names r₁)
      (hprocess : processAll s p schedule names (begun s names r₁)
        = (.ok (done ++ asset :: rest), r₂))
      (hdone : writeAll s done r₂ = (.ok (), r₃)) (hfailed : write s asset r₃ = (.error e, r'))
      (hstands : s.Normal → r.Sound s → Stands s r₂ r' (done ++ asset :: rest) done) :
      Stops s schedule r (done ++ asset :: rest) done r'

/-- **What a build tells people is true.**  One that comes to its end has told its story, with the
table that its catalog is loaded into and with what is counted in its assets.  One that fails has
told a part of such a story, from the beginning, and the assets it has told of are those whose new
texts it had written. -/
theorem told_of_run (s : Settings) (schedule : Schedule) (duration : Binary64) (r : Run) :
    (∀ b r', run s schedule duration r = (.ok b, r') →
      ∃ p names r₁, Prepared s r p names r₁ ∧ Loads s r p.table ∧ b.Accounted s p names r₁ ∧
        r'.told = r.told ++ story s p.table b) ∧
    ∀ e r', run s schedule duration r = (.error e, r') →
      ∃ table assets done xs, r'.told = r.told ++ xs ∧ (xs ≠ [] → Loads s r table) ∧
        xs <+: story s table (resultOf s duration assets) ∧
        xs.filter isRewriting = rewritings done ∧ Stops s schedule r assets done r' := by
  refine ⟨fun b r' h => ?_, fun e r' h => ?_⟩
  · obtain ⟨p, names, assets, r₁, r₂, r₃, hready, hprocess, hwrite, rfl, rfl⟩ :=
      exists_of_run_eq_ok h
    obtain ⟨hloads, hopening⟩ := hready.told
    refine ⟨p, names, r₁, hready, hloads, accounted_of_processAll hprocess, ?_⟩
    rw [told_closing, told_of_writeAll_eq_ok hwrite, rewritings_eq hprocess duration,
      told_of_processAll hprocess, hopening, story]
    simp only [List.append_assoc]
  · have hcourse := course s schedule duration r
    rw [h] at hcourse
    dsimp only at hcourse
    generalize hout : (Except.error e : Except BuildError BuildResult) = out at hcourse
    have hstory : ∀ table b, opening s table <+: story s table b := fun table b => by
      rw [story, List.append_assoc, List.append_assoc]
      exact List.prefix_append _ _
    cases hcourse with
    | finished => cases hout
    | unasked | noInput =>
      exact ⟨none, [], [], [], (List.append_nil _).symm, absurd rfl, List.nil_prefix, rfl,
        .before fun _ => .refl r⟩
    | noPolicy _ hpolicy | noNames _ hpolicy =>
      obtain ⟨table, xs, htold, hprefix, hloads, -⟩ := told_loadPolicy s r
      rw [hpolicy] at htold
      exact ⟨table, [], [], xs, htold, hloads, hprefix.trans (hstory table _),
        filter_of_prefix_opening hprefix, .before fun hs => change_of_loadPolicy hs hpolicy⟩
    | unprocessed hready hprocess =>
      obtain ⟨hloads, hopening⟩ := hready.told
      refine ⟨_, [], [], _, (told_of_processAll hprocess).trans hopening, fun _ => hloads,
        hstory _ _, filter_opening s _, .before fun hs => ?_⟩
      exact change_of_processed hs hready hprocess
    | @unwritten p _ _ _ _ _ _ hready hprocess hwrite =>
      cases hout
      obtain ⟨hloads, hopening⟩ := hready.told
      obtain ⟨done, failed, rest, r₃, rfl, hdone, hfailed⟩ := exists_of_writeAll_eq_error hwrite
      refine ⟨p.table, _, done, opening s p.table ++ rewritings done, ?_, fun _ => hloads, ?_, ?_,
        .among hready hprocess hdone hfailed fun hs hr => ?_⟩
      · rw [told_of_write_eq_error hfailed, told_of_writeAll_eq_ok hdone,
          told_of_processAll hprocess, hopening, List.append_assoc]
      · rw [story, ← rewritings_eq hprocess duration, rewritings, rewritings, List.filter_append,
          List.map_append]
        simp only [List.append_assoc]
        exact (List.prefix_append_right_inj _).2 (List.prefix_append _ _)
      · rw [List.filter_append, filter_opening, filter_rewritings, List.nil_append]
      · obtain ⟨-, halike, hbatch⟩ := hready.batch hs hr hprocess
        have hr₂ := hr.of_change (change_of_processed hs hready hprocess)
        exact (hbatch.of_alike halike hr₂).stands hs hdone hfailed

/-! ### A build that copies, and one that stops at its second asset -/

theorem told_of_run_halfRun :
    (∃ p r', run (copying ['o']) .inOrder (.zero false) oneAsset
        = (.ok (resultOf (copying ['o']) (.zero false) oneProcessed), r') ∧
      r'.told = story (copying ['o']) p (resultOf (copying ['o']) (.zero false) oneProcessed)) ∧
    ∃ r', run translating .inOrder (.zero false) halfRun
        = (.error (.unencodable ⟨0, ⟨0xD83D, by decide⟩, 1⟩), r') ∧ r'.told.length = 2 ∧
      ∃ table assets done, Loads translating halfRun table ∧
        r'.told <+: story translating table (resultOf translating (.zero false) assets) ∧
        r'.told.filter isRewriting = rewritings done ∧ (rewritings done).length = 1 ∧
        Stops translating .inOrder halfRun assets done r' := by
  constructor
  · have hrun : (run (copying ['o']) .inOrder (.zero false) oneAsset).1
        = .ok (resultOf (copying ['o']) (.zero false) oneProcessed) := by decide +kernel
    obtain ⟨hends, -⟩ := told_of_run (copying ['o']) .inOrder (.zero false) oneAsset
    obtain ⟨p, -, -, -, -, -, htold⟩ := hends _ _ (eq_of_outcome hrun)
    exact ⟨p.table, _, eq_of_outcome hrun, htold⟩
  · let r' : Run := (writeAll translating halfProcessed halfWorked).2
    have hlength : r'.told.length = 2 := by decide +kernel
    have hone : (r'.told.filter isRewriting).length = 1 := by decide +kernel
    obtain ⟨-, hfails⟩ := told_of_run translating .inOrder (.zero false) halfRun
    obtain ⟨table, assets, done, xs, htold, hloads, hprefix, hdone, hstops⟩ :=
      hfails _ _ run_halfRun
    obtain rfl : r'.told = xs := htold
    refine ⟨r', run_halfRun, hlength, table, assets, done, hloads fun hnil => ?_, hprefix,
      hdone, hdone ▸ hone, hstops⟩
    rw [hnil] at hlength
    cases hlength

end Build
end Localize
