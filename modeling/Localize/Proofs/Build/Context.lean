import Localize.Proofs.Build.Reach
import Localize.Proofs.Log.Entry

/-!
# What the records of a build know of it

What is known of a run comes with each record that is logged where it is known.  The work that
several workers share is done where it is not (`logs_processAll`).  All other steps of a build log
with what is known of the run, and from the steps it goes through the whole build (`since_run`): its
records come in three parts, those before the work on the assets, those of that work, and those
after it.

`Run.Since` says what was logged on the way from one run to another.  If no file that the build
writes is its log file, then that file has grown by the lines of these records, and by nothing else.
-/

set_option autoImplicit false

namespace Localize

/-! ## What was logged since -/

/-- What a record that was logged adds to the log file. -/
def Run.line? (r : Run) (l : Logged) : Option Text :=
  (({ r.sinks with context := l.context } : Sinks).write r.time l.record).2

/-- The record that was logged is written to the log file, and the fields that are written are
such. -/
def Run.Writes (r : Run) (l : Logged) (such : Arguments → Prop) : Prop :=
  ({ r.sinks with context := l.context } : Sinks).Writes r.time l.record such

/-- What records that were logged add to the log file. -/
def Run.linesOf (r : Run) (xs : List Logged) : Bytes :=
  xs.flatMap fun l => ((r.line? l).map Utf8.encodeLossy).getD []

/-- The log file is there, in a tree that is as it should be, and it is no file that the build
writes. -/
structure Run.LogAside (r : Run) (s : Settings) : Prop where
  wellFormed : r.tree.WellFormed
  logReady : r.LogReady
  lookup : ∀ place, r.sinks.file = some place → s.lookupPlace? r.tree.cwd ≠ some place
  output : ∀ place, r.sinks.file = some place → ¬ s.outputDir.resolve r.tree.cwd <+: place

/-- What has been logged in a run since another.  If nothing but records goes to the log file, it
has their lines added to it. -/
structure Run.Since (aside : Prop) (r r' : Run) (xs : List Logged) : Prop where
  trace : r'.trace = r.trace ++ xs
  sinks : r'.sinks = r.sinks
  time : r'.time = r.time
  cwd : r'.tree.cwd = r.tree.cwd
  file : aside → ∀ place old, r.sinks.file = some place → r.tree.fileAt? place = some old →
    r'.tree.fileAt? place = some (old ++ r.linesOf xs)

namespace Run.Since

variable {aside : Prop} {r r' r'' : Run} {xs ys : List Logged}

theorem refl (r : Run) : r.Since aside r [] where
  trace := (List.append_nil _).symm
  sinks := rfl
  time := rfl
  cwd := rfl
  file _ place old _ hold := by
    rw [hold]
    exact congrArg some (List.append_nil old).symm

theorem trans (h : r.Since aside r' xs) (h' : r'.Since aside r'' ys) :
    r.Since aside r'' (xs ++ ys) where
  trace := by rw [h'.trace, h.trace, List.append_assoc]
  sinks := h'.sinks.trans h.sinks
  time := h'.time.trans h.time
  cwd := h'.cwd.trans h.cwd
  file haside place old hplace hold := by
    have hlines : r'.linesOf ys = r.linesOf ys := by
      simp only [linesOf, line?, h.sinks, h.time]
    rw [h'.file haside place _ (h.sinks ▸ hplace) (h.file haside place old hplace hold), hlines,
      List.append_assoc]
    exact congrArg (fun bytes => some (old ++ bytes)) (List.flatMap_append).symm

end Run.Since

namespace Build

variable {α : Type} {aside : Prop} {r r' : Run}

/-- What is known where a record is logged. -/
def contextOf (known : Bool) (sinks : Sinks) : Arguments := if known then sinks.context else []

/-- What a record that is logged does to the tree. -/
theorem tree_logTo_eq (known : Bool) (x : Record) (r : Run) :
    (logTo known x r).tree =
      match r.sinks.file, r.line? ⟨x, contextOf known r.sinks⟩ with
      | some place, some line => r.tree.append place (Utf8.encodeLossy line)
      | _, _ => r.tree := by
  have hemit : (logTo known x r).tree
      = (({ r.sinks with context := contextOf known r.sinks } : Sinks).emit r.time x r.tree).2 := by
    cases known <;> rfl
  rw [hemit, Sinks.emit, Run.line?]
  rcases ({ r.sinks with context := contextOf known r.sinks } : Sinks).write r.time x with
    ⟨shown, added⟩
  cases hfile : r.sinks.file with
  | none => cases added <;> rfl
  | some place => cases added <;> rfl

/-- **A record that is logged** comes at the end, and its line comes to the log file. -/
theorem since_logTo (aside : Prop) (known : Bool) (x : Record) (r : Run) :
    r.Since aside (logTo known x r) [⟨x, contextOf known r.sinks⟩] := by
  have hfile : ∀ place old, r.sinks.file = some place → r.tree.fileAt? place = some old →
      (logTo known x r).tree.fileAt? place
        = some (old ++ r.linesOf [⟨x, contextOf known r.sinks⟩]) := by
    intro place old hplace hold
    rw [tree_logTo_eq, hplace, Run.linesOf, List.flatMap_singleton]
    cases r.line? ⟨x, contextOf known r.sinks⟩ with
    | none => exact hold.trans (congrArg some (List.append_nil old).symm)
    | some line => exact Tree.fileAt?_append hold _
  have hcwd : (logTo known x r).tree.cwd = r.tree.cwd := by
    rcases tree_logTo known x r with hsame | ⟨place, bytes, -, happend⟩
    · rw [hsame]
    · rw [happend]
      exact (Tree.change_append r.tree place bytes).cwd
  cases known with
  | true => exact ⟨rfl, rfl, rfl, hcwd, fun _ => hfile⟩
  | false => exact ⟨rfl, rfl, rfl, hcwd, fun _ => hfile⟩

/-! ## Steps that log -/

/-- Whatever comes of the computation in a run with these sinks and this working directory, all that
it logs is such. -/
def Logs (sinks : Sinks) (cwd : Location) (aside : Prop) (such : Logged → Prop) (m : Build α) :
    Prop :=
  ∀ r : Run, r.sinks = sinks ∧ r.tree.cwd = cwd →
    ∃ xs, r.Since aside (m r).2 xs ∧ ∀ l ∈ xs, such l

variable {sinks : Sinks} {cwd : Location} {such : Logged → Prop}

/-- **Steps that log, one after the other, log what each of them does.** -/
theorem sequential_logs : Sequential (Logs sinks cwd aside such) := by
  refine sequential_of_trans (I := fun r : Run => r.sinks = sinks ∧ r.tree.cwd = cwd)
    (R := fun r r' => ∃ xs, r.Since aside r' xs ∧ ∀ l ∈ xs, such l)
    (fun r _ => ⟨[], .refl r, nofun⟩) ?_ ?_
  · rintro r r' r'' ⟨xs, hxs, hsuch⟩ ⟨ys, hys, hsuch'⟩
    refine ⟨xs ++ ys, hxs.trans hys, fun l hl => ?_⟩
    exact (List.mem_append.1 hl).elim (hsuch l) (hsuch' l)
  · rintro r r' ⟨hsinks, hcwd⟩ ⟨xs, hxs, -⟩
    exact ⟨hxs.sinks.trans hsinks, hxs.cwd.trans hcwd⟩

theorem logs_logTo (known : Bool) {x : Record} (h : such ⟨x, contextOf known sinks⟩) :
    Logs sinks cwd aside such (modify (logTo known x) : Build Unit) := by
  rintro r ⟨rfl, -⟩
  refine ⟨_, since_logTo aside known x r, fun l hl => ?_⟩
  rw [List.mem_singleton.1 hl]
  exact h

theorem logs_log {x : Record} (h : such ⟨x, sinks.context⟩) : Logs sinks cwd aside such (log x) :=
  logs_logTo true h

/-- A step that logs nothing, and lets the log file alone as far as that is asked for. -/
theorem logs_of_confined (written : Location → Prop) {m : Build α}
    (hsilent : ∀ r, (m r).2.trace = r.trace ∧ (m r).2.time = r.time)
    (h : Confined cwd sinks.file (fun _ => True) written m)
    (haside : aside → ∀ place, sinks.file = some place → ¬ written place) :
    Logs sinks cwd aside such m := by
  rintro r ⟨rfl, hcwd⟩
  have hchange := h r hcwd rfl
  obtain ⟨htrace, htime⟩ := hsilent r
  refine ⟨[], ⟨?_, hchange.sinks, htime, hchange.tree.cwd, ?_⟩, nofun⟩
  · rw [htrace, List.append_nil]
  · intro hhold place old hplace hold
    rw [hchange.tree.files place (haside hhold place hplace), hold]
    exact congrArg some (List.append_nil old).symm

theorem logs_makeDirectories (wrap : FileError → BuildError) {p : Path} (hp : p.Normal) :
    Logs sinks cwd aside such (makeDirectories wrap p) :=
  logs_of_confined Tree.nowhere (trace_makeDirectories wrap p)
    (confined_makeDirectories wrap hp fun _ _ => trivial) fun _ _ _ => id

theorem logs_writeFile (wrap : FileError → BuildError) {p : Path} (bytes : Bytes) (hp : p.Normal)
    (haside : aside → sinks.file ≠ some (p.resolve cwd)) :
    Logs sinks cwd aside such (change wrap (·.writeFile p bytes)) :=
  logs_of_confined (· = p.resolve cwd) (trace_change wrap _)
    (confined_change_writeFile wrap bytes hp rfl)
    fun hhold _ hplace hsame => haside hhold (hsame ▸ hplace)

/-! ## Phases -/

variable {s : Settings} {p : Policy} {names : List Text} {r₁ : Run} {schedule : Schedule}

/-- Getting the table logs with what is known of the run. -/
theorem logs_loadPolicy (hs : s.Normal) (hsuch : ∀ x, OfBuild x → such ⟨x, sinks.context⟩)
    (haside : aside → ∀ place, sinks.file = some place → s.lookupPlace? cwd ≠ some place) :
    Logs sinks cwd aside such (loadPolicy s) := by
  have hlog : ∀ x, OfBuild x → Logs sinks cwd aside such (log x) :=
    fun x hx => logs_log (hsuch x hx)
  refine sequential_logs.loadPolicy hlog fun path directory table hcatalog hdir => ?_
  have hdirectory := hs.lookup directory hdir
  have htarget : (Catalog.lookupTarget s.locale directory).Normal :=
    hdirectory.join (Path.normal_ofText _)
  have hplace : s.lookupPlace? cwd
      = some ((Catalog.lookupTarget s.locale directory).resolve cwd) := by
    rw [Settings.lookupPlace?, hcatalog, hdir]
  refine sequential_logs.writeTable (fun x hx _ => hlog x hx)
    (fun wrap => logs_makeDirectories wrap hdirectory)
    (fun wrap bytes => logs_writeFile wrap bytes htarget fun hhold hfile => ?_) table
  exact haside hhold _ hfile hplace

/-- Writing an asset logs with what is known of the run. -/
theorem logs_write (hs : s.Normal) (hsuch : ∀ x, OfBuild x → such ⟨x, sinks.context⟩)
    (asset : Processed)
    (haside : aside → ∀ place, sinks.file = some place → place ∉ s.landings cwd asset) :
    Logs sinks cwd aside such (write s asset) := by
  have htarget := Settings.normal_assetPath hs.output asset.result.name
  rw [Settings.landings] at haside
  cases htext : asset.text with
  | some t =>
    rw [htext] at haside
    rw [write_of_some htext]
    refine sequential_logs.bind (logs_makeDirectories _ htarget.parent) fun _ => ?_
    split
    · exact sequential_logs.throw _
    · refine sequential_logs.bind (logs_writeFile _ _ htarget fun hhold hfile => ?_) fun _ =>
        logs_log (hsuch _ (.assetRewritten _))
      exact haside hhold _ hfile List.mem_cons_self
  | none =>
    rw [htext] at haside
    rintro r ⟨hsinks, hcwd⟩
    rw [write_apply_of_none htext, hcwd]
    split
    · exact sequential_logs.pure () r ⟨hsinks, hcwd⟩
    · rename_i hplace
      dsimp only at haside
      rw [if_neg hplace] at haside
      refine sequential_logs.bind (logs_makeDirectories _ htarget.parent) (fun _ => ?_) r
        ⟨hsinks, hcwd⟩
      refine logs_of_confined (· ∈ _) (trace_change _ _) ?_ haside
      exact confined_change_copyFile _ htarget (Settings.normal_assetPath hs.input _)
        List.mem_cons_self (List.mem_cons_of_mem _ List.mem_cons_self)

/-- Work that one worker does, or that there is on one asset at most, logs with what is known of the
run.  Work that is shared logs without. -/
theorem logs_processAll (s : Settings) (p : Policy) (schedule : Schedule) (names : List Text) :
    Logs sinks cwd aside
      (fun l => BuildEvent.OfAsset l.record ∧
        l.context = contextOf (decide (s.build.workers = 1 ∨ names.length ≤ 1)) sinks)
      (processAll s p schedule names) := by
  rw [processAll]
  split
  · rename_i hone
    rw [decide_eq_true hone]
    exact sequential_logs.processInOrder (fun x hx => logs_logTo true ⟨hx, rfl⟩) s p names
  · rename_i hmany
    rw [decide_eq_false hmany]
    exact sequential_logs.processScheduled (fun x hx => logs_logTo false ⟨hx, rfl⟩) s p schedule
      names

/-! ## The run -/

/-- The work on the assets of the build is shared: there are several of them, and more than one
worker. -/
def Shares (s : Settings) (r : Run) : Prop :=
  ∃ p names r₁, Prepared s r p names r₁ ∧ ¬ (s.build.workers = 1 ∨ names.length ≤ 1)

/-- There is at most one way for a build to get as far as its assets. -/
theorem Prepared.shares_iff (h : Prepared s r p names r₁) :
    Shares s r ↔ ¬ (s.build.workers = 1 ∨ names.length ≤ 1) := by
  constructor
  · rintro ⟨p', names', r₁', h', hmany⟩
    have hpolicy := h.policy.symm.trans h'.policy
    cases hpolicy
    have hnames := h.names.symm.trans h'.names
    cases hnames
    exact hmany
  · exact fun hmany => ⟨p, names, r₁, h, hmany⟩

/-- The record of a build was logged with what is known of the run. -/
def KnowsRun (r : Run) (l : Logged) : Prop := OfBuild l.record ∧ l.context = r.sinks.context

/-- The record of the work on an asset was logged with what is known of the run, unless that work is
shared. -/
def KnowsRunUnlessShared (s : Settings) (r : Run) (l : Logged) : Prop :=
  BuildEvent.OfAsset l.record ∧ (Shares s r → l.context = []) ∧
    (¬ Shares s r → l.context = r.sinks.context)

theorem logs_start (hs : s.Normal) (r : Run) :
    Logs r.sinks r.tree.cwd (r.LogAside s) (KnowsRun r) (loadPolicy s) :=
  logs_loadPolicy hs (fun _ hx => ⟨hx, rfl⟩) fun haside => haside.lookup

/-- Up to the writing, a build logs its start, and then the work on its assets. -/
theorem Prepared.since (h : Prepared s r p names r₁) (hs : s.Normal)
    {out : Except BuildError (List Processed)} {r₂ : Run}
    (hprocess : processAll s p schedule names (begun s names r₁) = (out, r₂)) :
    ∃ before worked, r.Since (r.LogAside s) r₂ (before ++ worked) ∧
      (∀ l ∈ before, KnowsRun r l) ∧ ∀ l ∈ worked, KnowsRunUnlessShared s r l := by
  obtain ⟨first, hfirst, hknown⟩ := logs_start hs r r ⟨rfl, rfl⟩
  rw [h.policy] at hfirst
  have hbegun := since_logTo (r.LogAside s) true
    (BuildEvent.started s.locale names.length (s.inPlace r₁.tree.cwd)) r₁
  obtain ⟨worked, hworked, hsuch⟩ := logs_processAll s p schedule names (begun s names r₁)
    ⟨rfl, rfl⟩
  rw [hprocess] at hworked
  have hcontext : (begun s names r₁).sinks.context = r.sinks.context :=
    congrArg Sinks.context (hbegun.sinks.trans hfirst.sinks)
  refine ⟨first ++ [_], worked, (hfirst.trans hbegun).trans hworked, ?_, ?_⟩
  · intro l hl
    rcases List.mem_append.1 hl with hl | hl
    · exact hknown l hl
    · rw [List.mem_singleton.1 hl]
      exact ⟨.started _ _ _, congrArg Sinks.context hfirst.sinks⟩
  · intro l hl
    obtain ⟨hrecord, hl⟩ := hsuch l hl
    refine ⟨hrecord, fun hshares => ?_, fun hone => ?_⟩
    · rw [hl, decide_eq_false (h.shares_iff.1 hshares)]
      rfl
    · rw [h.shares_iff, Classical.not_not] at hone
      rw [hl, decide_eq_true hone]
      exact hcontext

/-- The writing logs with what is known of the run. -/
theorem since_writeAll (hs : s.Normal) {assets : List Processed} {r₂ r₃ : Run} {xs : List Logged}
    (hsince : r.Since aside r₂ xs)
    (haside : aside → ∀ asset ∈ assets, ∀ place, r.sinks.file = some place →
      place ∉ s.landings r.tree.cwd asset)
    {out : Except BuildError Unit} (hwrite : writeAll s assets r₂ = (out, r₃)) :
    ∃ after, r.Since aside r₃ (xs ++ after) ∧ ∀ l ∈ after, KnowsRun r l := by
  have hlogs : Logs r.sinks r.tree.cwd aside (KnowsRun r) (writeAll s assets) :=
    sequential_logs.writeAll fun asset hasset =>
      logs_write hs (fun _ hx => ⟨hx, rfl⟩) asset fun hhold => haside hhold asset hasset
  obtain ⟨after, hafter, hknown⟩ := hlogs r₂ ⟨hsince.sinks, hsince.cwd⟩
  rw [hwrite] at hafter
  exact ⟨after, hsince.trans hafter, hknown⟩

/-- The end of a build logs with what is known of the run. -/
theorem since_closing {result : BuildResult} {r₃ : Run} {xs : List Logged}
    (hsince : r.Since aside r₃ xs) (hclosing : closing result r₃ = (.ok result, r')) :
    ∃ after, r.Since aside r' (xs ++ after) ∧ ∀ l ∈ after, KnowsRun r l := by
  have hlogs : Logs r.sinks r.tree.cwd aside (KnowsRun r) (closing result) :=
    sequential_logs.closing (fun _ hx => logs_log ⟨hx, rfl⟩) result
  obtain ⟨after, hafter, hknown⟩ := hlogs r₃ ⟨hsince.sinks, hsince.cwd⟩
  rw [hclosing] at hafter
  exact ⟨after, hsince.trans hafter, hknown⟩

/-- **The log of a build**, whatever comes of it.  What is known of the run is known in each record
before and after the work on the assets; in the records of that work it is known unless the work is
shared. -/
theorem since_run (hs : s.Normal) (schedule : Schedule) (duration : Binary64) (r : Run) :
    ∃ before worked after,
      r.Since (r.LogAside s) (run s schedule duration r).2 (before ++ worked ++ after) ∧
        (∀ l ∈ before ++ after, KnowsRun r l) ∧ ∀ l ∈ worked, KnowsRunUnlessShared s r l := by
  have hcourse := course s schedule duration r
  generalize run s schedule duration r = ended at hcourse
  obtain ⟨out, r'⟩ := ended
  dsimp only at hcourse ⊢
  have hpolicy : ∃ before worked after,
      r.Since (r.LogAside s) (loadPolicy s r).2 (before ++ worked ++ after) ∧
        (∀ l ∈ before ++ after, KnowsRun r l) ∧ ∀ l ∈ worked, KnowsRunUnlessShared s r l := by
    obtain ⟨before, hbefore, hknown⟩ := logs_start hs r r ⟨rfl, rfl⟩
    refine ⟨before, [], [], ?_, ?_, nofun⟩
    · rwa [List.append_nil, List.append_nil]
    · rwa [List.append_nil]
  have hwritten : ∀ {p names r₁ r₂ r₃ assets worked before} {out : Except BuildError Unit},
      Prepared s r p names r₁ →
      processAll s p schedule names (begun s names r₁) = (.ok assets, r₂) →
      r.Since (r.LogAside s) r₂ (before ++ worked) → writeAll s assets r₂ = (out, r₃) →
      ∃ after, r.Since (r.LogAside s) r₃ (before ++ worked ++ after) ∧
        ∀ l ∈ after, KnowsRun r l := by
    intro p names r₁ r₂ r₃ assets worked before out h hprocess hsince hwrite
    refine since_writeAll hs hsince (fun haside asset hasset place hplace hlands => ?_) hwrite
    have hwell := (h.change hs).wellFormed haside.logReady haside.wellFormed
    exact haside.output place hplace (h.output_prefix hs hwell hprocess hasset hlands)
  cases hcourse with
  | unasked | noInput => exact ⟨[], [], [], .refl r, nofun, nofun⟩
  | noPolicy _ hfailed => rwa [hfailed] at hpolicy
  | noNames _ hloaded => rwa [hloaded] at hpolicy
  | unprocessed h hprocess =>
    obtain ⟨before, worked, hsince, hknown, hworked⟩ := h.since hs hprocess
    refine ⟨before, worked, [], ?_, ?_, hworked⟩
    · rwa [List.append_nil]
    · rwa [List.append_nil]
  | unwritten h hprocess hwrite =>
    obtain ⟨before, worked, hsince, hknown, hworked⟩ := h.since hs hprocess
    obtain ⟨after, hafter, hknown'⟩ := hwritten h hprocess hsince hwrite
    exact ⟨before, worked, after, hafter, List.forall_mem_append.2 ⟨hknown, hknown'⟩, hworked⟩
  | finished h hprocess hwrite hclosing =>
    obtain ⟨before, worked, hsince, hknown, hworked⟩ := h.since hs hprocess
    obtain ⟨after, hafter, hknown'⟩ := hwritten h hprocess hsince hwrite
    obtain ⟨ending, hending, hknown''⟩ := since_closing hafter hclosing
    refine ⟨before, worked, after ++ ending, ?_, ?_, hworked⟩
    · rwa [← List.append_assoc]
    · exact List.forall_mem_append.2 ⟨hknown, List.forall_mem_append.2 ⟨hknown', hknown''⟩⟩

/-! ## The log file -/

variable {l : Logged} {x : Record} {fields : Arguments} {locale : Text} {catalog : Option Text}

theorem leaves_runContext (hlocale : fields.get? "run_locale" = none)
    (hcatalog : fields.get? "run_catalog" = none) :
    Sinks.Leaves fields (Sinks.runContext locale catalog) := by
  have hothers : ("run_locale" : Text) ∉ Sinks.otherNames ∧
      ("run_catalog" : Text) ∉ Sinks.otherNames := by decide
  intro name hname
  rcases List.mem_cons.1 hname with rfl | hname
  · exact ⟨hothers.1, hlocale⟩
  · rw [List.mem_singleton.1 hname]
    exact ⟨hothers.2, hcatalog⟩

/-- **The records of a build are events** that the log file takes, and no field of theirs is of the
run. -/
theorem OfBuild.exists_event (h : OfBuild x) (locale : Text) (catalog : Option Text) :
    ∃ event fields, x.content = .event event fields ∧ Level.debug ≤ x.level ∧
      Sinks.Leaves fields (Sinks.runContext locale catalog) := by
  cases h with
  | ofAsset h =>
    cases h <;> exact ⟨_, _, rfl, of_decide_eq_true rfl, leaves_runContext rfl rfl⟩
  | _ => exact ⟨_, _, rfl, of_decide_eq_true rfl, leaves_runContext rfl rfl⟩

/-- A record that was logged with what is known of the run tells it. -/
theorem OfBuild.writes_tells (h : OfBuild l.record) (hfile : r.sinks.file.isSome)
    (hcontext : l.context = Sinks.runContext locale catalog) :
    r.Writes l (·.Tells (Sinks.runContext locale catalog)) := by
  obtain ⟨event, fields, hcontent, hlevel, hleaves⟩ := h.exists_event locale catalog
  have hnodup : ((Sinks.runContext locale catalog).map Prod.fst).Nodup :=
    show (["run_locale", "run_catalog"] : List Text).Nodup by decide
  rw [← hcontext] at hleaves hnodup ⊢
  exact Sinks.writes_tells (s := { r.sinks with context := l.context }) hcontent hfile hlevel hnodup
    hleaves r.time

/-- A record that was logged without it tells nothing of the run. -/
theorem OfBuild.writes_hides (h : OfBuild l.record) (hfile : r.sinks.file.isSome)
    (hcontext : l.context = []) : r.Writes l (·.Hides (Sinks.runContext locale catalog)) := by
  obtain ⟨event, fields, hcontent, hlevel, hleaves⟩ := h.exists_event locale catalog
  exact Sinks.writes_hides (s := { r.sinks with context := l.context }) hcontent hfile hlevel
    hcontext hleaves r.time

end Build
end Localize
