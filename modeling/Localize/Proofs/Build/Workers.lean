import Localize.Proofs.Build.Names
import Localize.Proofs.Build.Processing

/-!
# How many workers there are does not matter

A build with several workers has its assets worked on in the order of a schedule.  The result is
that of working on them one after the other: `processAll_eq` says so of the work, and
`same_writeAll` carries it through the writing, so that whole builds agree in their results and in
all files but the log.  A build in which the work on an asset fails has written nothing but its
table and its log.

The runs that this is told of are `Run.Sound`: the tree is one of a system of files, and the log
file, if there is one, is there and lies outside the input directory.
-/

set_option autoImplicit false

namespace Localize

deriving instance DecidableEq for Policy

/-- The run can start a build by the settings: its tree is as a system of files has it, and its log
file is there and lies outside the input directory. -/
structure Run.Sound (r : Run) (s : Settings) : Prop where
  wellFormed : r.tree.WellFormed
  logReady : r.LogReady
  logApart : ∀ place, r.sinks.file = some place → ¬ s.inputDir.resolve r.tree.cwd <+: place

namespace Run.Sound

variable {r r' : Run} {s : Settings} {made written : Location → Prop}

/-- What a build does to a run leaves it sound. -/
theorem of_change (h : r.Sound s) (hchange : r.Change made written r') : r'.Sound s where
  wellFormed := hchange.wellFormed h.logReady h.wellFormed
  logReady := hchange.logReady h.logReady
  logApart := by
    rw [hchange.sinks, hchange.tree.cwd]
    exact h.logApart

end Run.Sound

/-- The settings with another number of workers. -/
def Settings.withWorkers (s : Settings) (workers : Nat) : Settings :=
  { s with build := { s.build with workers } }

theorem Settings.Normal.withWorkers {s : Settings} (h : s.Normal) (workers : Nat) :
    (s.withWorkers workers).Normal :=
  ⟨h.input, h.output, h.lookup⟩

theorem Run.Sound.withWorkers {r : Run} {s : Settings} (h : r.Sound s) (workers : Nat) :
    r.Sound (s.withWorkers workers) :=
  ⟨h.wellFormed, h.logReady, h.logApart⟩

namespace Build

variable {s : Settings} {p : Policy} {names : List Text} {r r₁ : Run}

/-! ## Builds that get as far as their assets -/

/-- Up to its assets, a build writes its log and the file of its table. -/
theorem Prepared.change (h : Prepared s r p names r₁) (hs : s.Normal) :
    r.Change (fun _ => True)
      (fun q => r.sinks.file = some q ∨ s.lookupPlace? r.tree.cwd = some q) r₁ :=
  change_of_loadPolicy hs h.policy

/-- No asset of a build is its log file. -/
theorem Prepared.logApart (h : Prepared s r p names r₁) (hs : s.Normal) (hr : r.Sound s) :
    r₁.LogApart s names := by
  have hr₁ : r₁.Sound s := hr.of_change (h.change hs)
  exact Run.logApart_of_assetNames hs.input hr₁.wellFormed hr₁.logApart h.names

/-- **The work on the assets of a build** gives what comes of each of them in the tree as it was
when their names were found, or fails as one of them does. -/
theorem Prepared.processAll_eq (h : Prepared s r p names r₁) (hs : s.Normal) (hr : r.Sound s)
    (schedule : Schedule) :
    ∃ r₂, r₁.Alike r₂ ∧
      ((∃ done, names.map (outcomeIn s p r₁) = done.map .ok ∧
          processAll s p schedule names (begun s names r₁) = (.ok done, r₂)) ∨
        ∃ e, (∃ name ∈ names, outcomeIn s p r₁ name = .error e) ∧
          processAll s p schedule names (begun s names r₁) = (.error e, r₂)) := by
  have hapart := h.logApart hs hr
  have hbegun : r₁.Alike (begun s names r₁) :=
    Run.alike_logTo (hr.of_change (h.change hs)).logReady true _
  have hsame : names.map (outcomeIn s p (begun s names r₁)) = names.map (outcomeIn s p r₁) :=
    List.map_congr_left fun name hname => outcomeIn_eq hs.input hbegun hapart hname
  obtain ⟨r₂, halike, hout⟩ :=
    Build.processAll_eq (p := p) hs.input hbegun.ready' (hbegun.logApart hapart) schedule
  refine ⟨r₂, hbegun.trans halike, ?_⟩
  rcases hout with ⟨done, hdone, hout⟩ | ⟨e, ⟨name, hname, hfail⟩, hout⟩
  · exact Or.inl ⟨done, hsame ▸ hdone, hout⟩
  · exact Or.inr ⟨e, ⟨name, hname, outcomeIn_eq hs.input hbegun hapart hname ▸ hfail⟩, hout⟩

/-- Assets that come out well, each of them, come out so together. -/
theorem Prepared.exists_processAll (h : Prepared s r p names r₁) (hs : s.Normal) (hr : r.Sound s)
    {assets : List Processed} (hassets : names.map (outcomeIn s p r₁) = assets.map .ok)
    (schedule : Schedule) :
    ∃ r₂, processAll s p schedule names (begun s names r₁) = (.ok assets, r₂) ∧ r₁.Alike r₂ := by
  obtain ⟨u, halike, ⟨done, hdone, hout⟩ | ⟨e, ⟨name, hname, hfail⟩, -⟩⟩ :=
    h.processAll_eq hs hr schedule
  · obtain rfl := eq_of_map_ok (hassets.symm.trans hdone)
    exact ⟨u, hout, halike⟩
  · exact absurd hfail (ne_error_of_map_eq hassets hname e)

/-- **Settings under which each asset comes out the same** have the assets come out the same, in
whatever way they are worked on. -/
theorem Prepared.processAll_congr {s' : Settings} (h : Prepared s r p names r₁)
    (h' : Prepared s' r p names r₁) (hs : s.Normal) (hs' : s'.Normal) (hr : r.Sound s)
    (hr' : r.Sound s') (hsame : ∀ name ∈ names, outcomeIn s' p r₁ name = outcomeIn s p r₁ name)
    {schedule : Schedule} (schedule' : Schedule) {assets : List Processed} {r₂ : Run}
    (hprocess : processAll s p schedule names (begun s names r₁) = (.ok assets, r₂)) :
    names.map (outcomeIn s p r₁) = assets.map .ok ∧ r₁.Alike r₂ ∧
      ∃ r₂', processAll s' p schedule' names (begun s' names r₁) = (.ok assets, r₂') ∧
        r₁.Alike r₂' := by
  obtain ⟨u, halike, ⟨done, hdone, hout⟩ | ⟨e, -, hout⟩⟩ := h.processAll_eq hs hr schedule
  · rw [hprocess] at hout
    cases hout
    refine ⟨hdone, halike, ?_⟩
    rw [← List.map_congr_left hsame] at hdone
    exact h'.exists_processAll hs' hr' hdone schedule'
  · rw [hprocess] at hout
    cases hout

/-! ## Any number of workers -/

/-- Assets are worked on with success if each of them is, and then what comes of them is given in
their order, as it is by one worker. -/
theorem processAll_withWorkers (hs : s.inputDir.Normal) (hready : r.LogReady)
    (hapart : r.LogApart s names) (p : Policy) (workers : Nat) (schedule : Schedule) :
    ((∃ done r', processAll (s.withWorkers workers) p schedule names r = (.ok done, r')) ↔
        ∀ name ∈ names, ∃ a, (processAsset s p r.tree name).2 = .ok a) ∧
      ∀ done r', processAll (s.withWorkers workers) p schedule names r = (.ok done, r') →
        names.map (fun name => (processAsset s p r.tree name).2) = done.map .ok ∧
          (processInOrder s p names r).1 = .ok done := by
  obtain ⟨r₁, -, hout⟩ :=
    processAll_eq (s := s.withWorkers workers) (p := p) hs hready hapart schedule
  have hsame : outcomeIn (s.withWorkers workers) p r = outcomeIn s p r := rfl
  rw [hsame] at hout
  rcases hout with ⟨done, hdone, hrun⟩ | ⟨e, ⟨name, hname, hfail⟩, hrun⟩
  · refine ⟨⟨fun _ name hname => exists_of_map_eq hdone hname, fun _ => ⟨done, r₁, hrun⟩⟩, ?_⟩
    intro done' r' h
    rw [hrun] at h
    cases h
    obtain ⟨r₂, -, ⟨done₂, hdone₂, hone⟩ | ⟨e, ⟨name, hname, hfail⟩, -⟩⟩ :=
      processInOrder_eq (p := p) hs hready hapart
    · rw [hone, eq_of_map_ok (hdone₂.symm.trans hdone)]
      exact ⟨hdone, rfl⟩
    · exact absurd hfail (ne_error_of_map_eq hdone hname e)
  · refine ⟨⟨?_, fun hall => ?_⟩, ?_⟩
    · rintro ⟨done, r', h⟩
      rw [hrun] at h
      cases h
    · obtain ⟨a, ha⟩ := hall name hname
      rw [← outcomeIn, hfail] at ha
      cases ha
    · intro done r' h
      rw [hrun] at h
      cases h

/-- A build gets as far with any number of workers. -/
theorem Prepared.withWorkers (h : Prepared s r p names r₁) (workers : Nat) :
    Prepared (s.withWorkers workers) r p names r₁ :=
  ⟨h.input, h.policy, h.names⟩

theorem writeAll_withWorkers (s : Settings) (workers : Nat) (assets : List Processed) :
    writeAll (s.withWorkers workers) assets = writeAll s assets := by
  induction assets with
  | nil => rfl
  | cons asset rest ih =>
    rw [writeAll, writeAll, ih]
    rfl

/-- A build that succeeds does so with any number of workers and by any schedule, with the same
result and the same files but for its log. -/
theorem run_withWorkers (hs : s.Normal) (hr : r.Sound s) {workers : Nat} (workers' : Nat)
    {schedule : Schedule} (schedule' : Schedule) {duration : Binary64} {b : BuildResult} {r' : Run}
    (h : run (s.withWorkers workers) schedule duration r = (.ok b, r')) :
    ∃ r'', run (s.withWorkers workers') schedule' duration r = (.ok b, r'') ∧
      ∀ q, r.sinks.file ≠ some q → r''.tree.fileAt? q = r'.tree.fileAt? q := by
  obtain ⟨p, names, assets, r₁, r₂, r₃, hready, hprocess, hwrite, rfl, rfl⟩ := exists_of_run_eq_ok h
  have hn := hs.withWorkers workers
  have hn' := hs.withWorkers workers'
  have hready' : Prepared (s.withWorkers workers') r p names r₁ := hready.withWorkers workers'
  obtain ⟨hassets, halike, r₂', hprocess', halike'⟩ := hready.processAll_congr hready' hn hn'
    (hr.withWorkers workers) (hr.withWorkers workers') (fun _ _ => rfl) schedule' hprocess
  have hapart := hready.logApart hn (hr.withWorkers workers)
  rw [← map_name_of_map_eq hassets] at hapart
  have hwritten := same_writeAll hn' (halike.symm.trans halike') (halike.logApart hapart)
  have hsame : writeAll (s.withWorkers workers') assets
      = writeAll (s.withWorkers workers) assets := by
    rw [writeAll_withWorkers, writeAll_withWorkers]
  rcases hwrite' : writeAll (s.withWorkers workers') assets r₂' with ⟨out, r₃'⟩
  rw [Same, hsame, hwrite, ← hsame, hwrite'] at hwritten
  obtain ⟨rfl, hfinal⟩ := hwritten
  refine ⟨_, run_of_written hready' hprocess' hwrite', fun q hq => ?_⟩
  rw [← (hready.change hn).sinks] at hq
  have hq₂ : r₂.sinks.file ≠ some q := by rwa [halike.sinks]
  have hq₂' : r₂'.sinks.file ≠ some q := by rwa [halike'.sinks]
  rw [fileAt?_closing hn' hwrite' _ hq₂', fileAt?_closing hn hwrite _ hq₂]
  exact hfinal.tree.fileAt?_eq (by rwa [sinks_of_writeAll hn hwrite])

/-- A build in which the work on an asset fails is a failure, and has written nothing but its log
and the file of its table. -/
theorem run_of_failing (hs : s.Normal) (hr : r.Sound s) (h : Prepared s r p names r₁)
    (hfail : ∃ name ∈ names, ∃ e, (processAsset s p r₁.tree name).2 = .error e)
    (workers : Nat) (schedule : Schedule) (duration : Binary64) :
    ∃ e r', run (s.withWorkers workers) schedule duration r = (.error e, r') ∧
      (∃ name ∈ names, (processAsset s p r₁.tree name).2 = .error e) ∧
      ∀ q, r.sinks.file ≠ some q → s.lookupPlace? r.tree.cwd ≠ some q →
        r'.tree.fileAt? q = r.tree.fileAt? q := by
  have h' := h.withWorkers workers
  obtain ⟨r₂, halike, ⟨done, hdone, -⟩ | ⟨e, hfailed, hout⟩⟩ :=
    h'.processAll_eq (hs.withWorkers workers) (hr.withWorkers workers) schedule
  · obtain ⟨name, hname, e, he⟩ := hfail
    exact absurd he (ne_error_of_map_eq hdone hname e)
  · refine ⟨e, r₂, ?_, hfailed, fun q hlog hlookup => ?_⟩
    · rw [run_of_prepared h', work, bind_apply, hout]
    · have hchange := h.change hs
      rw [halike.tree.fileAt?_eq (by rw [hchange.sinks]; exact hlog)]
      exact hchange.tree.files q fun h => h.elim hlog hlookup

/-- **Work that is shared comes out as work that is not, and it is all or nothing.**  Whatever the
number of workers and the order of their tasks, assets are worked on with success if each of them
is, and then the outcomes are those of one worker, one by one.  So a build that succeeds gives the
same result and the same files with any number of workers.  If the work on an asset fails, so does
the build, and no file but the log and that of the table is written. -/
theorem processAll_shared_atomic (hs : s.Normal) (hr : r.Sound s) :
    (∀ (names : List Text) (p : Policy) (workers : Nat) (schedule : Schedule), r.LogApart s names →
      ((∃ done r', processAll (s.withWorkers workers) p schedule names r = (.ok done, r')) ↔
          ∀ name ∈ names, ∃ a, (processAsset s p r.tree name).2 = .ok a) ∧
        ∀ done r', processAll (s.withWorkers workers) p schedule names r = (.ok done, r') →
          names.map (fun name => (processAsset s p r.tree name).2) = done.map .ok ∧
            (processInOrder s p names r).1 = .ok done) ∧
    (∀ (workers workers' : Nat) (schedule schedule' : Schedule) (duration : Binary64)
      (b : BuildResult) (r' : Run), run (s.withWorkers workers) schedule duration r = (.ok b, r') →
        ∃ r'', run (s.withWorkers workers') schedule' duration r = (.ok b, r'') ∧
          ∀ q, r.sinks.file ≠ some q → r''.tree.fileAt? q = r'.tree.fileAt? q) ∧
    ∀ (p : Policy) (names : List Text) (r₁ : Run), Prepared s r p names r₁ →
      (∃ name ∈ names, ∃ e, (processAsset s p r₁.tree name).2 = .error e) →
        ∀ (workers : Nat) (schedule : Schedule) (duration : Binary64),
          ∃ e r', run (s.withWorkers workers) schedule duration r = (.error e, r') ∧
            (∃ name ∈ names, (processAsset s p r₁.tree name).2 = .error e) ∧
            ∀ q, r.sinks.file ≠ some q → s.lookupPlace? r.tree.cwd ≠ some q →
              r'.tree.fileAt? q = r.tree.fileAt? q :=
  ⟨fun _ p workers schedule hapart =>
      processAll_withWorkers hs.input hr.logReady hapart p workers schedule,
    fun _ workers' _ schedule' _ _ _ h => run_withWorkers hs hr workers' schedule' h,
    fun _ _ _ h hfail => run_of_failing hs hr h hfail⟩

/-! ### Two assets and four workers -/

/-- The tasks in reverse order. -/
def Schedule.backwards : Schedule :=
  ⟨fun n => (List.range n).reverse, fun _ => List.reverse_perm _⟩

/-- Settings by which brackets are removed below a directory `i`. -/
def stripping : Settings where
  nuggets := { removeBrackets := true }
  build := { inputDir := Path.ofText (Text.ofChars ['i']), workers := 1 }

/-- A run on the assets `[[[a]]]` and `h`. -/
def twoAssets : Run where
  tree :=
    { entries := [([['i']], .directory), ([['i'], ['a']], .file [91, 91, 91, 97, 93, 93, 93]),
        ([['i'], ['b']], .file [104])]
      cwd := [] }

/-- What comes of the two assets. -/
def twoProcessed : List Processed :=
  [⟨{ name := Text.ofChars ['a'], status := .rewritten, nuggets := 1 }, some (Text.ofChars ['a'])⟩,
    ⟨{ name := Text.ofChars ['b'], status := .unchanged }, none⟩]

theorem processAll_shared_atomic_twoAssets :
    stripping.Normal ∧ twoAssets.Sound stripping ∧
      ∃ r', run (stripping.withWorkers 4) Schedule.backwards (.zero false) twoAssets
          = (.ok (resultOf stripping (.zero false) twoProcessed), r') ∧
        r'.tree.fileAt? [['i'], ['a']] = some [97] := by
  have hs : stripping.Normal := ⟨by decide, by decide, nofun⟩
  have hr : twoAssets.Sound stripping := ⟨by decide, nofun, nofun⟩
  let p : Policy := { table := none, locale := stripping.locale, removeBrackets := true }
  have hnames : stripping.assetNames twoAssets.tree = .ok [['a'], ['b']] := by
    rw [Settings.assetNames_of_pairwise hs.input (by decide) (by decide +kernel) (by decide +kernel)]
    decide +kernel
  have hready : Prepared stripping twoAssets p [['a'], ['b']]
      (logTo true (BuildEvent.defaultPass stripping.locale) twoAssets) :=
    ⟨by decide +kernel, rfl, hnames⟩
  have hprocess : (processAll stripping p .inOrder [['a'], ['b']] (begun stripping [['a'], ['b']]
      (logTo true (BuildEvent.defaultPass stripping.locale) twoAssets))).1 = .ok twoProcessed := by
    decide +kernel
  have hwrite : (writeAll stripping twoProcessed (processAll stripping p .inOrder [['a'], ['b']]
      (begun stripping [['a'], ['b']]
        (logTo true (BuildEvent.defaultPass stripping.locale) twoAssets))).2).1 = .ok () := by
    decide +kernel
  have hrun : run stripping .inOrder (.zero false) twoAssets = _ :=
    run_of_written hready (eq_of_outcome hprocess) (eq_of_outcome hwrite)
  obtain ⟨r', hrun', hfiles⟩ := (processAll_shared_atomic hs hr).2.1 1 4 .inOrder Schedule.backwards
    (.zero false) _ _ hrun
  refine ⟨hs, hr, r', hrun', ?_⟩
  rw [hfiles _ (Option.some_ne_none _).symm]
  decide +kernel

end Build
end Localize
