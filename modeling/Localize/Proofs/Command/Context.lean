import Localize.Proofs.Build.Context
import Localize.Proofs.Build.Placing
import Localize.Proofs.Command.Accounts
import Localize.Proofs.Settings.Paths

/-!
# What the log file of a build tells of its run

A build that is started by its command knows of its run: its locale and its catalog.  Each record
that it writes to the log file tells them, but for those of work on assets that is shared by several
workers: these tell nothing of the run (`writes_of_run`).  So each record tells of the run exactly
if the work is not shared, or there was nothing to log about the assets.
-/

set_option autoImplicit false

namespace Localize

namespace Command.Build

open Localize.Build (OfBuild Prepared Shares begun loadPolicy run work)

variable {host : Host} {words : List Text} {line : Line BuildOption} {q : BuildRequest}
variable {s : Settings} {r : Run}

/-- What a build knows of its run. -/
def known (s : Settings) : Arguments :=
  Sinks.runContext s.locale (s.catalog.path.map fun p => p.toText)

theorem Starts.context_eq (h : Starts host words line q s r) : r.sinks.context = known s := by
  obtain ⟨sinks, t, -, rfl⟩ := h.logging
  rfl

theorem Starts.trace_eq (h : Starts host words line q s r) : r.trace = [] := by
  obtain ⟨sinks, t, -, rfl⟩ := h.logging
  rfl

/-- **What the log file of a build tells of its run**, whatever comes of the build.  It has a line
for each record: for those of the start, then those of the work on the assets, then those of the
writing and of the end.  If the work on the assets is shared, its records tell nothing of the run.
All others tell what is known of it. -/
theorem writes_of_run (h : Starts host words line q s r) {place : Location}
    (hfile : r.sinks.file = some place) (schedule : Schedule) (duration : Binary64) :
    ∃ before worked after,
      (run s schedule duration r).2.trace = before ++ worked ++ after ∧
      (∀ l ∈ before ++ after, OfBuild l.record ∧ r.Writes l (·.Tells (known s))) ∧
      (∀ l ∈ worked, BuildEvent.OfAsset l.record ∧
        (Shares s r → r.Writes l (·.Hides (known s))) ∧
        (¬ Shares s r → r.Writes l (·.Tells (known s)))) ∧
      ((∀ l ∈ before ++ worked ++ after, r.Writes l (·.Tells (known s))) ↔
        (Shares s r → worked = [])) ∧
      (r.LogAside s → ∃ old, r.tree.fileAt? place = some old ∧
        (run s schedule duration r).2.tree.fileAt? place
          = some (old ++ r.linesOf (before ++ worked ++ after))) := by
  have hs : s.Normal := Settings.normal_of_load h.settings
  have hfile' : r.sinks.file.isSome := by rw [hfile]; rfl
  obtain ⟨before, worked, after, hsince, hknown, hworked⟩ :=
    Localize.Build.since_run hs schedule duration r
  have htells : ∀ l ∈ before ++ after, OfBuild l.record ∧ r.Writes l (·.Tells (known s)) := by
    intro l hl
    obtain ⟨hrecord, hcontext⟩ := hknown l hl
    exact ⟨hrecord, hrecord.writes_tells hfile' (hcontext.trans h.context_eq)⟩
  have hshared : ∀ l ∈ worked, BuildEvent.OfAsset l.record ∧
      (Shares s r → r.Writes l (·.Hides (known s))) ∧
      (¬ Shares s r → r.Writes l (·.Tells (known s))) := by
    intro l hl
    obtain ⟨hrecord, hhidden, htold⟩ := hworked l hl
    refine ⟨hrecord, fun hshares => ?_, fun hone => ?_⟩
    · exact (OfBuild.ofAsset hrecord).writes_hides hfile' (hhidden hshares)
    · exact (OfBuild.ofAsset hrecord).writes_tells hfile' ((htold hone).trans h.context_eq)
  refine ⟨before, worked, after, ?_, htells, hshared, ?_, fun haside => ?_⟩
  · rw [hsince.trace, h.trace_eq, List.nil_append]
  · constructor
    · intro hall hshares
      refine List.eq_nil_iff_forall_not_mem.2 fun l hl => ?_
      refine Sinks.not_writes_hides_of_tells (hall l ?_) (List.cons_ne_nil _ _)
        ((hshared l hl).2.1 hshares)
      exact List.mem_append_left _ (List.mem_append_right _ hl)
    · intro hnone l hl
      rw [List.append_assoc, List.mem_append, List.mem_append, or_left_comm, ← List.mem_append]
        at hl
      rcases hl with hl | hl
      · by_cases hshares : Shares s r
        · rw [hnone hshares] at hl
          cases hl
        · exact (hshared l hl).2.2 hshares
      · exact (htells l hl).2
  · obtain ⟨old, hold⟩ := Option.isSome_iff_exists.1 (haside.logReady place hfile)
    exact ⟨old, hold, hsince.file haside place old hfile hold⟩

/-! ### Two assets, by one worker and by several -/

/-- A host with the assets `[[[b]]]` and `h`, a catalog that does not know `b`, and a log file. -/
def loggingHost : Host where
  tree :=
    { entries := [([['i']], .directory), ([['i'], ['x']], .file (Utf8.encodeLossy "[[[b]]]")),
        ([['i'], ['y']], .file (Utf8.encodeLossy "h")),
        ([['c']], .file (Utf8.encodeLossy "msgid \"a\"\nmsgstr \"A\"\n")),
        ([['l']], .file [])]
      cwd := [] }

/-- A build of the assets with a log. -/
def loggingWords : List Text := ["i", "-l", "fr", "-p", "c", "--log-file", "l"]

/-- The command line in parts. -/
def loggingLine : Line BuildOption where
  given := [⟨.locale, "fr"⟩, ⟨.catalog, "c"⟩, ⟨.logFile, "l"⟩]
  operands := ["i"]

/-- The settings that the command line leads to. -/
def loggingSettings : Settings where
  locale := "fr"
  catalog := { path := some (Path.ofText "c") }
  build := { inputDir := Path.ofText "i" }
  logging := { file := some (Path.ofText "l") }

/-- The run that the build starts from. -/
def loggingRun : Run :=
  start loggingHost loggingHost.tree
    (Sinks.ofSettings loggingSettings.logging false (some ["l"])) loggingSettings

theorem starts_loggingRun : Starts loggingHost loggingWords loggingLine (.ofChecked loggingLine)
    loggingSettings loggingRun := ⟨rfl, rfl, rfl, rfl, _, _, rfl, rfl⟩

/-- What is asked for with the table of the catalog. -/
def loggingPolicy : Policy := loggingSettings.policy (some ⟨[("a", "A")]⟩)

theorem prepared_loggingRun : Prepared loggingSettings loggingRun loggingPolicy ["x", "y"]
    (loadPolicy loggingSettings loggingRun).2 := by
  have hdir : (loadPolicy loggingSettings loggingRun).2.tree.isDirectory loggingSettings.inputDir
      = .ok true := by decide +kernel
  have hnames : loggingSettings.assetNames (loadPolicy loggingSettings loggingRun).2.tree
      = .ok ["x", "y"] := by
    rw [Settings.assetNames_of_isDirectory (by decide) (by decide) hdir,
      Settings.assetFiles, Tree.filesUnder_of_pairwise (by decide +kernel)]
    decide +kernel
  exact ⟨by decide +kernel, Localize.Build.eq_of_outcome (by decide +kernel), hnames⟩

/-- A build of the assets by one worker. -/
def loggingWordsOne : List Text := loggingWords ++ (["-j", "1"] : List Text)

/-- One worker does the work. -/
theorem writes_of_run_oneWorker :
    Starts loggingHost loggingWordsOne
        { loggingLine with given := loggingLine.given ++ [⟨.workers, "1"⟩] }
        { BuildRequest.ofChecked loggingLine with workers := some 1 }
        (loggingSettings.withWorkers 1) loggingRun ∧
      loggingRun.sinks.file = some [Text.ofString "l"] ∧
      ∀ l ∈ (run (loggingSettings.withWorkers 1) .inOrder (.zero false) loggingRun).2.trace,
        loggingRun.Writes l (·.Tells (known loggingSettings)) := by
  have hstarts : Starts loggingHost loggingWordsOne
      { loggingLine with given := loggingLine.given ++ [⟨.workers, "1"⟩] }
      { BuildRequest.ofChecked loggingLine with workers := some 1 }
      (loggingSettings.withWorkers 1) loggingRun := ⟨rfl, rfl, rfl, rfl, _, _, rfl, rfl⟩
  have hone : ¬ Shares (loggingSettings.withWorkers 1) loggingRun := by
    rintro ⟨p, names, r₁, -, hmany⟩
    exact hmany (Or.inl rfl)
  obtain ⟨before, worked, after, htrace, -, -, hall, -⟩ :=
    writes_of_run hstarts rfl .inOrder (.zero false)
  refine ⟨hstarts, rfl, ?_⟩
  rw [htrace]
  exact hall.2 fun hshares => absurd hshares hone

/-- **Records of shared work do not tell of the run.**  Two assets are shared by several workers if
nothing else is said. -/
theorem not_forall_writes_tells :
    ¬ ∀ (host : Host) (words : List Text) (line : Line BuildOption) (q : BuildRequest)
        (s : Settings) (r : Run), Starts host words line q s r → r.sinks.file.isSome →
        ∀ l ∈ (run s host.schedule host.duration r).2.trace, r.Writes l (·.Tells (known s)) := by
  intro htells
  have hrun := Localize.Build.run_of_prepared prepared_loggingRun .inOrder (.zero false)
  have hhidden : ((work loggingSettings .inOrder (.zero false) loggingPolicy ["x", "y"]
      (begun loggingSettings ["x", "y"] (loadPolicy loggingSettings loggingRun).2)).2.trace.any
        fun l => Option.any (fun entry => ((Sinks.laidOut entry).get? "run_locale").isNone)
          ( l.record.entry? l.context loggingRun.time)) = true := by
    decide +kernel
  rw [← hrun, List.any_eq_true] at hhidden
  obtain ⟨l, hl, hnone⟩ := hhidden
  obtain ⟨entry, hentry, -, htold⟩ := htells loggingHost loggingWords loggingLine _ loggingSettings
    loggingRun starts_loggingRun rfl l hl
  have hlocale : (Sinks.laidOut entry).get? "run_locale" = some (.text "fr") :=
    htold ("run_locale", .text "fr") List.mem_cons_self
  rw [show l.record.entry? l.context loggingRun.time = some entry from hentry, Option.any_some,
    hlocale] at hnone
  cases hnone

end Command.Build
end Localize
