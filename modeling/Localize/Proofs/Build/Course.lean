import Localize.Proofs.Build.Step

/-!
# The course of a build

A build can end in six places: before it has looked at anything, at its table, at the names of its
assets, while it works on them, while it writes them, or at its end.  `Course` lists them with all
that came before, and `course` says that every run of `Build.run` takes one of them.

Before the writing, the only file a build writes is that of its table (`Settings.lookupPlace?`), and
the writing of an asset reaches the places of its name below the output directory
(`Settings.landings`).  All of this is told of settings whose paths a text can write
(`Settings.Normal`), as the paths of settings that are read from a document are
(`Settings.normal_of_ofDocument`).
-/

set_option autoImplicit false

namespace Localize

namespace Settings

/-- The directories of the settings have paths that a text can write. -/
structure Normal (s : Settings) : Prop where
  input : s.inputDir.Normal
  output : s.outputDir.Normal
  lookup : ∀ directory, s.catalog.lookupDir = some directory → directory.Normal

/-- The place of the file that the table is written to, if it is written. -/
def lookupPlace? (s : Settings) (cwd : Location) : Option Location :=
  match s.catalog.path, s.catalog.lookupDir with
  | some _, some directory => some ((Catalog.lookupTarget s.locale directory).resolve cwd)
  | _, _ => none

/-- The policy that settings ask for, with a table or without. -/
def policy (s : Settings) (table : Option Table) : Policy where
  table := table
  locale := s.locale
  removeBrackets := s.nuggets.removeBrackets
  warnOnMissing := s.nuggets.warnOnMissing

/-- Where an asset is read. -/
abbrev source (s : Settings) (asset : Processed) : Path := assetPath s.inputDir asset.result.name

/-- Where an asset is written. -/
abbrev target (s : Settings) (asset : Processed) : Path := assetPath s.outputDir asset.result.name

/-- The places that the writing of an asset can reach: that of its name below the output directory
and, for an asset that is copied, its place in a directory that stands there. -/
def landings (s : Settings) (cwd : Location) (asset : Processed) : List Location :=
  match asset.text with
  | some _ => [(s.target asset).resolve cwd]
  | none =>
    if s.inPlace cwd then []
    else [(s.target asset).resolve cwd,
      ((s.target asset).join (.ofNames [(s.source asset).name])).resolve cwd]

theorem normal_assetPath {directory : Path} (h : directory.Normal) (name : Text) :
    (assetPath directory name).Normal := h.join (Path.normal_ofText name)

end Settings

namespace Build

variable {s : Settings} {schedule : Schedule} {duration : Binary64} {r r' : Run}
variable {cwd : Location} {logFile : Option Location} {made written : Location → Prop}

/-! ## How far the phases reach -/

/-- **Getting the table** makes the directories that its file is to lie in, and writes that file. -/
theorem confined_loadPolicy (hs : s.Normal) (hlogs : ∀ q, logFile = some q → written q)
    (hmade : ∀ directory, s.catalog.lookupDir = some directory →
      ∀ q ∈ directory.waypoints cwd, made q)
    (hwritten : ∀ q, s.lookupPlace? cwd = some q → written q) :
    Confined cwd logFile made written (loadPolicy s) := by
  refine sequential_confined.loadPolicy (fun x _ => confined_log hlogs x) ?_
  intro path directory table hcatalog hdir
  rw [Settings.lookupPlace?, hcatalog, hdir] at hwritten
  exact confined_writeTable hlogs s.locale table (hs.lookup directory hdir)
    (hmade directory hdir) (hwritten _ rfl)

/-- Getting the table changes the log and the file of the table. -/
theorem change_of_loadPolicy (hs : s.Normal) {out : Except BuildError Policy}
    (h : loadPolicy s r = (out, r')) :
    r.Change (fun _ => True)
      (fun q => r.sinks.file = some q ∨ s.lookupPlace? r.tree.cwd = some q) r' := by
  have hchange : r.Change (fun _ => True)
      (fun q => r.sinks.file = some q ∨ s.lookupPlace? r.tree.cwd = some q) (loadPolicy s r).2 :=
    confined_loadPolicy hs (fun _ => Or.inl) (fun _ _ _ _ => trivial) (fun _ => Or.inr) r rfl rfl
  rwa [h] at hchange

/-- Getting the table, step by step. -/
theorem loadPolicy_apply (s : Settings) (r : Run) :
    loadPolicy s r =
      match s.catalog.path with
      | none => (.ok (s.policy none), logTo true (BuildEvent.defaultPass s.locale) r)
      | some path =>
        match loadTable s.locale path s.catalog.includeFuzzy r with
        | (.error e, r₁) => (.error e, r₁)
        | (.ok table, r₁) =>
          match s.catalog.lookupDir with
          | none =>
            (.ok (s.policy (some table)),
              logTo true (BuildEvent.catalogLoaded path.toText table.size) r₁)
          | some directory =>
            match writeTable s.locale table directory
                (logTo true (BuildEvent.catalogLoaded path.toText table.size) r₁) with
            | (.error e, r₂) => (.error e, r₂)
            | (.ok target, r₂) =>
              (.ok (s.policy (some table)),
                logTo true (BuildEvent.lookupWritten target.toText) r₂) := by
  rw [loadPolicy]
  cases s.catalog.path with
  | none => rfl
  | some path =>
    dsimp only
    rw [bind_apply]
    rcases loadTable s.locale path s.catalog.includeFuzzy r with ⟨e | table, r₁⟩
    · rfl
    · dsimp only
      rw [bind_apply, log_apply]
      cases s.catalog.lookupDir with
      | none => rfl
      | some directory =>
        dsimp only
        rw [bind_apply]
        rcases writeTable s.locale table directory _ with ⟨e | target, r₂⟩ <;> rfl

/-- **The policy of a build** is the one its settings ask for, with a table if there is a catalog.
-/
theorem of_loadPolicy_eq_ok {p : Policy} (h : loadPolicy s r = (.ok p, r')) :
    p = s.policy p.table ∧ p.table.isSome = s.catalog.path.isSome := by
  rw [loadPolicy_apply] at h
  cases hcatalog : s.catalog.path with
  | none =>
    rw [hcatalog] at h
    cases h
    exact ⟨rfl, rfl⟩
  | some path =>
    rw [hcatalog] at h
    dsimp only at h
    split at h
    · cases (Prod.mk.inj h).1
    · split at h
      · cases (Prod.mk.inj h).1
        exact ⟨rfl, rfl⟩
      · split at h
        · cases (Prod.mk.inj h).1
        · cases (Prod.mk.inj h).1
          exact ⟨rfl, rfl⟩

/-- An asset with a new text is written. -/
theorem write_of_some {asset : Processed} {t : Text} (h : asset.text = some t) :
    write s asset = (do
      makeDirectories (.unwritable asset.result.name) (s.target asset).parent
      match Utf8.encode t with
      | .error e => throw (.unencodable e)
      | .ok bytes =>
        change (.unwritable asset.result.name) (·.writeFile (s.target asset) bytes)
        log (BuildEvent.assetRewritten asset.result)) := by
  obtain ⟨result, text⟩ := asset
  obtain rfl : text = some t := h
  rfl

/-- An asset without a new text is carried over, unless it is there already. -/
theorem write_apply_of_none {asset : Processed} (h : asset.text = none) (r : Run) :
    write s asset r = if s.inPlace r.tree.cwd then (.ok (), r) else
      (do
        makeDirectories (.unwritable asset.result.name) (s.target asset).parent
        change (.unwritable asset.result.name) (·.copyFile (s.source asset) (s.target asset))
          : Build Unit) r := by
  rw [write, h]
  dsimp only
  rw [bind_apply, get_apply]
  dsimp only
  split <;> rfl

/-- **Writing an asset** makes the directories that lead to it and writes files where it can land.
-/
theorem confined_write (hs : s.Normal) (hlogs : ∀ q, logFile = some q → written q)
    (asset : Processed)
    (hmade : ∀ q ∈ (s.target asset).parent.waypoints cwd, made q)
    (hwritten : ∀ q ∈ s.landings cwd asset, written q) :
    Confined cwd logFile made written (write s asset) := by
  have htarget := Settings.normal_assetPath hs.output asset.result.name
  rw [Settings.landings] at hwritten
  cases htext : asset.text with
  | some t =>
    rw [htext] at hwritten
    rw [write_of_some htext]
    refine sequential_confined.bind (confined_makeDirectories _ htarget.parent hmade) fun _ => ?_
    split
    · exact sequential_confined.throw _
    · have hlands := hwritten _ List.mem_cons_self
      exact sequential_confined.bind (confined_change_writeFile _ _ htarget hlands) fun _ =>
        confined_log hlogs _
  | none =>
    rw [htext] at hwritten
    intro r hcwd hfile
    rw [write_apply_of_none htext, hcwd]
    split
    · exact .refl r
    · rename_i hplace
      dsimp only at hwritten
      rw [if_neg hplace] at hwritten
      refine sequential_confined.bind (confined_makeDirectories _ htarget.parent hmade)
        (fun _ => ?_) r hcwd hfile
      exact confined_change_copyFile _ htarget (Settings.normal_assetPath hs.input _)
        (hwritten _ (by simp)) (hwritten _ (by simp))

/-- An asset that is written takes no file away, and leaves alone where records go. -/
theorem change_of_write (hs : s.Normal) {asset : Processed} {out : Except BuildError Unit}
    (h : write s asset r = (out, r')) : r.Change (fun _ => True) (fun _ => True) r' := by
  have hchange : r.Change (fun _ => True) (fun _ => True) (write s asset r).2 :=
    confined_write hs (fun _ _ => trivial) asset (fun _ _ => trivial) (fun _ _ => trivial) r
      rfl rfl
  rwa [h] at hchange

/-- Writing assets one after the other reaches where one of them can land. -/
theorem confined_writeAll (hs : s.Normal) (hlogs : ∀ q, logFile = some q → written q)
    (assets : List Processed)
    (hmade : ∀ asset ∈ assets,
      ∀ q ∈ (s.target asset).parent.waypoints cwd, made q)
    (hwritten : ∀ asset ∈ assets, ∀ q ∈ s.landings cwd asset, written q) :
    Confined cwd logFile made written (writeAll s assets) := by
  refine sequential_confined.writeAll fun asset hasset => ?_
  exact confined_write hs hlogs asset (hmade asset hasset) (hwritten asset hasset)

/-- Where records go is the same after the writing. -/
theorem sinks_of_writeAll (hs : s.Normal) {assets : List Processed} {out : Except BuildError Unit}
    (h : writeAll s assets r = (out, r')) : r'.sinks = r.sinks := by
  have hchange : r.Change (fun _ => True) (fun _ => True) (writeAll s assets r).2 :=
    confined_writeAll hs (fun _ _ => trivial) assets (fun _ _ _ _ => trivial)
      (fun _ _ _ _ => trivial) r rfl rfl
  rw [h] at hchange
  exact hchange.sinks

/-! ## The courses -/

/-- The run when the names of the assets are known. -/
def begun (s : Settings) (names : List Text) (r : Run) : Run :=
  logTo true (BuildEvent.started s.locale names.length (s.inPlace r.tree.cwd)) r

/-- The end of a build: what came of it is logged and given. -/
def closing (result : BuildResult) : Build BuildResult := do
  logAll (result.warnings.map BuildEvent.missing)
  log (BuildEvent.complete result)
  log (BuildEvent.finished result)
  return result

/-- A build that starts from a run gets this far: it has its policy and the names of its assets. -/
structure Prepared (s : Settings) (r : Run) (p : Policy) (names : List Text) (r₁ : Run) : Prop where
  input : r.tree.isDirectory s.inputDir = .ok true
  policy : loadPolicy s r = (.ok p, r₁)
  names : s.assetNames r₁.tree = .ok names

/-- The courses that a build can take, each with its outcome and the run it ends in. -/
inductive Course (s : Settings) (schedule : Schedule) (duration : Binary64) (r : Run) :
    Except BuildError BuildResult → Run → Prop
  /-- The input directory cannot be asked for. -/
  | unasked {e : FileError} (hinput : r.tree.isDirectory s.inputDir = .error e) :
      Course s schedule duration r (.error (.file e)) r
  | noInput (hinput : r.tree.isDirectory s.inputDir = .ok false) :
      Course s schedule duration r (.error (.noInput s.inputDir)) r
  | noPolicy {e : BuildError} {r' : Run} (hinput : r.tree.isDirectory s.inputDir = .ok true)
      (hpolicy : loadPolicy s r = (.error e, r')) : Course s schedule duration r (.error e) r'
  | noNames {p : Policy} {r₁ : Run} {e : FileError}
      (hinput : r.tree.isDirectory s.inputDir = .ok true) (hpolicy : loadPolicy s r = (.ok p, r₁))
      (hnames : s.assetNames r₁.tree = .error e) :
      Course s schedule duration r (.error (.file e)) r₁
  | unprocessed {p : Policy} {r₁ r' : Run} {names : List Text} {e : BuildError}
      (hready : Prepared s r p names r₁)
      (hprocess : processAll s p schedule names (begun s names r₁) = (.error e, r')) :
      Course s schedule duration r (.error e) r'
  | unwritten {p : Policy} {r₁ r₂ r' : Run} {names : List Text} {assets : List Processed}
      {e : BuildError} (hready : Prepared s r p names r₁)
      (hprocess : processAll s p schedule names (begun s names r₁) = (.ok assets, r₂))
      (hwrite : writeAll s assets r₂ = (.error e, r')) : Course s schedule duration r (.error e) r'
  | finished {p : Policy} {r₁ r₂ r₃ r' : Run} {names : List Text} {assets : List Processed}
      (hready : Prepared s r p names r₁)
      (hprocess : processAll s p schedule names (begun s names r₁) = (.ok assets, r₂))
      (hwrite : writeAll s assets r₂ = (.ok (), r₃))
      (hclosing : closing (resultOf s duration assets) r₃
        = (.ok (resultOf s duration assets), r')) :
      Course s schedule duration r (.ok (resultOf s duration assets)) r'

/-- What a build does once it has the names of its assets. -/
def work (s : Settings) (schedule : Schedule) (duration : Binary64) (p : Policy)
    (names : List Text) : Build BuildResult := do
  let assets ← processAll s p schedule names
  writeAll s assets
  closing (resultOf s duration assets)

/-- The run of a build, phase by phase. -/
theorem run_apply (s : Settings) (schedule : Schedule) (duration : Binary64) (r : Run) :
    run s schedule duration r =
      match r.tree.isDirectory s.inputDir with
      | .error e => (.error (.file e), r)
      | .ok false => (.error (.noInput s.inputDir), r)
      | .ok true =>
        match loadPolicy s r with
        | (.error e, r₁) => (.error e, r₁)
        | (.ok p, r₁) =>
          match s.assetNames r₁.tree with
          | .error e => (.error (.file e), r₁)
          | .ok names => work s schedule duration p names (begun s names r₁) := by
  rw [run, bind_apply, get_apply]
  dsimp only
  cases r.tree.isDirectory s.inputDir with
  | error e => rfl
  | ok isDir =>
    cases isDir with
    | false => rfl
    | true =>
      dsimp only
      rw [bind_apply]
      rcases loadPolicy s r with ⟨_ | p, r₁⟩
      · rfl
      · dsimp only
        rw [bind_apply, get_apply]
        dsimp only
        cases s.assetNames r₁.tree <;> rfl

/-- The run of a build that gets as far as its assets. -/
theorem run_of_prepared {p : Policy} {names : List Text} {r₁ : Run} (h : Prepared s r p names r₁)
    (schedule : Schedule) (duration : Binary64) :
    run s schedule duration r = work s schedule duration p names (begun s names r₁) := by
  rw [run_apply, h.input]
  dsimp only
  rw [h.policy]
  dsimp only
  rw [h.names]

/-- Logging does not fail. -/
theorem exists_logAll (xs : List Record) (r : Run) : ∃ r', logAll xs r = (.ok (), r') := by
  induction xs generalizing r with
  | nil => exact ⟨r, rfl⟩
  | cons x xs ih =>
    obtain ⟨r', h⟩ := ih (logTo true x r)
    exact ⟨r', by rw [logAll, bind_apply, log_apply]; exact h⟩

/-- The end of a build, step by step. -/
theorem closing_apply (result : BuildResult) (r : Run) :
    closing result r = (.ok result,
      logTo true (BuildEvent.finished result) (logTo true (BuildEvent.complete result)
        (logAll (result.warnings.map BuildEvent.missing) r).2)) := by
  obtain ⟨r', h⟩ := exists_logAll (result.warnings.map BuildEvent.missing) r
  rw [closing, bind_apply, h]
  rfl

theorem exists_closing (result : BuildResult) (r : Run) :
    ∃ r', closing result r = (.ok result, r') := ⟨_, closing_apply result r⟩

/-- The end of a build only logs. -/
theorem Sequential.closing {P : ∀ {α : Type}, Build α → Prop} (hP : Sequential P)
    (hlog : ∀ x, OfBuild x → P (log x)) (result : BuildResult) : P (closing result) := by
  have hmissing : ∀ x ∈ result.warnings.map BuildEvent.missing, P (log x) := by
    intro x hx
    obtain ⟨m, -, rfl⟩ := List.mem_map.1 hx
    exact hlog _ (.missing m)
  refine hP.bind (hP.logAll hmissing) fun _ => ?_
  exact hP.bind (hlog _ (.complete _)) fun _ => hP.bind (hlog _ (.finished _)) fun _ =>
    hP.pure result

/-- The end of a build writes nothing but its log. -/
theorem change_closing (result : BuildResult) (r : Run) :
    r.Change Tree.nowhere (fun q => r.sinks.file = some q) (closing result r).2 :=
  sequential_confined.closing (fun x _ => confined_log (fun _ => id) x) result r rfl rfl

/-- The end of a build leaves the files as they were written. -/
theorem fileAt?_closing (hs : s.Normal) {assets : List Processed}
    (hwrite : writeAll s assets r = (.ok (), r')) (result : BuildResult) {q : Location}
    (hq : r.sinks.file ≠ some q) :
    (closing result r').2.tree.fileAt? q = r'.tree.fileAt? q := by
  rw [← sinks_of_writeAll hs hwrite] at hq
  exact (change_closing result r').tree.files q hq

/-- **A build takes no file away**, moves nothing and leaves the log where it was. -/
theorem change_run (hs : s.Normal) (schedule : Schedule) (duration : Binary64) (r : Run) :
    r.Change (fun _ => True) (fun _ => True) (run s schedule duration r).2 := by
  have hlogs : ∀ q, r.sinks.file = some q → True := fun _ _ => trivial
  rw [run_apply]
  split
  · exact .refl r
  · exact .refl r
  · have hpolicy : r.Change (fun _ => True) (fun _ => True) (loadPolicy s r).2 :=
      confined_loadPolicy hs hlogs (fun _ _ _ _ => trivial) (fun _ _ => trivial) r rfl rfl
    split
    · rename_i e r₁ heq
      rwa [heq] at hpolicy
    · rename_i p r₁ heq
      rw [heq] at hpolicy
      split
      · exact hpolicy
      · rename_i names hnames
        have hbegun : Run.Change (fun _ => True) (fun _ => True) r₁ (begun s names r₁) :=
          change_logTo (fun _ _ => trivial) true _ rfl
        refine hpolicy.trans (hbegun.trans ?_)
        refine sequential_confined.bind
          (confined_processAll (fun _ _ => trivial) s p schedule names) (fun assets => ?_) _ rfl rfl
        refine sequential_confined.bind (confined_writeAll hs (fun _ _ => trivial) assets
          (fun _ _ _ _ => trivial) fun _ _ _ _ => trivial) fun _ => ?_
        exact fun r _ _ => (change_closing _ r).mono (fun _ => False.elim) fun _ _ => trivial

/-- **The runs of a build are its courses.** -/
theorem course (s : Settings) (schedule : Schedule) (duration : Binary64) (r : Run) :
    Course s schedule duration r (run s schedule duration r).1 (run s schedule duration r).2 := by
  rw [run_apply]
  cases hinput : r.tree.isDirectory s.inputDir with
  | error e => exact .unasked hinput
  | ok isDir =>
    cases isDir with
    | false => exact .noInput hinput
    | true =>
      dsimp only
      rcases hpolicy : loadPolicy s r with ⟨_ | p, r₁⟩
      · exact .noPolicy hinput hpolicy
      · dsimp only
        cases hnames : s.assetNames r₁.tree with
        | error e => exact .noNames hinput hpolicy hnames
        | ok names =>
          have hready : Prepared s r p names r₁ := ⟨hinput, hpolicy, hnames⟩
          dsimp only
          rw [work, bind_apply]
          rcases hprocess : processAll s p schedule names (begun s names r₁) with ⟨_ | assets, r₂⟩
          · exact .unprocessed hready hprocess
          · dsimp only
            rw [bind_apply]
            rcases hwrite : writeAll s assets r₂ with ⟨_ | _, r₃⟩
            · exact .unwritten hready hprocess hwrite
            · obtain ⟨r', hclosing⟩ := exists_closing (resultOf s duration assets) r₃
              dsimp only
              rw [hclosing]
              exact .finished hready hprocess hwrite hclosing

/-- A build that succeeds has gone through all its phases. -/
theorem exists_of_run_eq_ok {b : BuildResult} (h : run s schedule duration r = (.ok b, r')) :
    ∃ p names assets r₁ r₂ r₃, Prepared s r p names r₁ ∧
      processAll s p schedule names (begun s names r₁) = (.ok assets, r₂) ∧
      writeAll s assets r₂ = (.ok (), r₃) ∧ b = resultOf s duration assets ∧
      r' = (closing b r₃).2 := by
  have hcourse := course s schedule duration r
  rw [h] at hcourse
  generalize hout : (Except.ok b : Except BuildError BuildResult) = out at hcourse
  cases hcourse with
  | finished hready hprocess hwrite hclosing =>
    cases hout
    exact ⟨_, _, _, _, _, _, hready, hprocess, hwrite, rfl, by rw [hclosing]⟩
  | _ => cases hout

/-- A build that has written its assets succeeds. -/
theorem run_of_written {p : Policy} {names : List Text} {assets : List Processed} {r₁ r₂ r₃ : Run}
    (hready : Prepared s r p names r₁)
    (hprocess : processAll s p schedule names (begun s names r₁) = (.ok assets, r₂))
    (hwrite : writeAll s assets r₂ = (.ok (), r₃)) :
    run s schedule duration r =
      (.ok (resultOf s duration assets), (closing (resultOf s duration assets) r₃).2) := by
  obtain ⟨r', hclosing⟩ := exists_closing (resultOf s duration assets) r₃
  rw [run_of_prepared hready, work, bind_apply, hprocess]
  dsimp only
  rw [bind_apply, hwrite]
  dsimp only
  rw [hclosing]

end Build
end Localize
