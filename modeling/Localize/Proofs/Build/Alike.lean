import Localize.Proofs.Build.Course
import Localize.Proofs.Files.Alike

/-!
# Runs that differ in what they logged

Two runs are `Run.Alike` if their trees agree but for the bytes of the log file.  No step of a build
reads the log file, unless that is an asset (`Run.LogApart`), so steps in runs that are alike come
out the same and leave runs that are alike (`Build.Same`).  This goes through sequences of steps
(`Same.bind`), and so through the writing of assets (`same_writeAll`).
-/

set_option autoImplicit false

namespace Localize

/-- The runs have the same trees, but for the bytes of their log file. -/
structure Run.Alike (r r' : Run) : Prop where
  tree : Tree.Alike r.sinks.file r.tree r'.tree
  sinks : r'.sinks = r.sinks
  ready : r.LogReady

namespace Run

variable {r r' r'' : Run}

/-- No asset of these names is the log file. -/
def LogApart (r : Run) (s : Settings) (names : List Text) : Prop :=
  ∀ name ∈ names, r.sinks.file ≠ some ((Settings.assetPath s.inputDir name).resolve r.tree.cwd)

namespace Alike

theorem refl (h : r.LogReady) : r.Alike r := ⟨.refl r.tree, rfl, h⟩

theorem ready' (h : r.Alike r') : r'.LogReady := by
  intro place hplace
  rw [h.sinks] at hplace
  rw [h.tree.isSome_fileAt?]
  exact h.ready place hplace

theorem symm (h : r.Alike r') : r'.Alike r :=
  ⟨h.sinks ▸ h.tree.symm, h.sinks.symm, h.ready'⟩

theorem trans (h : r.Alike r') (h' : r'.Alike r'') : r.Alike r'' :=
  ⟨h.tree.trans (h.sinks ▸ h'.tree), h'.sinks.trans h.sinks, h.ready⟩

theorem logApart (h : r.Alike r') {s : Settings} {names : List Text} (hapart : r.LogApart s names) :
    r'.LogApart s names := by
  intro name hname
  rw [h.sinks, h.tree.cwd]
  exact hapart name hname

end Alike

theorem LogApart.of_change {s : Settings} {names : List Text} {made written : Location → Prop}
    (hapart : r.LogApart s names) (h : r.Change made written r') : r'.LogApart s names := by
  intro name hname
  rw [h.sinks, h.tree.cwd]
  exact hapart name hname

/-- **A record that is logged changes nothing else.** -/
theorem alike_logTo (h : r.LogReady) (known : Bool) (x : Record) :
    r.Alike (Build.logTo known x r) := by
  refine ⟨?_, rfl, h⟩
  rcases Build.tree_logTo known x r with hsame | ⟨place, bytes, hplace, happend⟩
  · rw [hsame]
    exact .refl r.tree
  · obtain ⟨old, hold⟩ := Option.isSome_iff_exists.1 (h place hplace)
    rw [happend, hplace, Tree.append, hold]
    exact Tree.Alike.of_set_file r.tree (h place hplace) _

/-- Records that are logged change nothing else. -/
theorem alike_foldl_logTo (h : r.LogReady) (known : Bool) (xs : List Record) :
    r.Alike (xs.foldl (fun r x => Build.logTo known x r) r) := by
  induction xs generalizing r with
  | nil => exact .refl h
  | cons x xs ih =>
    have hfirst := alike_logTo h known x
    exact hfirst.trans (ih hfirst.ready')

end Run

namespace Build

variable {α β : Type} {s : Settings} {r r' : Run}

/-- The computation comes out the same in both runs, and leaves runs that are alike. -/
def Same (m : Build α) (r r' : Run) : Prop := (m r').1 = (m r).1 ∧ (m r).2.Alike (m r').2

/-- **Steps that come out the same, one after the other.** -/
theorem Same.bind {m : Build α} {f : α → Build β} (h : Same m r r')
    (hf : ∀ a r₁ r₁', m r = (.ok a, r₁) → r₁.Alike r₁' → Same (f a) r₁ r₁') :
    Same (m >>= f) r r' := by
  obtain ⟨houtcome, halike⟩ := h
  rcases hm : m r with ⟨out, r₁⟩
  rcases hm' : m r' with ⟨out', r₁'⟩
  rw [hm, hm'] at houtcome halike
  obtain rfl : out' = out := houtcome
  constructor
  · rw [bind_apply, bind_apply, hm, hm']
    cases out' with
    | error e => rfl
    | ok a => exact (hf a r₁ r₁' hm halike).1
  · rw [bind_apply, bind_apply, hm, hm']
    cases out' with
    | error e => exact halike
    | ok a => exact (hf a r₁ r₁' hm halike).2

theorem same_pure (h : r.Alike r') (a : α) : Same (pure a) r r' := ⟨rfl, h⟩

theorem same_throw (h : r.Alike r') (e : BuildError) : Same (throw e : Build α) r r' := ⟨rfl, h⟩

theorem same_log (h : r.Alike r') (x : Record) : Same (log x) r r' :=
  ⟨rfl, (Run.alike_logTo h.ready true x).symm.trans (h.trans (Run.alike_logTo h.ready' true x))⟩

/-- A change of the tree that comes out alike in both trees, and keeps the files there are. -/
theorem same_change (h : r.Alike r') (wrap : FileError → BuildError)
    {f : Tree → Except FileError Tree}
    (hout : Tree.Alike.Outcome r.sinks.file (f r.tree) (f r'.tree))
    (hkept : ∀ t, f r.tree = .ok t → ∀ q, (r.tree.fileAt? q).isSome → (t.fileAt? q).isSome) :
    Same (change wrap f) r r' := by
  constructor
  · rw [change_apply, change_apply]
    generalize f r.tree = out at hout
    generalize f r'.tree = out' at hout
    cases hout <;> rfl
  · rw [change_apply, change_apply]
    generalize f r.tree = out at hout hkept
    generalize f r'.tree = out' at hout
    cases hout with
    | error e => exact h
    | ok ht => exact ⟨ht, h.sinks, fun place hplace => hkept _ rfl place (h.ready place hplace)⟩

theorem same_writeFile (h : r.Alike r') (wrap : FileError → BuildError) (p : Path) (bytes : Bytes) :
    Same (change wrap (·.writeFile p bytes)) r r' := by
  refine same_change h wrap (h.tree.writeFile p bytes) fun t hwrite => ?_
  obtain ⟨place, -, -, rfl⟩ := Tree.writeFile_eq_ok_iff.1 hwrite
  exact (Tree.change_set_file r.tree place bytes).kept

theorem same_copyFile (h : r.Alike r') (wrap : FileError → BuildError) {source : Path}
    (hsource : source.Normal) (hplace : r.sinks.file ≠ some (source.resolve r.tree.cwd))
    (target : Path) : Same (change wrap (·.copyFile source target)) r r' := by
  refine same_change h wrap (h.tree.copyFile hsource hplace target) fun t hcopy => ?_
  obtain ⟨goal, place, bytes, -, -, -, -, rfl⟩ := Tree.of_copyFile_eq_ok hcopy
  exact (Tree.change_set_file r.tree place bytes).kept

theorem same_makeDirectories (h : r.Alike r') (wrap : FileError → BuildError) {p : Path}
    (hp : p.Normal) : Same (makeDirectories wrap p) r r' := by
  have hout := h.tree.makeDirectories p
  have hkept := (Tree.change_makeDirectories (t := r.tree) hp).kept
  rcases hmade : r.tree.makeDirectories p with ⟨out, t⟩
  rcases hmade' : r'.tree.makeDirectories p with ⟨out', t'⟩
  rw [hmade, hmade'] at hout
  rw [hmade] at hkept
  obtain ⟨rfl, ht⟩ := hout
  dsimp only at ht hkept
  have halike : Run.Alike { r with tree := t } { r' with tree := t' } :=
    ⟨ht, h.sinks, fun place hplace => hkept place (h.ready place hplace)⟩
  constructor
  · rw [makeDirectories_apply, makeDirectories_apply, hmade, hmade']
    cases out' <;> rfl
  · rw [makeDirectories_apply, makeDirectories_apply, hmade, hmade']
    cases out' <;> exact halike

/-! ## Steps that only log -/

/-- The computation changes nothing but what is logged. -/
def OnlyLogs (m : Build α) : Prop := ∀ r : Run, r.LogReady → r.Alike (m r).2

/-- **Steps that only log, one after the other, only log.** -/
theorem sequential_onlyLogs : Sequential OnlyLogs :=
  sequential_of_trans (fun _ h => .refl h) .trans fun _ h => h.ready'

theorem onlyLogs_log (x : Record) : OnlyLogs (log x) := fun _ h => Run.alike_logTo h true x

theorem onlyLogs_loadTable (locale : Text) (path : Path) (includeFuzzy : Bool) :
    OnlyLogs (loadTable locale path includeFuzzy) :=
  sequential_onlyLogs.loadTable (fun x _ _ => onlyLogs_log x) locale path includeFuzzy

/-- **Getting the table** only logs, unless the table is written down. -/
theorem onlyLogs_loadPolicy (h : s.catalog.lookupDir = none) : OnlyLogs (loadPolicy s) := by
  refine sequential_onlyLogs.loadPolicy (fun x _ => onlyLogs_log x) ?_
  intro path directory table _ hdir
  rw [h] at hdir
  cases hdir

/-- Up to its assets, a build that writes down no table only logs. -/
theorem Prepared.alike {p : Policy} {names : List Text} {r₁ : Run} (h : Prepared s r p names r₁)
    (hlookup : s.catalog.lookupDir = none) (hready : r.LogReady) : r.Alike r₁ := by
  have hlogs := onlyLogs_loadPolicy hlookup r hready
  rwa [h.policy] at hlogs

/-! ## Writing assets -/

/-- **An asset is written the same in runs that are alike.** -/
theorem same_write (hs : s.Normal) (h : r.Alike r') {asset : Processed}
    (hapart : r.LogApart s [asset.result.name]) : Same (write s asset) r r' := by
  have htarget := Settings.normal_assetPath hs.output asset.result.name
  have hsource := Settings.normal_assetPath hs.input asset.result.name
  cases htext : asset.text with
  | some t =>
    rw [write_of_some htext]
    refine (same_makeDirectories h _ htarget.parent).bind fun _ r₁ r₁' _ h₁ => ?_
    split
    · exact same_throw h₁ _
    · exact (same_writeFile h₁ _ _ _).bind fun _ r₂ r₂' _ h₂ => same_log h₂ _
  | none =>
    have hcopy : Same (do
        makeDirectories (.unwritable asset.result.name) (s.target asset).parent
        change (.unwritable asset.result.name) (·.copyFile (s.source asset) (s.target asset))
          : Build Unit) r r' := by
      refine (same_makeDirectories h _ htarget.parent).bind fun _ r₁ r₁' hmade h₁ => ?_
      refine same_copyFile h₁ _ hsource ?_ _
      have hchange : r.Change (fun _ => True) (fun _ => True) (makeDirectories
          (.unwritable asset.result.name) (s.target asset).parent r).2 :=
        confined_makeDirectories _ htarget.parent (fun _ _ => trivial) r rfl rfl
      rw [hmade] at hchange
      exact hapart.of_change hchange _ List.mem_cons_self
    rw [Same, write_apply_of_none htext, write_apply_of_none htext, h.tree.cwd]
    split
    · exact ⟨rfl, h⟩
    · exact hcopy

/-- **Assets are written the same in runs that are alike**, as far as they can be written. -/
theorem same_writeAll (hs : s.Normal) (h : r.Alike r') {assets : List Processed}
    (hapart : r.LogApart s (assets.map (·.result.name))) : Same (writeAll s assets) r r' := by
  induction assets generalizing r r' with
  | nil => exact same_pure h ()
  | cons asset rest ih =>
    rw [List.map_cons] at hapart
    have hfirst : r.LogApart s [asset.result.name] := fun name hname =>
      hapart name (List.mem_singleton.1 hname ▸ List.mem_cons_self)
    refine (same_write hs h hfirst).bind fun _ r₁ r₁' hwrite h₁ => ih h₁ ?_
    have hrest : r.LogApart s (rest.map (·.result.name)) := fun name hname =>
      hapart name (List.mem_cons_of_mem _ hname)
    exact hrest.of_change (change_of_write hs hwrite)

end Build
end Localize
