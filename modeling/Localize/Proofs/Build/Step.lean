import Localize.Proofs.Build.Sequential
import Localize.Proofs.Files.WellFormed

/-!
# What the steps of a build change

A build is a computation on a `Run`.  `Confined` says how far a computation can reach: whatever
comes of it, directories are made at given places only, and files are written at given places only.
It goes through a sequence of steps (`sequential_confined`), so it has to be shown for the steps
alone.

What a computation does to a run is a `Run.Change`: a change of the tree that leaves it as a system
of files has it, and leaves alone where records go.
-/

set_option autoImplicit false

namespace Localize

/-- The log file of a run is there, if it has one. -/
def Run.LogReady (r : Run) : Prop :=
  ∀ place, r.sinks.file = some place → (r.tree.fileAt? place).isSome

/-- What a run may have changed on its way: its tree, but not where records go. -/
structure Run.Change (made written : Location → Prop) (r r' : Run) : Prop where
  tree : Tree.Change made written r.tree r'.tree
  sinks : r'.sinks = r.sinks
  wellFormed : r.LogReady → r.tree.WellFormed → r'.tree.WellFormed

namespace Run.Change

variable {made written made' written' : Location → Prop} {r r' r'' : Run}

theorem refl (r : Run) : Run.Change made written r r := ⟨.refl r.tree, rfl, fun _ => id⟩

/-- The log file stays where it is. -/
theorem logReady (h : Run.Change made written r r') (hready : r.LogReady) : r'.LogReady := by
  intro place hplace
  rw [h.sinks] at hplace
  exact h.tree.kept place (hready place hplace)

theorem trans (h : Run.Change made written r r') (h' : Run.Change made written r' r'') :
    Run.Change made written r r'' where
  tree := h.tree.trans h'.tree
  sinks := h'.sinks.trans h.sinks
  wellFormed hready hwell := h'.wellFormed (h.logReady hready) (h.wellFormed hready hwell)

theorem mono (h : Run.Change made written r r') (hmade : ∀ q, made q → made' q)
    (hwritten : ∀ q, written q → written' q) : Run.Change made' written' r r' :=
  ⟨h.tree.mono hmade hwritten, h.sinks, h.wellFormed⟩

end Run.Change

namespace Build

variable {α : Type} {r r' : Run}

/-! ## How far a computation reaches -/

/-- Whatever comes of the computation in a run with this working directory and this log file, it
makes directories and writes files at these places only. -/
def Confined (cwd : Location) (logFile : Option Location) (made written : Location → Prop)
    (m : Build α) : Prop :=
  ∀ r, r.tree.cwd = cwd → r.sinks.file = logFile → Run.Change made written r (m r).2

section Confined

variable {cwd : Location} {logFile : Option Location} {made written : Location → Prop}

/-- **Steps one after the other reach as far as each of them.** -/
theorem sequential_confined : Sequential (Confined cwd logFile made written) := by
  have hseq : Sequential fun m => ∀ r : Run, r.tree.cwd = cwd ∧ r.sinks.file = logFile →
      r.Change made written (m r).2 :=
    sequential_of_trans (fun r _ => .refl r) .trans fun hr h =>
      ⟨h.tree.cwd.trans hr.1, (congrArg Sinks.file h.sinks).trans hr.2⟩
  show Sequential fun m => ∀ r : Run, r.tree.cwd = cwd → r.sinks.file = logFile →
    r.Change made written (m r).2
  simpa only [and_imp] using hseq

theorem confined_change_writeFile (wrap : FileError → BuildError) {p : Path} (bytes : Bytes)
    (hp : p.Normal) (hwritten : written (p.resolve cwd)) :
    Confined cwd logFile made written (change wrap (·.writeFile p bytes)) := by
  intro r hcwd _
  rw [change_apply]
  cases hwrite : r.tree.writeFile p bytes with
  | error e => exact .refl r
  | ok t =>
    obtain ⟨place, hlocate, -, rfl⟩ := Tree.writeFile_eq_ok_iff.1 hwrite
    have hplace := Tree.eq_resolve_of_locate hp hlocate
    rw [hcwd] at hplace
    refine ⟨(Tree.change_set_file r.tree place bytes).mono (fun _ => False.elim) ?_, rfl,
      fun _ hwell => hwell.writeFile hwrite⟩
    rintro q rfl
    exact hplace ▸ hwritten

theorem confined_change_copyFile (wrap : FileError → BuildError) {source target : Path}
    (htarget : target.Normal) (hsource : source.Normal)
    (hwritten : written (target.resolve cwd))
    (hinto : written ((target.join (.ofNames [source.name])).resolve cwd)) :
    Confined cwd logFile made written (change wrap (·.copyFile source target)) := by
  intro r hcwd _
  rw [change_apply]
  cases hcopy : r.tree.copyFile source target with
  | error e => exact .refl r
  | ok t =>
    obtain ⟨goal, place, bytes, hgoal, hread, hlocate, -, rfl⟩ := Tree.of_copyFile_eq_ok hcopy
    have hname := hsource.name (Tree.parts_ne_nil_of_readFile hread)
    have hplace : place = goal.resolve cwd := by
      rw [← hcwd]
      refine Tree.eq_resolve_of_locate ?_ hlocate
      rcases hgoal with ⟨rfl, -⟩ | ⟨rfl, -⟩
      · exact htarget
      · exact htarget.join fun part hpart => List.mem_singleton.1 hpart ▸ hname
    refine ⟨(Tree.change_set_file r.tree place bytes).mono (fun _ => False.elim) ?_, rfl,
      fun _ hwell => hwell.copyFile hcopy⟩
    rintro q rfl
    rcases hgoal with ⟨rfl, -⟩ | ⟨rfl, -⟩
    · exact hplace ▸ hwritten
    · exact hplace ▸ hinto

theorem confined_makeDirectories (wrap : FileError → BuildError) {p : Path} (hp : p.Normal)
    (hmade : ∀ q ∈ p.waypoints cwd, made q) :
    Confined cwd logFile made written (makeDirectories wrap p) := by
  intro r hcwd _
  have htree : Tree.Change made written r.tree (r.tree.makeDirectories p).2 :=
    (Tree.change_makeDirectories hp).mono (fun q hq => hmade q (hcwd ▸ hq)) fun _ => False.elim
  have hwell : r.tree.WellFormed → (r.tree.makeDirectories p).2.WellFormed :=
    fun hwell => hwell.makeDirectories
  rw [makeDirectories_apply]
  rcases hout : r.tree.makeDirectories p with ⟨out, t⟩
  rw [hout] at htree hwell
  cases out with
  | error e => exact ⟨htree, rfl, fun _ => hwell⟩
  | ok u => exact ⟨htree, rfl, fun _ => hwell⟩

/-! ### Records

From here on the log file, if there is one, may be written. -/

/-- A record goes to the log file or leaves the tree alone. -/
theorem tree_emit (s : Sinks) (time : Text) (x : Record) (t : Tree) :
    (s.emit time x t).2 = t ∨
      ∃ place bytes, s.file = some place ∧ (s.emit time x t).2 = t.append place bytes := by
  rw [Sinks.emit]
  rcases s.write time x with ⟨shown, added⟩
  dsimp only
  split
  · rename_i place line hplace
    exact Or.inr ⟨place, _, hplace, rfl⟩
  · exact Or.inl rfl

/-- **What a record that is logged does to a tree.** -/
theorem tree_logTo (known : Bool) (x : Record) (r : Run) :
    (logTo known x r).tree = r.tree ∨
      ∃ place bytes, r.sinks.file = some place ∧
        (logTo known x r).tree = r.tree.append place bytes := by
  cases known with
  | true => exact tree_emit r.sinks r.time x r.tree
  | false => exact tree_emit { r.sinks with context := [] } r.time x r.tree

variable (hlogs : ∀ q, logFile = some q → written q)

include hlogs

theorem change_logTo (known : Bool) (x : Record) (hfile : r.sinks.file = logFile) :
    Run.Change made written r (logTo known x r) := by
  rcases tree_logTo known x r with hsame | ⟨place, bytes, hplace, happend⟩
  · refine ⟨?_, rfl, fun _ hwell => ?_⟩
    · rw [hsame]
      exact .refl r.tree
    · rw [hsame]
      exact hwell
  · refine ⟨?_, rfl, fun hready hwell => ?_⟩
    · rw [happend]
      refine (Tree.change_append r.tree place bytes).mono (fun _ => False.elim) ?_
      rintro q rfl
      exact hlogs q (hfile ▸ hplace)
    · rw [happend]
      exact hwell.append (hready place hplace)

theorem confined_logTo (known : Bool) (x : Record) :
    Confined cwd logFile made written (modify (logTo known x) : Build Unit) :=
  fun _ _ hfile => change_logTo hlogs known x hfile

theorem confined_log (x : Record) : Confined cwd logFile made written (log x) :=
  confined_logTo hlogs true x

/-! ### The table -/

theorem confined_writeTable (locale : Text) (table : Table) {directory : Path}
    (hp : directory.Normal) (hmade : ∀ q ∈ directory.waypoints cwd, made q)
    (hwritten : written ((Catalog.lookupTarget locale directory).resolve cwd)) :
    Confined cwd logFile made written (writeTable locale table directory) :=
  sequential_confined.writeTable (fun x _ _ => confined_log hlogs x)
    (fun wrap => confined_makeDirectories wrap hp hmade)
    (fun wrap bytes =>
      confined_change_writeFile wrap bytes (hp.join (Path.normal_ofText _)) hwritten)
    table

/-! ### Working on assets -/

/-- **Working on assets writes nothing** but records. -/
theorem confined_processAll (s : Settings) (p : Policy) (schedule : Schedule) (names : List Text) :
    Confined cwd logFile made written (processAll s p schedule names) :=
  sequential_confined.processAll (fun known x _ => confined_logTo hlogs known x) s p schedule names

end Confined
end Build
end Localize
