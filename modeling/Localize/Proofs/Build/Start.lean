import Localize.Command.Build
import Localize.Proofs.Build.Workers

/-!
# Where builds start

What is told of builds is told of runs that are sound (`Run.Sound`).  The build command starts with
such a run, unless its log file lies where its assets are (`sound_start`): the log file is made
ready first, and is there from then on.
-/

set_option autoImplicit false

namespace Localize

namespace Sinks

variable {t t' : Tree} {p : Path} {place : Location}

/-- **A log file that was made ready is there**, in a tree that is as it should be. -/
theorem of_openFile_eq_ok (hwell : t.WellFormed) (hcwd : ∀ part ∈ t.cwd, Path.IsName part)
    (hp : p.Normal) (h : openFile t p = (.ok place, t')) :
    place = p.resolve t.cwd ∧ t'.cwd = t.cwd ∧ t'.WellFormed ∧ (t'.fileAt? place).isSome := by
  have hmade := (Tree.change_makeDirectories (t := t) hp.parent).cwd
  have hwell' : (t.makeDirectories p.parent).2.WellFormed := hwell.makeDirectories
  rw [openFile] at h
  rcases hout : t.makeDirectories p.parent with ⟨e | _, u⟩
  · rw [hout] at h
    cases h
  · rw [hout] at h hmade hwell'
    dsimp only at h hmade hwell'
    rw [hmade] at h
    have hnames := Path.isName_of_mem_resolve hp hcwd
    have hplace : ∀ q, u.locate ⟨.absolute, p.resolve t.cwd⟩ = .ok q → q = p.resolve t.cwd := by
      intro q hlocate
      rw [Tree.eq_resolve_of_locate (fun part hpart => (hnames part hpart).1) hlocate]
      exact (Path.foldl_resolveStep_of_names (fun hup => (hnames _ hup).2 rfl) []).trans
        (List.nil_append _)
    split at h
    · rename_i bytes _ hstatus
      cases h
      obtain ⟨q, hlocate, hentry⟩ := Tree.status_eq_ok_iff.1 hstatus
      rw [hplace q hlocate] at hentry
      exact ⟨rfl, hmade, hwell', by rw [Tree.fileAt?_eq_some_iff.2 hentry]; rfl⟩
    · rename_i v _ hwrite _
      cases h
      have hwritten := hwell'.writeFile hwrite
      obtain ⟨q, hlocate, hentry, rfl⟩ := Tree.writeFile_eq_ok_iff.1 hwrite
      rw [hplace q hlocate] at hentry hwritten ⊢
      have hroot : p.resolve t.cwd ≠ [] := by
        intro hnil
        rw [hnil] at hentry
        exact hentry (Tree.entry?_root u)
      exact ⟨rfl, hmade, hwritten, by rw [Tree.fileAt?_set_file, if_pos ⟨rfl, hroot⟩]; rfl⟩
    · cases h

end Sinks

namespace Command.Build

/-- **The build command starts with a run that is sound**, unless its log file lies below its input
directory. -/
theorem sound_start {host : Host} {s : Settings} {quiet : Bool} {sinks : Sinks} {t : Tree}
    (hwell : host.tree.WellFormed) (hcwd : ∀ part ∈ host.tree.cwd, Path.IsName part)
    (hlog : ∀ p, s.logging.file = some p →
      p.Normal ∧ ¬ s.inputDir.resolve host.tree.cwd <+: p.resolve host.tree.cwd)
    (h : Sinks.configure host.tree s.logging quiet = (.ok sinks, t)) :
    (start host t sinks s).Sound s := by
  have hfile : ∀ file, (Sinks.ofSettings s.logging quiet file).file = file := by
    intro file
    rw [Sinks.ofSettings]
    split <;> rfl
  rw [Sinks.configure] at h
  cases hlogging : s.logging.file with
  | none =>
    rw [hlogging] at h
    dsimp only at h
    obtain ⟨hsinks, rfl⟩ := Prod.mk.inj h
    cases hsinks
    have hnone : ∀ place, (Sinks.ofSettings s.logging quiet none).file ≠ some place := by
      rw [hfile]
      exact nofun
    exact ⟨hwell, fun place hplace => absurd hplace (hnone place),
      fun place hplace => absurd hplace (hnone place)⟩
  | some p =>
    obtain ⟨hp, houtside⟩ := hlog p hlogging
    rw [hlogging] at h
    dsimp only at h
    rcases hopen : Sinks.openFile host.tree p with ⟨e | place, u⟩
    · rw [hopen] at h
      cases (Prod.mk.inj h).1
    · rw [hopen] at h
      obtain ⟨hsinks, rfl⟩ := Prod.mk.inj h
      cases hsinks
      obtain ⟨rfl, hsame, hwell', hthere⟩ := Sinks.of_openFile_eq_ok hwell hcwd hp hopen
      have hplace : ∀ place,
          (Sinks.ofSettings s.logging quiet (some (p.resolve host.tree.cwd))).file = some place →
            place = p.resolve host.tree.cwd := by
        rw [hfile]
        exact fun place heq => (Option.some.inj heq).symm
      refine ⟨hwell', fun place heq => ?_, fun place heq => ?_⟩
      · rw [hplace place heq]
        exact hthere
      · rw [hplace place heq]
        show ¬ s.inputDir.resolve u.cwd <+: _
        rw [hsame]
        exact houtside

end Command.Build
end Localize
