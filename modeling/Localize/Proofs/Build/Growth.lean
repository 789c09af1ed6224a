import Localize.Proofs.Build.Processing
import Localize.Proofs.Files.Growth

/-!
# The tree of a build only grows

Whatever comes of a step of a build, it takes nothing out of the tree (`Build.Growing`): it makes
directories, writes files where no directory is, and logs.  That goes through sequences of steps
(`sequential_growing`), so it has to be shown for the steps alone.

Steps that only log are growing (`growing_of_onlyLogs`), which settles the work on assets and the
end of a build at once.
-/

set_option autoImplicit false

namespace Localize

/-- What a run does to its tree only adds to it, and records go where they went. -/
structure Run.Grows (r r' : Run) : Prop where
  tree : Tree.Grows r.tree r'.tree
  sinks : r'.sinks = r.sinks

namespace Run.Grows

variable {r r' r'' : Run}

theorem refl (r : Run) : r.Grows r := ⟨.refl r.tree, rfl⟩

theorem trans (h : r.Grows r') (h' : r'.Grows r'') : r.Grows r'' :=
  ⟨h.tree.trans h'.tree, h'.sinks.trans h.sinks⟩

/-- The log file stays where it is. -/
theorem logReady (h : r.Grows r') (hready : r.LogReady) : r'.LogReady := by
  intro place hplace
  rw [h.sinks] at hplace
  exact h.tree.files place (hready place hplace)

theorem of_alike (h : r.Alike r') : r.Grows r' := ⟨.of_alike h.tree, h.sinks⟩

end Run.Grows

namespace Build

variable {α : Type} {s : Settings} {r r' : Run}

/-- Whatever comes of the computation, the tree only grows. -/
def Growing (m : Build α) : Prop := ∀ r : Run, r.LogReady → r.Grows (m r).2

theorem growing_of_onlyLogs {m : Build α} (h : OnlyLogs m) : Growing m :=
  fun r hready => .of_alike (h r hready)

/-- **Steps that let the tree grow, one after the other, let it grow.** -/
theorem sequential_growing : Sequential Growing :=
  sequential_of_trans (fun r _ => .refl r) .trans fun hready h => h.logReady hready

theorem growing_log (x : Record) : Growing (log x) := growing_of_onlyLogs (onlyLogs_log x)

theorem growing_change (wrap : FileError → BuildError) {f : Tree → Except FileError Tree}
    (hf : ∀ t t', f t = .ok t' → Tree.Grows t t') : Growing (change wrap f) := by
  intro r _
  rw [change_apply]
  cases hout : f r.tree with
  | error e => exact .refl r
  | ok t => exact ⟨hf r.tree t hout, rfl⟩

theorem growing_writeFile (wrap : FileError → BuildError) (p : Path) (bytes : Bytes) :
    Growing (change wrap (·.writeFile p bytes)) :=
  growing_change wrap fun _ _ => Tree.Grows.writeFile

theorem growing_copyFile (wrap : FileError → BuildError) (source target : Path) :
    Growing (change wrap (·.copyFile source target)) :=
  growing_change wrap fun _ _ => Tree.Grows.copyFile

theorem growing_makeDirectories (wrap : FileError → BuildError) (p : Path) :
    Growing (makeDirectories wrap p) := by
  intro r _
  have hgrows := Tree.Grows.makeDirectories r.tree p
  rw [makeDirectories_apply]
  rcases hmade : r.tree.makeDirectories p with ⟨e | _, t⟩
  · rw [hmade] at hgrows
    exact ⟨hgrows, rfl⟩
  · rw [hmade] at hgrows
    exact ⟨hgrows, rfl⟩

/-! ## The phases of a build -/

theorem growing_writeTable (locale : Text) (table : Table) (directory : Path) :
    Growing (writeTable locale table directory) :=
  sequential_growing.writeTable (fun x _ _ => growing_log x)
    (fun wrap => growing_makeDirectories wrap directory)
    (fun wrap bytes => growing_writeFile wrap _ bytes) table

theorem growing_loadPolicy (s : Settings) : Growing (loadPolicy s) :=
  sequential_growing.loadPolicy (fun x _ => growing_log x) fun _ directory table _ _ =>
    growing_writeTable s.locale table directory

theorem growing_write (s : Settings) (asset : Processed) : Growing (write s asset) := by
  cases htext : asset.text with
  | some text =>
    rw [write_of_some htext]
    refine sequential_growing.bind (growing_makeDirectories _ _) fun _ => ?_
    split
    · exact sequential_growing.throw _
    · exact sequential_growing.bind (growing_writeFile _ _ _) fun _ => growing_log _
  | none =>
    intro r hready
    rw [write_apply_of_none htext]
    split
    · exact .refl r
    · exact sequential_growing.bind (growing_makeDirectories _ _)
        (fun _ => growing_copyFile _ _ _) r hready

theorem growing_writeAll (s : Settings) (assets : List Processed) : Growing (writeAll s assets) :=
  sequential_growing.writeAll fun asset _ => growing_write s asset

theorem onlyLogs_closing (result : BuildResult) : OnlyLogs (closing result) :=
  sequential_onlyLogs.closing (fun x _ => onlyLogs_log x) result

end Build
end Localize
