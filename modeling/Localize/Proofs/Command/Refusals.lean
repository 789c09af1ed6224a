import Localize.Proofs.Command.Checked
import Localize.Proofs.Files.Tree
import Localize.Proofs.Settings.Refusals

/-!
# How a build ends that has no settings

A build whose settings cannot be loaded does nothing, and says why.  If the cause is one to expect,
the exit code tells that it is the settings; but the command breaks down at a file that breaks the
loading, with the exit code of any failure (`command_of_settings_error`).  Which of the two it is
depends on the file and on the room there is for reading it, and on no option, as the options of a
command line are always such as can be laid over a document (`plain_options`).
-/

set_option autoImplicit false

namespace Localize
namespace Command

open Settings (Breaks LoadError Plain)

variable {host : Host} {words : List Text} {line : Line BuildOption} {q : BuildRequest}
variable {cause : LoadError}

theorem BuildRequest.entries?_orNull {α : Type} {toValue : α → Value}
    (h : ∀ a, (toValue a).entries? = none) (o : Option α) : (orNull toValue o).entries? = none := by
  cases o with
  | none => rfl
  | some a => exact h a

/-- **The options of a request can be laid over a document.** -/
theorem BuildRequest.plain_options (q : BuildRequest) : Plain q.options where
  noMapping e he := by
    rw [options] at he
    simp only [List.mem_cons, List.not_mem_nil, or_false] at he
    rcases he with rfl | rfl | rfl | rfl | rfl | rfl | rfl | rfl | rfl | rfl | rfl | rfl | rfl <;>
      first | rfl | exact entries?_orNull (fun _ => rfl) _
  items σ hrule v hlookup _ := by
    cases σ <;> cases hrule <;> cases hlookup <;> exact Or.inr ⟨_, rfl⟩

namespace Build

/-- The settings of a request are broken by the file that it names. -/
def IsBroken (host : Host) (q : BuildRequest) : Prop :=
  ∃ path, q.config = some path ∧ Breaks host.room host.tree path

/-- A cause that nobody expects is that of a file that breaks the loading. -/
theorem isBroken_iff (h : q.settings host = .error cause) :
    IsBroken host q ↔ cause.isExpected = false :=
  (Settings.isExpected_eq_false_iff q.plain_options h).symm

theorem command_eq_carryOut (hread : Line.read BuildOption.forms true words = .ok line)
    (hhelp : line.has .help = false) (hrequest : BuildRequest.ofLine host.tree line = .ok q) :
    command host words = carryOut host q := by
  rw [command, hread]
  dsimp only
  rw [hhelp, if_neg Bool.false_ne_true, hrequest]

/-- A host with a directory where a file could be. -/
def directoryHost : Host where
  tree := { entries := [([['c']], .directory)], cwd := [] }

/-- A directory in the place of the file, a text that is no document, lists with too little room for
them, and a key that is a number break the command, which has no settings. -/
theorem failed_of_broken_file :
    ∀ host ∈ [directoryHost, fileHost "[", { fileHost "[[a]]" with room := 3 }, fileHost "1: a"],
      (BuildRequest.settings host { config := some (Path.ofText "c") }).toOption = none ∧
        (command host (fileWords "c")).exitCode = failed ∧
        (command host (fileWords "c")).failure.isSome := by
  decide +kernel

end Build
end Command
end Localize
