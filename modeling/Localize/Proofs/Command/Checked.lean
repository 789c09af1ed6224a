import Localize.Command.Build
import Localize.Command.Check
import Localize.Proofs.Settings.Fields
import Localize.Proofs.Settings.Precedence

/-!
# Settings that are checked, and settings that are built by

A check loads the settings of a file as they are.  A build that is told nothing but the file lays
its options over them, and one of these is a number that is always given: the verbosity, which is
zero if it is not asked for.  So a build that is told nothing but the file does not always work by
what was checked: its verbosity is nothing, and what the file says of the verbosity, sense or
nonsense, goes unread (`settings_of_check_and_build`).
-/

set_option autoImplicit false

namespace Localize
namespace Command

open Settings (Agree ButForVerbosity fromEnvironment merge readDocument readFields readVerbosity
  silence withVerbosity)

variable {host : Host} {file : Path} {word : Text}

/-- The words that give a command a file, and nothing else. -/
def fileWords (word : Text) : List Text := ["-c", word]

/-! ## Command lines -/

theorem Check.read_fileWords (word : Text) :
    Line.read Check.forms true (fileWords word) = .ok { given := [⟨.config, word⟩] } := by
  rfl

theorem Build.read_fileWords (word : Text) :
    Line.read BuildOption.forms true (fileWords word) = .ok { given := [⟨.config, word⟩] } := by
  rfl

/-- A path that is read is that of its text. -/
theorem eq_of_readPath {tree : Tree} {kind : PathKind} {mustExist : Bool}
    (h : readPath tree kind mustExist word = .ok file) : file = Path.ofText word := by
  rw [readPath] at h
  split at h
  · dsimp only at h
    split at h
    · cases h
    · split at h <;> cases h
      rfl
  · split at h <;> cases h
    rfl
  · split at h <;> cases h
    rfl

theorem Check.file_fileWords (tree : Tree) (word : Text) :
    Check.file tree { given := [⟨.config, word⟩] }
      = ((readPath tree .any true word).mapError (.invalid Check.configSpellings)).map some := by
  show (some <$> (readPath tree .any true word).mapError _ >>= fun file => .ok file) = _
  cases readPath tree .any true word <;> rfl

theorem Build.ofLine_fileWords (tree : Tree) (word : Text) :
    BuildRequest.ofLine tree { given := [⟨.config, word⟩] }
      = ((readPath tree .any true word).mapError (.invalid BuildOption.config.spellings)).map
          fun file => { config := some file } := by
  show ((((readPath tree .any true word).map fun _ => ()).mapError _ >>= fun _ => .ok ())
    >>= fun _ => .ok ({ config := some (Path.ofText word) } : BuildRequest)) = _
  cases hread : readPath tree .any true word with
  | error c => rfl
  | ok file => rw [eq_of_readPath hread]; rfl

theorem Check.command_fileWords (host : Host) (word : Text) :
    Check.command host (fileWords word) =
      match readPath host.tree .any true word with
      | .error c => .usage host Check.page (.invalid Check.configSpellings c)
      | .ok file => Check.carryOut host (some file) := by
  rw [Check.command, Check.read_fileWords]
  dsimp only
  rw [Check.file_fileWords, if_neg (by exact Bool.false_ne_true)]
  cases readPath host.tree .any true word <;> rfl

theorem Build.command_fileWords (host : Host) (word : Text) :
    Build.command host (fileWords word) =
      match readPath host.tree .any true word with
      | .error c => .usage host Build.page (.invalid BuildOption.config.spellings c)
      | .ok file => Build.carryOut host { config := some file } := by
  rw [Build.command, Build.read_fileWords]
  dsimp only
  rw [Build.ofLine_fileWords, if_neg (by exact Bool.false_ne_true)]
  cases readPath host.tree .any true word <;> rfl

/-! ## Settings -/

/-- A request that is told nothing but the file says that there is no verbosity. -/
theorem fromOptions_config (file : Option Path) :
    Settings.fromOptions (BuildRequest.options { config := file }) = .ok silence := by
  rfl

/-- What a check and a build load from a file. -/
theorem butForVerbosity {doc : Settings.Document}
    (hread : readDocument host.room host.tree (some file) = .ok doc) :
    ButForVerbosity (readFields readVerbosity (merge doc (fromEnvironment host.environment)))
      (Check.settings host (some file))
      (BuildRequest.settings host { config := some file }) := by
  have hnone : Settings.fromOptions [] = .ok [] := rfl
  have hcheck : Check.settings host (some file)
      = Settings.ofDocument (merge doc (fromEnvironment host.environment)) :=
    Settings.load_of_readDocument hread hnone host.environment
  have hbuild : BuildRequest.settings host { config := some file }
      = Settings.ofDocument (merge (merge doc (fromEnvironment host.environment)) silence) :=
    Settings.load_of_readDocument hread (fromOptions_config (some file)) host.environment
  rw [hcheck, hbuild]
  exact Settings.ofDocument_merge_silence _

/-- **What is checked is what is built by, but for the verbosity.**  Given the same file and nothing
else, both commands refuse it or both load settings from it.  If the file cannot be read, neither
has any.  If it can, settings that are checked are built by with no verbosity, and settings that are
built by are checked if the verbosity can be read.  They agree, then, exactly if the build has none,
or what the file says of the verbosity is read as nothing. -/
theorem settings_of_check_and_build (host : Host) (word : Text) :
    (∃ c, Check.command host (fileWords word)
        = .usage host Check.page (.invalid Check.configSpellings c) ∧
      Build.command host (fileWords word)
        = .usage host Build.page (.invalid BuildOption.config.spellings c)) ∨
    ∃ file, Check.command host (fileWords word) = Check.carryOut host (some file) ∧
      Build.command host (fileWords word) = Build.carryOut host { config := some file } ∧
      ((∃ e, Check.settings host (some file) = .error e ∧
          BuildRequest.settings host { config := some file } = .error e) ∨
        ∃ doc, readDocument host.room host.tree (some file) = .ok doc ∧
          ButForVerbosity (readFields readVerbosity (merge doc (fromEnvironment host.environment)))
            (Check.settings host (some file))
            (BuildRequest.settings host { config := some file }) ∧
          (∀ s, Check.settings host (some file) = .ok s →
            BuildRequest.settings host { config := some file } = .ok (withVerbosity 0 s)) ∧
          (Agree (Check.settings host (some file))
              (BuildRequest.settings host { config := some file }) ↔
            (∃ e, BuildRequest.settings host { config := some file } = .error e) ∨
              readFields readVerbosity (merge doc (fromEnvironment host.environment)) = .ok 0)) := by
  rw [Check.command_fileWords, Build.command_fileWords]
  cases readPath host.tree .any true word with
  | error c => exact Or.inl ⟨c, rfl, rfl⟩
  | ok file =>
    refine Or.inr ⟨file, rfl, rfl, ?_⟩
    cases hread : readDocument host.room host.tree (some file) with
    | error e =>
      refine Or.inl ⟨e, ?_, ?_⟩
      · rw [Check.settings, Settings.load, hread]
        rfl
      · rw [BuildRequest.settings, Settings.load, hread]
        rfl
    | ok doc =>
      have hbut := butForVerbosity hread
      exact Or.inr ⟨doc, rfl, hbut, fun s => hbut.eq_ok, hbut.agree_iff⟩

/-- A host with a file and nothing else. -/
def fileHost (content : Text) : Host where
  tree := { entries := [([['c']], .file (Utf8.encodeLossy content))], cwd := [] }

/-- A host with a file that asks for a verbosity. -/
def verboseHost : Host := fileHost "logging:\n  verbose: 2\n"

/-- A host with a file in which the section on logging is a number. -/
def numberHost : Host := fileHost "logging: 5\n"

/-- Settings that are loaded, told by the outcome without its trouble. -/
theorem eq_ok_of_toOption {x : Except Settings.LoadError Settings} {s : Settings}
    (h : x.toOption = some s) : x = .ok s := by
  cases x <;> cases h
  rfl

/-- Different settings do not agree. -/
theorem not_agree_of_ne {x y : Except Settings.LoadError Settings} {s t : Settings} (hx : x = .ok s)
    (hy : y = .ok t) (hne : s ≠ t) : ¬ Agree x y := by
  rw [hx, hy]
  exact hne

/-- A check finds a verbosity of two where a build has none, and refuses a section on logging that
is a number, which a build goes on without. -/
theorem not_agree_of_verbosity :
    Check.command verboseHost (fileWords "c")
        = Check.carryOut verboseHost (some (Path.ofText "c")) ∧
      Build.command verboseHost (fileWords "c")
        = Build.carryOut verboseHost { config := some (Path.ofText "c") } ∧
      Check.settings verboseHost (some (Path.ofText "c")) = .ok { logging := { verbose := 2 } } ∧
      BuildRequest.settings verboseHost { config := some (Path.ofText "c") } = .ok {} ∧
      (∃ e, Check.settings numberHost (some (Path.ofText "c")) = .error e) ∧
      BuildRequest.settings numberHost { config := some (Path.ofText "c") } = .ok {} ∧
      ¬ ∀ host file, Agree (Check.settings host (some file))
        (BuildRequest.settings host { config := some file }) := by
  have hchecked : Check.settings verboseHost (some (Path.ofText "c"))
      = .ok { logging := { verbose := 2 } } := eq_ok_of_toOption (by decide +kernel)
  have hbuilt : BuildRequest.settings verboseHost { config := some (Path.ofText "c") } = .ok {} :=
    eq_ok_of_toOption (by decide +kernel)
  have hnone : (Check.settings numberHost (some (Path.ofText "c"))).toOption = none := by
    decide +kernel
  have hfile : readPath verboseHost.tree .any true "c" = .ok (Path.ofText "c") := by
    rfl
  refine ⟨by rw [Check.command_fileWords, hfile], by rw [Build.command_fileWords, hfile], hchecked,
    hbuilt, ?_, eq_ok_of_toOption (by decide +kernel), Classical.not_forall.2 ⟨verboseHost,
      Classical.not_forall.2 ⟨Path.ofText "c", not_agree_of_ne hchecked hbuilt (by decide)⟩⟩⟩
  cases hsettings : Check.settings numberHost (some (Path.ofText "c")) with
  | error e => exact ⟨e, rfl⟩
  | ok s =>
    rw [hsettings] at hnone
    cases hnone

end Command
end Localize
