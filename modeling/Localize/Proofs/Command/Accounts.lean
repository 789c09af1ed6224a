import Localize.Command.Build
import Localize.Proofs.Build.Accounts

/-!
# What a build reports, and how its command exits

A build that came to its end gives a result, and from the result come the report and the exit code
of the command.  Both tell what was counted nugget by nugget: the report lists what is missing, and
a strict command exits with a code of its own if anything is (`accounts_of_run`).

Saving the report does not change the exit code, nor does trouble that the system has with its file.
What else can hinder a report, a path that the system cannot be asked about or a text without bytes,
breaks the command (`finish_cases`).
-/

set_option autoImplicit false

namespace Localize
namespace Command.Build

open Localize.Build (Prepared run writeReport)

variable {host : Host} {words : List Text} {line : Line BuildOption} {q : BuildRequest}
variable {s : Settings} {r r' : Run} {b : BuildResult}

/-! ## From the command line to the end of the build -/

/-- The words of a command line make the command run a build by these settings, from this run. -/
structure Starts (host : Host) (words : List Text) (line : Line BuildOption) (q : BuildRequest)
    (s : Settings) (r : Run) : Prop where
  read : Line.read BuildOption.forms true words = .ok line
  noHelp : line.has .help = false
  request : BuildRequest.ofLine host.tree line = .ok q
  settings : q.settings host = .ok s
  logging : ∃ sinks t, Sinks.configure host.tree s.logging q.quiet = (.ok sinks, t) ∧
    r = start host t sinks s

/-- If the build comes to its end, the command finishes with its result. -/
theorem Starts.command_eq (h : Starts host words line q s r)
    (hrun : run s host.schedule host.duration r = (.ok b, r')) :
    command host words = finish q b (said q (banner s)) r' := by
  obtain ⟨sinks, t, hsinks, rfl⟩ := h.logging
  rw [command, h.read]
  dsimp only
  rw [h.noHelp, if_neg Bool.false_ne_true, h.request]
  dsimp only
  rw [carryOut, h.settings]
  dsimp only
  rw [runWith, hsinks]
  dsimp only
  rw [hrun]

/-- A request is strict if the command line has the option. -/
theorem Starts.strict_eq (h : Starts host words line q s r) : q.strict = line.has .strict := by
  have hrequest := h.request
  rw [BuildRequest.ofLine] at hrequest
  obtain ⟨_, -, hrequest⟩ := bind_eq_ok_iff.1 hrequest
  obtain ⟨_, -, hrequest⟩ := bind_eq_ok_iff.1 hrequest
  obtain ⟨_, -, hrequest⟩ := bind_eq_ok_iff.1 hrequest
  cases hrequest
  rfl

/-! ## The end of the command -/

/-- The report is saved if one is asked for, or the system has trouble with its file. -/
def Saves (q : BuildRequest) (b : BuildResult) (r : Run) : Prop :=
  ∀ path cause, q.report = some path → (writeReport (.ofResult b) path r).1 = .error cause →
    (savingTrouble? cause).isSome

/-- **How the command ends after a build.**  If the report is saved, or the system has trouble with
its file, the exit code is that of the build; else the command breaks down. -/
theorem finish_cases (q : BuildRequest) (b : BuildResult) (opening : Text) (r : Run) :
    (Saves q b r ∧ (finish q b opening r).failure = none ∧
        (finish q b opening r).exitCode = exitCodeOf q b) ∨
      (¬ Saves q b r ∧ (finish q b opening r).failure.isSome ∧
        (finish q b opening r).exitCode = failed) := by
  rw [finish]
  cases hreport : q.report with
  | none => exact Or.inl ⟨fun path cause hpath => (nomatch hreport.symm.trans hpath), rfl, rfl⟩
  | some path =>
    have honly : ∀ other, q.report = some other → other = path := fun other hother =>
      (Option.some.inj (hreport.symm.trans hother)).symm
    dsimp only
    rcases hwrite : writeReport (.ofResult b) path r with ⟨cause | saved, r'⟩
    · have hsaves : Saves q b r ↔ (savingTrouble? cause).isSome := by
        constructor
        · intro h
          exact h path cause hreport (by rw [hwrite])
        · intro h other cause' hother hcause
          rw [honly other hother, hwrite] at hcause
          cases hcause
          exact h
      dsimp only
      cases htrouble : savingTrouble? cause with
      | none => exact Or.inr ⟨by rw [hsaves, htrouble]; exact Bool.false_ne_true, rfl, rfl⟩
      | some trouble => exact Or.inl ⟨by rw [hsaves, htrouble]; rfl, rfl, rfl⟩
    · refine Or.inl ⟨fun other cause hother hcause => ?_, rfl, rfl⟩
      rw [honly other hother, hwrite] at hcause
      cases hcause

/-- If wordings are warned about, something is missing exactly if some nugget was not translated. -/
theorem exitCodeOf_eq (h : b.Balanced) :
    exitCodeOf q b = if q.strict ∧ b.translated ≠ b.nuggets then warned else 0 := by
  have hcount := h.nuggets
  have hmissing : b.warnings ≠ [] ↔ b.translated ≠ b.nuggets := by
    rw [← List.length_pos_iff]
    omega
  rw [exitCodeOf]
  simp only [hmissing]

/-! ## The accounts -/

/-- A host with the asset `[[[a]]][[[b]]]` and a catalog by which `a` is `A`. -/
def strictHost : Host where
  tree :=
    { entries := [([['i']], .directory),
        ([['i'], ['x']], .file (Utf8.encodeLossy "[[[a]]][[[b]]]")),
        ([['c']], .file (Utf8.encodeLossy "msgid \"a\"\nmsgstr \"A\"\n"))]
      cwd := [] }

/-- A strict build of the asset, with a report below it. -/
def strictWords : List Text := ["i", "-l", "fr", "-p", "c", "--strict", "--report", "i/x/r"]

/-- The command line in parts. -/
def strictLine : Line BuildOption where
  given := [⟨.locale, "fr"⟩, ⟨.catalog, "c"⟩, ⟨.strict, []⟩, ⟨.report, "i/x/r"⟩]
  operands := ["i"]

/-- The settings that the command line leads to. -/
def strictSettings : Settings where
  locale := "fr"
  catalog := { path := some (Path.ofText "c") }
  build := { inputDir := Path.ofText "i" }

/-- The run that the build starts from. -/
def strictRun : Run :=
  start strictHost strictHost.tree (Sinks.ofSettings strictSettings.logging false none)
    strictSettings

/-- What comes of the build. -/
def strictResult : BuildResult :=
  Localize.Build.resultOf strictSettings (.zero false)
    [⟨{ name := "x", status := .rewritten, nuggets := 2, translated := 1,
        warnings := [⟨"x", "b", "fr"⟩] }, none⟩]

end Command.Build
end Localize
