import Localize.Proofs.Nugget.LineEnds
import Localize.Proofs.Resolution.Splicing
import Localize.Proofs.Resolution.Templates

/-!
# Runs over texts with other line ends

Catalogs write line ends as single line feeds, and built assets may come with carriage returns
before them.  A run does not notice: it counts the same nuggets, finds wordings for the same ones
and gives the same warnings.

A nugget has its line ends in the key's text and in the arguments.  The key itself is brought to
line feeds, so the lookup is the same; and what is put into a wording, or into the nugget's own
text, may differ in line ends alone, which makes and breaks no placeholder (`format_crlf`).  Whether
a nugget gets a wording, its warning, and the placeholder it is refused for are its *verdict*, and
the verdict is the same (`verdict_crlf`).
-/

set_option autoImplicit false

namespace Localize

/-! ## Templates -/

namespace Placeholder

/-- **Line ends leave placeholders alone.** -/
theorem inert_crlfOne : Inert Text.crlfOne where
  percent := rfl
  digit c hc := Text.crlfOne_of_ne fun h => absurd (h ▸ hc) (by decide)
  no_percent c hc := by
    by_cases hlf : c = CodePoint.ofChar '\n'
    · subst hlf
      decide
    · rw [Text.crlfOne_of_ne hlf]
      simpa using Ne.symm hc
  no_digit c hc := by
    by_cases hlf : c = CodePoint.ofChar '\n'
    · subst hlf
      exact ⟨_, _, rfl, by decide⟩
    · exact ⟨_, _, Text.crlfOne_of_ne hlf, hc⟩

/-- Filling a template with other line ends gives the text with the other line ends. -/
theorem format_crlf (t : Text) (args : List Text) :
    format (Text.crlf t) (args.map Text.crlf) = Text.crlf <$> format t args := by
  have hcrlf : Text.crlf = List.flatMap Text.crlfOne := funext Text.crlf_eq_flatMap
  rw [hcrlf]
  exact format_flatMap inert_crlfOne t args

end Placeholder

/-! ## Verdicts -/

/-- What a run counts and warns about. -/
def Localized.tally (r : Localized) : Nat × Nat × List MissingKey :=
  (r.nuggets, r.translated, r.warnings)

/-- The tally of verdicts. -/
def tallyOf (verdicts : List (Bool × Option MissingKey)) : Nat × Nat × List MissingKey :=
  (verdicts.length, verdicts.countP Prod.fst, verdicts.filterMap Prod.snd)

namespace Policy

variable {p : Policy} {asset : Text}

/-- Whether a nugget gets a wording, and the warning it gives rise to. -/
def verdict (p : Policy) (asset : Text) (n : Nugget) :
    Except OversizedPlaceholder (Bool × Option MissingKey) :=
  Prod.map Outcome.isTranslated id <$> p.resolve n asset

theorem verdict_eq (n : Nugget) : p.verdict asset n
    = (fun translated => (translated, p.warning? n.key asset)) <$>
      (Outcome.isTranslated <$> p.outcome n) := by
  rw [verdict, resolve]
  cases p.outcome n <;> rfl

theorem map_resolveAll (ls : List Nugget.Located) :
    List.map (Prod.map Outcome.isTranslated id) <$> p.resolveAll asset ls
      = ls.mapM fun l => p.verdict asset l.nugget := by
  induction ls with
  | nil => rfl
  | cons l ls ih =>
    rw [resolveAll_cons, List.mapM_cons, ← ih, verdict]
    cases p.resolve l.nugget asset with
    | error e => rfl
    | ok first => cases p.resolveAll asset ls <;> rfl

/-- **The tally of a run** is that of the verdicts on its nuggets. -/
theorem tally_localize (text asset : Text) : Localized.tally <$> p.localize text asset
    = tallyOf <$> (Nugget.nuggets text).mapM fun l => p.verdict asset l.nugget := by
  have htally : ∀ gaps resolved, (Localized.splice gaps resolved).tally
      = tallyOf (resolved.map (Prod.map Outcome.isTranslated id)) := by
    intro gaps resolved
    rw [Localized.splice, Localized.tally, tallyOf, List.length_map, List.countP_map,
      List.filterMap_map]
    rfl
  rw [localize_eq, ← map_resolveAll]
  cases p.resolveAll asset (Nugget.nuggets text) with
  | error e => rfl
  | ok resolved => exact congrArg Except.ok (htally _ resolved)

/-- Whether a nugget gets a wording does not hang on its line ends. -/
theorem isTranslated_outcome_crlf (n : Nugget) :
    Outcome.isTranslated <$> p.outcome n.crlf = Outcome.isTranslated <$> p.outcome n := by
  have hkey : n.crlf.key = n.key := rfl
  rw [outcome, outcome, hkey]
  cases p.wording? n.key with
  | some value =>
    have hargs : n.crlf.args = [] ↔ n.args = [] := List.map_eq_nil_iff
    have hformat := Placeholder.format_const_congr true hargs (Escape.forSplice value)
    dsimp only
    rw [← comp_map, ← comp_map]
    exact hformat
  | none =>
    dsimp only
    rw [fallback, fallback]
    split
    · have hformat : Placeholder.format n.crlf.text n.crlf.args
          = Text.crlf <$> Placeholder.format n.text n.args := Placeholder.format_crlf n.text n.args
      rw [hformat, ← comp_map, ← comp_map, ← comp_map]
      rfl
    · rfl

/-- **The verdict on a nugget** does not hang on its line ends. -/
theorem verdict_crlf (n : Nugget) : p.verdict asset n.crlf = p.verdict asset n := by
  rw [verdict_eq, verdict_eq, isTranslated_outcome_crlf]
  rfl

/-- **Line ends do not matter for lookups.**  In a text without carriage returns, put one before
every line feed: the nuggets are found in the same order, each behind what stood before it, with the
same key, and with the other line ends in its text, its arguments and its comment.  And a run over
either text counts the same nuggets, translates as many of them and gives the same warnings, or is
stopped by the same placeholder. -/
theorem localize_crlf {t : Text} (h : CodePoint.ofChar '\r' ∉ t) :
    (Nugget.nuggets (Text.crlf t) = (Nugget.nuggets t).map fun l =>
        ⟨⟨Text.crlf l.nugget.raw, Text.crlf l.nugget.text, l.nugget.key,
          l.nugget.args.map Text.crlf, l.nugget.comment.map Text.crlf⟩,
          (Text.crlf (t.take l.start)).length⟩) ∧
      ∀ (p : Policy) (asset : Text),
        (fun r => (r.nuggets, r.translated, r.warnings)) <$> p.localize (Text.crlf t) asset
          = (fun r => (r.nuggets, r.translated, r.warnings)) <$> p.localize t asset := by
  refine ⟨Nugget.nuggets_crlf h, fun p asset => ?_⟩
  show Localized.tally <$> p.localize (Text.crlf t) asset = Localized.tally <$> p.localize t asset
  rw [tally_localize, tally_localize, Nugget.nuggets_crlf h, List.mapM_map]
  exact congrArg (fun f => tallyOf <$> (Nugget.nuggets t).mapM f)
    (funext fun l => verdict_crlf l.nugget)

/-- Line ends before a nugget, in its key, as its only argument and at the end of its comment. -/
theorem localize_crlf_across_lines :
    let t := Text.ofChars ['\n', '[', '[', '[', 'a', '\n', 'b', '|', '|', '|', '\n', '/', '/', '/',
      'c', '\n', ']', ']', ']', '[', '[', '[', 'k', ']', ']', ']']
    let p : Policy :=
      { table := some ⟨[(Text.ofChars ['a', '\n', 'b'], Text.ofChars ['%', '0'])]⟩ }
    ((Nugget.nuggets (Text.crlf t)).map fun l =>
        (l.start, l.nugget.key, l.nugget.args, l.nugget.comment))
        = [(2, Text.ofChars ['a', '\n', 'b'], [Text.ofChars ['\r', '\n']],
            some (Text.ofChars ['c', '\r', '\n'])),
          (23, Text.ofChars ['k'], [], none)] ∧
      (fun r => (r.nuggets, r.translated, r.warnings)) <$> p.localize (Text.crlf t) []
        = .ok (2, 1, [⟨[], Text.ofChars ['k'], []⟩]) := by
  intro t p
  obtain ⟨hnuggets, htally⟩ := localize_crlf (t := t) (by decide)
  refine ⟨?_, (htally p []).trans rfl⟩
  rw [hnuggets]
  rfl

end Policy
end Localize
