import Localize.Proofs.Build.Errors

/-!
# What a failing build leaves

A build works on all assets before it writes the first.  So a failure up to there leaves all files
as they were, but for the log and the file of the table.  Once it writes, it writes one asset after
the other, and a failure leaves those before it written (`files_of_run_eq_error`).

An asset whose new text has no bytes is found out only when it is its turn to be written.  So a
build that fails can have changed assets (`not_forall_failures_change_nothing`).
-/

set_option autoImplicit false

namespace Localize

namespace Build

variable {s : Settings} {schedule : Schedule} {duration : Binary64} {r r' : Run} {e : BuildError}

/-- Up to the writing, a build changes its log and the file of its table. -/
theorem change_of_processed (hs : s.Normal) {p : Policy} {names : List Text} {r₁ r₂ : Run}
    {out : Except BuildError (List Processed)} (h : Prepared s r p names r₁)
    (hprocess : processAll s p schedule names (begun s names r₁) = (out, r₂)) :
    r.Change (fun _ => True)
      (fun q => r.sinks.file = some q ∨ s.lookupPlace? r.tree.cwd = some q) r₂ := by
  have hfirst := h.change hs
  have hbegun : r₁.Change (fun _ => True) (fun q => r₁.sinks.file = some q) (begun s names r₁) :=
    change_logTo (fun _ => id) true _ rfl
  have hlast : (begun s names r₁).Change (fun _ => True)
      (fun q => (begun s names r₁).sinks.file = some q)
      (processAll s p schedule names (begun s names r₁)).2 :=
    confined_processAll (fun _ => id) s p schedule names _ rfl rfl
  rw [hprocess, hbegun.sinks, hfirst.sinks] at hlast
  rw [hfirst.sinks] at hbegun
  exact hfirst.trans ((hbegun.trans hlast).mono (fun _ => id) fun _ => Or.inl)

/-- **What a failing build leaves.**  Either all files but the log and that of the table are as they
were; or it failed to write an asset, and the files are those there are when the assets before that
one have been written. -/
theorem files_of_run_eq_error (hs : s.Normal) (h : run s schedule duration r = (.error e, r')) :
    (∀ q, r.sinks.file ≠ some q → s.lookupPlace? r.tree.cwd ≠ some q →
        r'.tree.fileAt? q = r.tree.fileAt? q) ∨
      ∃ p names r₁ r₂ r₃ done asset rest, Prepared s r p names r₁ ∧
        processAll s p schedule names (begun s names r₁) = (.ok (done ++ asset :: rest), r₂) ∧
        writeAll s done r₂ = (.ok (), r₃) ∧ write s asset r₃ = (.error e, r') ∧
        (∀ q, r.sinks.file ≠ some q → s.lookupPlace? r.tree.cwd ≠ some q →
          r₂.tree.fileAt? q = r.tree.fileAt? q) ∧
        ∀ q, r'.tree.fileAt? q = r₃.tree.fileAt? q := by
  have hcourse := course s schedule duration r
  rw [h] at hcourse
  dsimp only at hcourse
  generalize hout : (Except.error e : Except BuildError BuildResult) = out at hcourse
  cases hcourse with
  | finished => cases hout
  | unasked | noInput => exact Or.inl fun _ _ _ => rfl
  | noPolicy _ hpolicy =>
    exact Or.inl fun q hlog hlookup =>
      (change_of_loadPolicy hs hpolicy).tree.files q fun hq => hq.elim hlog hlookup
  | noNames _ hpolicy =>
    exact Or.inl fun q hlog hlookup =>
      (change_of_loadPolicy hs hpolicy).tree.files q fun hq => hq.elim hlog hlookup
  | unprocessed hready hprocess =>
    exact Or.inl fun q hlog hlookup =>
      (change_of_processed hs hready hprocess).tree.files q fun hq => hq.elim hlog hlookup
  | unwritten hready hprocess hwrite =>
    cases hout
    obtain ⟨done, asset, rest, r₃, rfl, hdone, hfailed⟩ := exists_of_writeAll_eq_error hwrite
    refine Or.inr ⟨_, _, _, _, r₃, done, asset, rest, hready, hprocess, hdone, hfailed, ?_,
      files_of_write_eq_error hs hfailed⟩
    exact fun q hlog hlookup =>
      (change_of_processed hs hready hprocess).tree.files q fun hq => hq.elim hlog hlookup

/-! ### Two assets, of which the second has no bytes -/

/-- A catalog by which `a` is `A`, and `b` an escaped half of a surrogate pair. -/
def halfCatalog : Bytes :=
  Utf8.encodeLossy
    (Text.ofString "msgid \"a\"\nmsgstr \"A\"\n\nmsgid \"b\"\nmsgstr \"\\\\ud83d\"\n")

/-- A run on the assets `[[[a]]]` and `[[[b]]]` and this catalog. -/
def halfRun : Run where
  tree :=
    { entries := [([['c']], .file halfCatalog), ([['i']], .directory),
        ([['i'], ['a']], .file [91, 91, 91, 97, 93, 93, 93]),
        ([['i'], ['b']], .file [91, 91, 91, 98, 93, 93, 93])]
      cwd := [] }

/-- The policy of the catalog. -/
def halfPolicy : Policy where
  table := some
    ⟨[(['a'], ['A']), (['b'], Text.ofChars ['\\', 'u', 'd', '8', '3', 'd'])]⟩
  locale := translating.locale

/-- What comes of the assets. -/
def halfProcessed : List Processed :=
  [⟨{ name := Text.ofChars ['a'], status := .rewritten, nuggets := 1, translated := 1 },
      some (Text.ofChars ['A'])⟩,
    ⟨{ name := Text.ofChars ['b'], status := .rewritten, nuggets := 1, translated := 1 },
      some [⟨0xD83D, by decide⟩]⟩]

theorem prepared_halfRun :
    Prepared translating halfRun halfPolicy [['a'], ['b']] (loadPolicy translating halfRun).2 := by
  have htree : (loadPolicy translating halfRun).2.tree = halfRun.tree :=
    Tree.ext (by decide +kernel) (by decide +kernel)
  have hnames : translating.assetNames halfRun.tree = .ok [['a'], ['b']] := by
    rw [Settings.assetNames_of_pairwise (by decide) (by decide) (by decide +kernel)
      (by decide +kernel)]
    decide +kernel
  exact ⟨by decide +kernel, eq_of_outcome (by decide +kernel), htree ▸ hnames⟩

/-- The run after the assets have been worked on. -/
def halfWorked : Run :=
  (processAll translating halfPolicy .inOrder [['a'], ['b']]
    (begun translating [['a'], ['b']] (loadPolicy translating halfRun).2)).2

theorem run_halfRun : run translating .inOrder (.zero false) halfRun
    = (.error (.unencodable ⟨0, ⟨0xD83D, by decide⟩, 1⟩),
        (writeAll translating halfProcessed halfWorked).2) := by
  have hprocess : (processAll translating halfPolicy .inOrder [['a'], ['b']]
      (begun translating [['a'], ['b']] (loadPolicy translating halfRun).2)).1
      = .ok halfProcessed := by decide +kernel
  have hwrite : (writeAll translating halfProcessed halfWorked).1
      = .error (.unencodable ⟨0, ⟨0xD83D, by decide⟩, 1⟩) := by decide +kernel
  rw [run_of_prepared prepared_halfRun, work, bind_apply, eq_of_outcome hprocess, ← halfWorked]
  dsimp only
  rw [bind_apply, eq_of_outcome hwrite]

theorem sound_halfRun : halfRun.Sound translating := ⟨by decide +kernel, nofun, nofun⟩

theorem changed_halfRun :
    (writeAll translating halfProcessed halfWorked).2.tree.fileAt? [['i'], ['a']]
      ≠ halfRun.tree.fileAt? [['i'], ['a']] := by
  decide +kernel

theorem files_of_run_eq_error_halfRun :
    ∃ r₂ r₃ done asset, writeAll translating done r₂ = (.ok (), r₃) ∧
      write translating asset r₃ = (.error (.unencodable ⟨0, ⟨0xD83D, by decide⟩, 1⟩),
        (writeAll translating halfProcessed halfWorked).2) ∧
      ∀ q, (writeAll translating halfProcessed halfWorked).2.tree.fileAt? q
        = r₃.tree.fileAt? q := by
  have hs : translating.Normal := ⟨by decide, by decide, nofun⟩
  rcases files_of_run_eq_error hs run_halfRun with
    hkept | ⟨p, names, r₁, r₂, r₃, done, asset, rest, -, -, hdone, hfailed, -, hfiles⟩
  · exact absurd (hkept _ nofun nofun) changed_halfRun
  · exact ⟨r₂, r₃, done, asset, hdone, hfailed, hfiles⟩

/-- **A build that fails can have changed assets.**  The one whose new text has no bytes is the last
to be written. -/
theorem not_forall_failures_change_nothing :
    ¬ ∀ (doc : Settings.Document) (s : Settings) (schedule : Schedule) (duration : Binary64)
        (r r' : Run) (e : BuildError), Settings.ofDocument doc = .ok s → r.Sound s →
      run s schedule duration r = (.error e, r') →
      ∀ q, s.inputDir.resolve r.tree.cwd <+: q ∨ s.outputDir.resolve r.tree.cwd <+: q →
        s.lookupPlace? r.tree.cwd ≠ some q → r'.tree.fileAt? q = r.tree.fileAt? q := by
  intro hkeeps
  exact changed_halfRun (hkeeps translatingDocument translating .inOrder (.zero false) halfRun _ _
    rfl sound_halfRun run_halfRun _ (Or.inl (by decide)) nofun)

end Build
end Localize
