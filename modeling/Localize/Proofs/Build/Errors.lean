import Localize.Command.Build
import Localize.Proofs.Build.Workers
import Localize.Proofs.Build.Writing
import Localize.Proofs.Resolution.Rendering

/-!
# The failures of a build

The build command reports two kinds of failure, of catalogs and of assets
(`Command.Build.reported?`).  A build can fail in three more ways, which are not reported
(`BuildError.Possible`): by a placeholder with too many digits, by a text that has no bytes, and by
a path that the system cannot be asked about or that is too long.  `failsOnly_run` says that there
are no others, phase by phase (`FailsOnly`).
-/

set_option autoImplicit false

namespace Localize

open Command.Build (reported?)

/-- A computation of two steps fails when one of them does. -/
theorem bind_eq_error_iff {ε α β : Type} {x : Except ε α} {f : α → Except ε β} {e : ε} :
    (x >>= f) = .error e ↔ x = .error e ∨ ∃ a, x = .ok a ∧ f a = .error e := by
  cases x with
  | error e' => simp [bind, Except.bind]
  | ok a => simp [bind, Except.bind]

theorem map_eq_error_iff {ε α β : Type} {x : Except ε α} {f : α → β} {e : ε} :
    (f <$> x) = .error e ↔ x = .error e := by
  cases x with
  | error e' => simp [Functor.map, Except.map]
  | ok a => simp [Functor.map, Except.map]

/-! ## Placeholders -/

namespace Placeholder

variable {args : List Text} {c : OversizedPlaceholder}

theorem lt_digits_of_fill {digits : Text} (h : fill args digits = .error c) :
    maxDigits < c.digits := by
  rw [fill] at h
  split at h
  · rename_i hlt
    cases h
    exact hlt
  · cases h

/-- **A template is refused for its digits only.** -/
theorem lt_digits_of_fillFrom {skip : Nat} {t : Text} (h : fillFrom args skip t = .error c) :
    maxDigits < c.digits := by
  induction t generalizing skip with
  | nil => cases skip <;> cases h
  | cons first t ih =>
    cases skip with
    | succ skip => exact ih h
    | zero =>
      rw [fillFrom] at h
      split at h
      · rcases bind_eq_error_iff.1 h with h | ⟨_, -, h⟩
        · exact lt_digits_of_fill h
        · rcases bind_eq_error_iff.1 h with h | ⟨_, -, h⟩
          · exact ih h
          · cases h
      · rcases bind_eq_error_iff.1 h with h | ⟨_, -, h⟩
        · exact ih h
        · cases h

theorem lt_digits_of_format {template : Text} (h : format template args = .error c) :
    maxDigits < c.digits := by
  rw [format] at h
  split at h
  · cases h
  · exact lt_digits_of_fillFrom h

end Placeholder

namespace Policy

variable {p : Policy} {c : OversizedPlaceholder}

theorem lt_digits_of_outcome {n : Nugget} (h : p.outcome n = .error c) :
    Placeholder.maxDigits < c.digits := by
  rw [outcome] at h
  split at h
  · exact Placeholder.lt_digits_of_format (map_eq_error_iff.1 h)
  · rw [fallback] at h
    split at h
    · exact Placeholder.lt_digits_of_format (map_eq_error_iff.1 h)
    · cases h

theorem lt_digits_of_localizePieces {asset : Text} {pieces : List Piece}
    (h : p.localizePieces asset pieces = .error c) : Placeholder.maxDigits < c.digits := by
  induction pieces with
  | nil => cases h
  | cons piece rest ih =>
    rw [localizePieces] at h
    rcases bind_eq_error_iff.1 h with h | ⟨_, -, h⟩
    · cases piece with
      | plain c => cases h
      | nugget n =>
        rw [Piece.localize] at h
        rcases bind_eq_error_iff.1 h with h | ⟨_, -, h⟩
        · rw [resolve] at h
          rcases bind_eq_error_iff.1 h with h | ⟨_, -, h⟩
          · exact lt_digits_of_outcome h
          · cases h
        · cases h
    · rcases bind_eq_error_iff.1 h with h | ⟨_, -, h⟩
      · exact ih h
      · cases h

/-- A text is refused for the digits of a placeholder only. -/
theorem lt_digits_of_localize {text asset : Text} (h : p.localize text asset = .error c) :
    Placeholder.maxDigits < c.digits :=
  lt_digits_of_localizePieces h

end Policy

/-! ## Looking for directories -/

namespace Tree

variable {t : Tree} {p : Path}

/-- Why a walk does not get through. -/
theorem cause_of_walk {place : Location} {parts : List Text} {cause : FileCause}
    (h : t.walk place parts = .error cause) :
    cause = .notFound ∨ cause = .notDirectory ∨ cause = .nameTooLong := by
  induction parts generalizing place with
  | nil => cases h
  | cons part rest ih =>
    rw [walk] at h
    split at h
    · cases h
      exact Or.inl rfl
    · cases h
      exact Or.inr (Or.inl rfl)
    · split at h
      · exact ih h
      · split at h
        · exact ih h
        · split at h
          · cases h
            exact Or.inr (Or.inr rfl)
          · exact ih h

/-- Why the system cannot be asked about a path. -/
theorem isUnaskable_of_pathFault? {path : Text} {cause : FileCause}
    (h : pathFault? path = some cause) (shown : Text) :
    FileError.isUnaskable ⟨cause, shown⟩ = true := by
  rw [pathFault?] at h
  dsimp only at h
  split at h
  · cases h
    rfl
  · split at h
    · cases h
      rfl
    · cases h

/-- Why what stands at a path cannot be told. -/
theorem cause_of_status {cause : FileCause} (h : t.status p = .error cause) :
    FileError.isUnaskable ⟨cause, p.toText⟩ = true ∨
      cause = .notFound ∨ cause = .notDirectory ∨ cause = .nameTooLong := by
  rw [status, statusRaw] at h
  rcases bind_eq_error_iff.1 h with hlocate | ⟨place, -, hentry⟩
  · rw [locateRaw] at hlocate
    split at hlocate
    · rename_i cause' hfault
      cases hlocate
      exact Or.inl (isUnaskable_of_pathFault? hfault _)
    · split at hlocate
      · cases hlocate
        exact Or.inr (Or.inl rfl)
      · split at hlocate
        · cases hlocate
          exact Or.inr (Or.inr (Or.inr rfl))
        · exact Or.inr (cause_of_walk hlocate)
  · split at hentry
    · cases hentry
    · cases hentry
      exact Or.inr (Or.inl rfl)

/-- **To ask whether there is a directory fails only for a path that is too long.** -/
theorem nameTooLong_of_isDirectory {e : FileError} (h : t.isDirectory p = .error e) :
    e.cause = .nameTooLong := by
  rw [isDirectory, test] at h
  cases hstatus : t.status p with
  | ok entry =>
    rw [hstatus] at h
    cases h
  | error cause =>
    rw [hstatus] at h
    rcases cause_of_status hstatus with hunaskable | rfl | rfl | rfl
    · cases cause with
      | nullByte => cases h
      | unencodable c => cases h
      | _ => exact absurd hunaskable Bool.false_ne_true
    · cases h
    · cases h
    · cases h
      rfl

end Tree

/-! ## The failures -/

/-- The failures a build can have: those that are reported, and those that are not. -/
inductive BuildError.Possible : BuildError → Prop
  | reported {e : BuildError} (h : (reported? e).isSome) : Possible e
  /-- A placeholder has more digits than are read as a number. -/
  | placeholder {c : OversizedPlaceholder} (h : Placeholder.maxDigits < c.digits) :
      Possible (.placeholder c)
  /-- A text has half a surrogate pair. -/
  | unencodable {t : Text} {c : Utf8.EncodeError} (h : Utf8.encode t = .error c) :
      Possible (.unencodable c)
  /-- A path is none to ask the system about, or too long. -/
  | file {c : FileError} (h : c.isUnaskable ∨ c.cause = .nameTooLong) : Possible (.file c)

/-- Trouble with a file that is put down to something reported. -/
theorem BuildError.possible_ofFile {wrap : FileError → BuildError}
    (h : ∀ e, (reported? (wrap e)).isSome) (e : FileError) : (ofFile wrap e).Possible := by
  rw [ofFile]
  split
  · rename_i hunaskable
    exact .file (Or.inl hunaskable)
  · exact .reported (h e)

namespace Build

variable {α β : Type} {s : Settings} {schedule : Schedule} {duration : Binary64} {r r' : Run}
variable {e : BuildError}

/-- The computation fails only in ways that are possible. -/
def FailsOnly (m : Build α) : Prop := ∀ r e r', m r = (.error e, r') → e.Possible

/-- A computation that gives something does not fail. -/
theorem failsOnly_of_ok {m : Build α} (h : ∀ r, ∃ a r', m r = (.ok a, r')) : FailsOnly m := by
  intro r e r' hfail
  obtain ⟨a, r₁, hok⟩ := h r
  rw [hok] at hfail
  cases (Prod.mk.inj hfail).1

theorem failsOnly_pure (a : α) : FailsOnly (pure a) := failsOnly_of_ok fun r => ⟨a, r, rfl⟩

theorem failsOnly_get : FailsOnly (get : Build Run) := failsOnly_of_ok fun r => ⟨r, r, rfl⟩

theorem failsOnly_log (x : Record) : FailsOnly (log x) :=
  failsOnly_of_ok fun r => ⟨(), _, log_apply x r⟩

theorem failsOnly_throw (h : e.Possible) : FailsOnly (throw e : Build α) := by
  intro r e' r' hthrow
  cases hthrow
  exact h

/-- **Steps one after the other fail as one of them does.** -/
theorem FailsOnly.bind {m : Build α} {f : α → Build β} (hm : FailsOnly m)
    (hf : ∀ a, FailsOnly (f a)) : FailsOnly (m >>= f) := by
  intro r e r' h
  rw [bind_apply] at h
  rcases hout : m r with ⟨e' | a, r₁⟩
  · rw [hout] at h
    cases h
    exact hm r _ _ hout
  · rw [hout] at h
    exact hf a r₁ e r' h

theorem failsOnly_change {wrap : FileError → BuildError} (h : ∀ e, (reported? (wrap e)).isSome)
    (f : Tree → Except FileError Tree) : FailsOnly (change wrap f) := by
  intro r e r' hchange
  rw [change_apply] at hchange
  split at hchange
  · cases hchange
  · cases hchange
    exact BuildError.possible_ofFile h _

theorem failsOnly_makeDirectories {wrap : FileError → BuildError}
    (h : ∀ e, (reported? (wrap e)).isSome) (p : Path) : FailsOnly (makeDirectories wrap p) := by
  intro r e r' hmake
  rw [makeDirectories_apply] at hmake
  split at hmake
  · cases hmake
  · cases hmake
    exact BuildError.possible_ofFile h _

/-! ### The table -/

theorem failsOnly_loadTable (locale : Text) (path : Path) (includeFuzzy : Bool) :
    FailsOnly (loadTable locale path includeFuzzy) := by
  refine failsOnly_get.bind fun r => ?_
  dsimp only
  split
  · exact failsOnly_throw (BuildError.possible_ofFile (fun _ => rfl) _)
  · split
    · exact failsOnly_throw (.reported rfl)
    · exact (failsOnly_log _).bind fun _ => (failsOnly_log _).bind fun _ => failsOnly_pure _

theorem failsOnly_writeTable (locale : Text) (table : Table) (directory : Path) :
    FailsOnly (writeTable locale table directory) := by
  refine (failsOnly_makeDirectories (fun _ => rfl) _).bind fun _ => ?_
  refine FailsOnly.bind ?_ fun _ => (failsOnly_log _).bind fun _ => failsOnly_pure _
  refine (failsOnly_change (fun _ => rfl) _).bind fun _ => ?_
  split
  · rename_i c hencode
    exact failsOnly_throw (.unencodable hencode)
  · exact failsOnly_change (fun _ => rfl) _

theorem failsOnly_loadPolicy (s : Settings) : FailsOnly (loadPolicy s) := by
  rw [loadPolicy]
  cases s.catalog.path with
  | none => exact (failsOnly_log _).bind fun _ => failsOnly_pure _
  | some path =>
    refine (failsOnly_loadTable _ _ _).bind fun table => (failsOnly_log _).bind fun _ => ?_
    cases s.catalog.lookupDir with
    | none => exact failsOnly_pure _
    | some directory =>
      refine (failsOnly_writeTable _ _ _).bind fun target => ?_
      exact (failsOnly_log _).bind fun _ => failsOnly_pure _

/-! ### Working on assets -/

theorem possible_of_processAsset {p : Policy} {t : Tree} {name : Text}
    (h : (processAsset s p t name).2 = .error e) : e.Possible := by
  rcases processAsset_cases s p t name with ⟨text, -, hout⟩ | ⟨-, ⟨status, -, hout⟩ | ⟨c, hout⟩⟩
  all_goals rw [h] at hout
  · rw [processText] at hout
    split at hout
    · rename_i c hlocalize
      cases hout
      exact .placeholder (Policy.lt_digits_of_localize hlocalize)
    · cases hout
  · cases hout
  · cases hout
    exact BuildError.possible_ofFile (fun _ => rfl) _

theorem attempt_apply (s : Settings) (p : Policy) (known : Bool) (name : Text) (r : Run) :
    attempt s p known name r = (.ok (processAsset s p r.tree name).2,
      (processAsset s p r.tree name).1.foldl (fun r x => logTo known x r) r) := rfl

theorem failsOnly_processInOrder (s : Settings) (p : Policy) (names : List Text) :
    FailsOnly (processInOrder s p names) := by
  induction names with
  | nil => exact failsOnly_pure _
  | cons name names ih =>
    intro r e r' h
    rw [processInOrder, bind_apply, attempt_apply] at h
    dsimp only at h
    cases hfirst : (processAsset s p r.tree name).2 with
    | error e' =>
      rw [hfirst] at h
      cases (Prod.mk.inj h).1
      exact possible_of_processAsset hfirst
    | ok first =>
      rw [hfirst] at h
      exact ih.bind (fun _ => failsOnly_pure _) _ e r' h

/-- Working on all assets gives their outcomes, failures among them. -/
theorem exists_attemptAll (s : Settings) (p : Policy) (names : List Text) (order : List Nat)
    (r : Run) : ∃ outcomes r', attemptAll s p names order r = (.ok outcomes, r') ∧
      ∀ i e, (i, .error e) ∈ outcomes → e.Possible := by
  induction order generalizing r with
  | nil => exact ⟨[], r, rfl, nofun⟩
  | cons i rest ih =>
    obtain ⟨outcomes, r', hrest, hpossible⟩ := ih
      ((processAsset s p r.tree (names[i]?.getD [])).1.foldl (fun r x => logTo false x r) r)
    refine ⟨(i, (processAsset s p r.tree (names[i]?.getD [])).2) :: outcomes, r', ?_,
      fun j e hmem => ?_⟩
    · rw [attemptAll, bind_apply, attempt_apply]
      dsimp only
      rw [bind_apply, hrest]
      rfl
    · rcases List.mem_cons.1 hmem with heq | hmem
      · exact possible_of_processAsset (Prod.mk.inj heq).2.symm
      · exact hpossible j e hmem

theorem failsOnly_processAll (s : Settings) (p : Policy) (schedule : Schedule) (names : List Text) :
    FailsOnly (processAll s p schedule names) := by
  rw [processAll]
  split
  · exact failsOnly_processInOrder s p names
  · intro r e r' h
    obtain ⟨outcomes, r₁, hall, hpossible⟩ :=
      exists_attemptAll s p names (schedule.order names.length) r
    rw [processScheduled, bind_apply, hall] at h
    dsimp only at h
    cases hsucceeded : succeeded outcomes with
    | error e' =>
      rw [hsucceeded] at h
      cases (Prod.mk.inj h).1
      obtain ⟨i, hmem⟩ := of_succeeded_eq_error hsucceeded
      exact hpossible i _ hmem
    | ok done =>
      rw [hsucceeded] at h
      cases (Prod.mk.inj h).1

/-! ### Writing -/

theorem failsOnly_write (s : Settings) (asset : Processed) : FailsOnly (write s asset) := by
  intro r e r' h
  rcases of_write_eq_error h with ⟨text, c, -, hencode, rfl⟩ | ⟨cause, rfl⟩
  · exact .unencodable hencode
  · exact BuildError.possible_ofFile (fun _ => rfl) cause

theorem failsOnly_writeAll (s : Settings) (assets : List Processed) :
    FailsOnly (writeAll s assets) := by
  intro r e r' h
  obtain ⟨done, asset, rest, r₁, -, -, hwrite⟩ := exists_of_writeAll_eq_error h
  exact failsOnly_write s asset r₁ e r' hwrite

/-! ### The names of assets -/

theorem possible_of_assetNames {t : Tree} {cause : FileError} (h : s.assetNames t = .error cause) :
    (BuildError.file cause).Possible := by
  rw [Settings.assetNames] at h
  rcases bind_eq_error_iff.1 h with hout | ⟨_, -, h⟩
  · rw [Path.checkAskable] at hout
    split at hout
    · rename_i fault hfault
      cases hout
      exact .file (Or.inl (Tree.isUnaskable_of_pathFault? hfault _))
    · cases hout
  · cases hdir : t.isDirectory s.inputDir with
    | error e =>
      rw [hdir] at h
      cases h
      exact .file (Or.inr (Tree.nameTooLong_of_isDirectory hdir))
    | ok isDir =>
      rw [hdir] at h
      cases isDir <;> cases hplace : t.locate s.inputDir <;> rw [hplace] at h <;> cases h

/-! ## The whole build -/

/-- A build fails in one of the ways that are possible. -/
theorem failsOnly_run (s : Settings) (schedule : Schedule) (duration : Binary64) :
    FailsOnly (run s schedule duration) := by
  intro r e r' h
  have hcourse := course s schedule duration r
  rw [h] at hcourse
  generalize hout : (Except.error e : Except BuildError BuildResult) = out at hcourse
  cases hcourse with
  | finished => cases hout
  | unasked hinput =>
    cases hout
    exact .file (Or.inr (Tree.nameTooLong_of_isDirectory hinput))
  | noInput => cases hout; exact .reported rfl
  | noPolicy _ hpolicy => cases hout; exact failsOnly_loadPolicy s _ _ _ hpolicy
  | noNames _ _ hnames => cases hout; exact possible_of_assetNames hnames
  | unprocessed _ hprocess => cases hout; exact failsOnly_processAll s _ schedule _ _ _ _ hprocess
  | unwritten _ _ hwrite => cases hout; exact failsOnly_writeAll s _ _ _ _ hwrite

/-- **The failures of a build.**  A build succeeds or fails in a way that the build command reports,
by a placeholder with too many digits, by a text with half a surrogate pair, or by a path that the
system cannot be asked about or that is too long. -/
theorem run_succeeds_or_fails (s : Settings) (schedule : Schedule) (duration : Binary64) (r : Run) :
    (∃ b, (run s schedule duration r).1 = .ok b) ∨
      ∃ e, (run s schedule duration r).1 = .error e ∧
        ((reported? e).isSome ∨ (∃ c, e = .placeholder c ∧ Placeholder.maxDigits < c.digits) ∨
          (∃ t c, e = .unencodable c ∧ Utf8.encode t = .error c) ∨
          ∃ c, e = .file c ∧ (c.isUnaskable ∨ c.cause = .nameTooLong)) := by
  rcases h : run s schedule duration r with ⟨e | b, r'⟩
  · refine Or.inr ⟨e, rfl, ?_⟩
    cases failsOnly_run s schedule duration r e r' h with
    | reported hreported => exact Or.inl hreported
    | placeholder hlt => exact Or.inr (Or.inl ⟨_, rfl, hlt⟩)
    | unencodable hencode => exact Or.inr (Or.inr (Or.inl ⟨_, _, rfl, hencode⟩))
    | file hcause => exact Or.inr (Or.inr (Or.inr ⟨_, rfl, hcause⟩))
  · exact Or.inl ⟨b, rfl⟩

/-! ### A wording with half a surrogate pair -/

/-- A catalog by which `b` is worded as an escaped half of a surrogate pair. -/
def brokenCatalog : Bytes :=
  Utf8.encodeLossy (Text.ofString "msgid \"b\"\nmsgstr \"\\\\ud83d\"\n")

/-- A run on the asset `[[[b]]]` and this catalog. -/
def brokenRun : Run where
  tree :=
    { entries := [([['c']], .file brokenCatalog), ([['i']], .directory),
        ([['i'], ['b']], .file [91, 91, 91, 98, 93, 93, 93])]
      cwd := [] }

/-- Settings by which the assets of `i` are translated in place by the catalog. -/
def translating : Settings where
  catalog := { path := some (Path.ofText (Text.ofChars ['c'])) }
  build := { inputDir := Path.ofText (Text.ofChars ['i']) }

/-- The document of these settings. -/
def translatingDocument : Settings.Document :=
  [(.text "catalog", .map [(.text "path", .text "c")]),
    (.text "build", .map [(.text "input_dir", .text "i")])]

/-- **Not every failure of a build is reported.** -/
theorem not_forall_failures_reported :
    ¬ ∀ (doc : Settings.Document) (s : Settings) (schedule : Schedule) (duration : Binary64)
        (r : Run) (e : BuildError), Settings.ofDocument doc = .ok s → r.Sound s →
      (run s schedule duration r).1 = .error e → (reported? e).isSome := by
  intro hreported
  have hfails : (run translating .inOrder (.zero false) brokenRun).1
      = .error (.unencodable ⟨0, ⟨0xD83D, by decide⟩, 1⟩) := by decide +kernel
  have hnone := hreported translatingDocument translating .inOrder (.zero false) brokenRun _ rfl
    ⟨by decide +kernel, nofun, nofun⟩ hfails
  cases hnone

end Build
end Localize
