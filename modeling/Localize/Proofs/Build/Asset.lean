import Localize.Build.Asset
import Localize.Log.Record

/-!
# What comes of one asset

An asset is looked into if it is selected, is no source map, and is there as text (`scanned?`).
What comes of it then is what comes of its text.  Any other asset stays as it is, unless it cannot
be read (`processAsset_cases`).  The work logs that an asset is left out, or which of its wordings
are missing (`BuildEvent.OfAsset`).
-/

set_option autoImplicit false

namespace Localize

variable {s : Settings} {p : Policy} {t : Tree} {name text : Text} {a : Processed}

/-- The text of an asset that nuggets are looked for in: that of its bytes, if they stand for one.
Nothing is looked for in source maps and in assets that are not selected. -/
def scanned? (s : Settings) (t : Tree) (name : Text) : Option Text :=
  if Text.endsWith sourceMapSuffix name ∨ s.assets.selects name = false then none
  else do
    let bytes ← (t.readFile (Settings.assetPath s.inputDir name)).toOption
    (Utf8.decode bytes).toOption

/-- Nuggets are looked for in the assets that are selected, are no source maps, and are there as
text. -/
theorem scanned?_eq_some_iff :
    scanned? s t name = some text ↔ Text.endsWith sourceMapSuffix name = false ∧
      s.assets.selects name = true ∧
      ∃ bytes, t.readFile (Settings.assetPath s.inputDir name) = .ok bytes ∧
        Utf8.decode bytes = .ok text := by
  rw [scanned?]
  split
  · rename_i hout
    refine iff_of_false nofun ?_
    rintro ⟨hmap, hselected, -⟩
    rcases hout with hout | hout
    · exact Bool.false_ne_true (hmap.symm.trans hout)
    · exact Bool.false_ne_true (hout.symm.trans hselected)
  · rename_i hin
    rw [not_or, Bool.not_eq_true, Bool.not_eq_false] at hin
    rw [and_iff_right hin.1, and_iff_right hin.2]
    cases t.readFile (Settings.assetPath s.inputDir name) with
    | error e => simp [Except.toOption]
    | ok bytes => cases hdecode : Utf8.decode bytes <;> simp [Except.toOption, hdecode]

/-- **What can come of an asset.**  If it is looked into, it is what comes of its text; else the
asset stays as it is, or it cannot be read. -/
theorem processAsset_cases (s : Settings) (p : Policy) (t : Tree) (name : Text) :
    (∃ text, scanned? s t name = some text ∧
        (processAsset s p t name).2 = processText p name text) ∨
      (scanned? s t name = none ∧
        ((∃ status, status ≠ .rewritten ∧
            (processAsset s p t name).2 = .ok ⟨{ name, status }, none⟩) ∨
          ∃ e, (processAsset s p t name).2 = .error (.ofFile (.unreadable name) e))) := by
  rw [processAsset, scanned?]
  by_cases hmap : Text.endsWith sourceMapSuffix name
  · rw [if_pos hmap, if_pos (Or.inl hmap)]
    exact Or.inr ⟨rfl, Or.inl ⟨.sourceMap, by decide, rfl⟩⟩
  rw [if_neg hmap]
  by_cases hskipped : s.assets.selects name = false
  · rw [if_pos (Or.inr hskipped), if_pos (by rw [hskipped]; rfl)]
    exact Or.inr ⟨rfl, Or.inl ⟨.skipped, by decide, rfl⟩⟩
  rw [if_neg fun hout => hout.elim hmap hskipped, if_neg (by simpa using hskipped)]
  cases t.readFile (Settings.assetPath s.inputDir name) with
  | error e => exact Or.inr ⟨rfl, Or.inr ⟨e, rfl⟩⟩
  | ok bytes =>
    dsimp only
    cases hdecode : Utf8.decode bytes with
    | error e =>
      exact Or.inr ⟨by simp [Except.toOption, hdecode], Or.inl ⟨.binary, by decide, rfl⟩⟩
    | ok text => exact Or.inl ⟨text, by simp [Except.toOption, hdecode], rfl⟩

/-- What comes of a text is what comes of the run over it. -/
theorem of_processText_eq_ok (h : processText p name text = .ok a) :
    ∃ r, p.localize text name = .ok r ∧ a =
      { result :=
          { name, status := if r.text ≠ text then .rewritten else .unchanged
            nuggets := r.nuggets, translated := r.translated, warnings := r.warnings }
        text := if r.text ≠ text then some r.text else none } := by
  rw [processText] at h
  split at h
  · cases h
  · rename_i r hlocalize
    cases h
    exact ⟨r, hlocalize, rfl⟩

/-- What comes of an asset bears its name. -/
theorem name_of_processAsset (h : (processAsset s p t name).2 = .ok a) : a.result.name = name := by
  rcases processAsset_cases s p t name with ⟨text, -, hout⟩ | ⟨-, ⟨status, -, hout⟩ | ⟨e, hout⟩⟩
  all_goals rw [h] at hout
  · obtain ⟨r, -, rfl⟩ := of_processText_eq_ok hout.symm
    rfl
  · cases hout
    rfl
  · cases hout

/-- An asset has a new text if it was rewritten, and then the text is what the one of its bytes has
become. -/
theorem of_processAsset_eq_ok (h : (processAsset s p t name).2 = .ok a) :
    (a.text = none ∧ a.result.status ≠ .rewritten) ∨
      ∃ bytes text result, t.readFile (Settings.assetPath s.inputDir name) = .ok bytes ∧
        Utf8.decode bytes = .ok text ∧ p.localize text name = .ok result ∧
        a.text = some result.text ∧ a.result.status = .rewritten ∧ result.text ≠ text := by
  rcases processAsset_cases s p t name with
    ⟨text, hscan, hout⟩ | ⟨-, ⟨status, hstatus, hout⟩ | ⟨e, hout⟩⟩
  all_goals rw [h] at hout
  · obtain ⟨r, hlocalize, rfl⟩ := of_processText_eq_ok hout.symm
    obtain ⟨-, -, bytes, hread, hdecode⟩ := scanned?_eq_some_iff.1 hscan
    by_cases hsame : r.text = text
    · exact Or.inl ⟨by simp [hsame], by simp [hsame]⟩
    · exact Or.inr ⟨bytes, text, r, hread, hdecode, hlocalize, by simp [hsame], by simp [hsame],
        hsame⟩
  · cases hout
    exact Or.inl ⟨rfl, hstatus⟩
  · cases hout

/-- The records of the work on an asset. -/
inductive BuildEvent.OfAsset : Record → Prop
  | skipped (locale name : Text) : OfAsset (BuildEvent.assetSkipped locale name)
  | missing (m : MissingKey) : OfAsset (BuildEvent.nuggetMissing m)

/-- They are for those who look into it. -/
theorem BuildEvent.OfAsset.level {x : Record} (h : OfAsset x) : x.level = Level.debug := by
  cases h <;> rfl

theorem ofAsset_of_processAsset (s : Settings) (p : Policy) (t : Tree) (name : Text) :
    ∀ x ∈ (processAsset s p t name).1, BuildEvent.OfAsset x := by
  intro x hx
  rw [processAsset] at hx
  split at hx
  · cases hx
  · split at hx
    · exact List.mem_singleton.1 hx ▸ .skipped _ _
    · split at hx
      · cases hx
      · split at hx
        · cases hx
        · obtain ⟨_, -, rfl⟩ := List.mem_map.1 hx
          exact .missing _

end Localize
