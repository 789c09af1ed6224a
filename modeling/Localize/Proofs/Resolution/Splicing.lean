import Localize.Proofs.Nugget.Pieces
import Localize.Proofs.Resolution.Rendering

/-!
# Outcomes spliced into a text

`Policy.localize` goes through a text piece by piece and copies every code point that is plain.
Seen from outside it does something simpler: the nuggets of the text are resolved on their own, one
after the other, and their outcomes are put between the *gaps*, the stretches of the text before,
between and after the nuggets.  This file says so, with the counts and the warnings.

* `gaps`, `interleave` — the stretches by position, and texts put between them.
* `interleave_gaps_raw` — with the nuggets as written between them, the gaps are the text.
* `localize_eq` — a run over a text is a run over its nuggets, refusals included.
-/

set_option autoImplicit false

namespace Localize

open Nugget (Located nuggets locate scan sourceOf)

/-! ## Gaps -/

/-- The stretches of a text before, between and after nuggets that stand in it in order; the text
up to the cursor is left out. -/
def gaps (t : Text) : Nat → List Located → List Text
  | cursor, [] => [t.drop cursor]
  | cursor, l :: ls => t.extract cursor l.start :: gaps t l.stop ls

/-- Gaps with texts put between them. -/
def interleave : List Text → List Text → Text
  | gap :: gaps, text :: texts => gap ++ text ++ interleave gaps texts
  | gaps, _ => gaps.flatten

@[simp] theorem length_gaps (t : Text) (cursor : Nat) (ls : List Located) :
    (gaps t cursor ls).length = ls.length + 1 := by
  induction ls generalizing cursor with
  | nil => rfl
  | cons l ls ih => rw [gaps, List.length_cons, ih, List.length_cons]

/-- Behind a stretch that was passed over without finding anything, the first gap begins with that
stretch. -/
theorem gaps_locate_nil (b g : Text) :
    gaps (b ++ g ++ sourceOf []) b.length (locate (b.length + g.length) []) = [g] := by
  rw [locate, gaps, List.append_assoc, List.drop_left]
  exact congrArg (· :: []) (List.append_nil g)

theorem gaps_locate_plain_cons (b g : Text) (c : CodePoint) (ps : List Piece) :
    gaps (b ++ g ++ sourceOf (.plain c :: ps)) b.length
        (locate (b.length + g.length) (.plain c :: ps))
      = gaps (b ++ (g ++ [c]) ++ sourceOf ps) b.length
        (locate (b.length + (g ++ [c]).length) ps) := by
  have hsource : b ++ g ++ sourceOf (.plain c :: ps) = b ++ (g ++ [c]) ++ sourceOf ps := by
    simp [sourceOf, Piece.source]
  rw [hsource, locate, List.length_append, List.length_singleton, Nat.add_assoc]

/-- Behind a nugget, places count from what stands up to its end. -/
theorem locate_nugget_cons (b g : Text) (n : Nugget) (ps : List Piece) :
    locate (b.length + g.length) (.nugget n :: ps)
      = ⟨n, b.length + g.length⟩ :: locate (b ++ g ++ n.raw).length ps := by
  rw [locate, List.length_append, List.length_append]

theorem gaps_locate_nugget_cons (b g : Text) (n : Nugget) (ps : List Piece) :
    gaps (b ++ g ++ sourceOf (.nugget n :: ps)) b.length
        (locate (b.length + g.length) (.nugget n :: ps))
      = g :: gaps (b ++ g ++ n.raw ++ [] ++ sourceOf ps) (b ++ g ++ n.raw).length
        (locate (b ++ g ++ n.raw).length ps) := by
  have hsource : b ++ g ++ sourceOf (.nugget n :: ps) = b ++ g ++ n.raw ++ [] ++ sourceOf ps := by
    simp [sourceOf, Piece.source]
  have hstop : b.length + g.length + n.raw.length = (b ++ g ++ n.raw).length := by
    rw [List.length_append, List.length_append]
  rw [locate_nugget_cons, gaps, Text.extract_append_append, Located.stop, hsource, hstop]

/-- Gaps joined over the nuggets as they are written. -/
theorem interleave_gaps_locate (b g : Text) (ps : List Piece) :
    interleave (gaps (b ++ g ++ sourceOf ps) b.length (locate (b.length + g.length) ps))
        ((locate (b.length + g.length) ps).map fun l => l.nugget.raw)
      = g ++ sourceOf ps := by
  induction ps generalizing b g with
  | nil =>
    rw [gaps_locate_nil, locate]
    exact congrArg (g ++ ·) rfl
  | cons piece ps ih =>
    cases piece with
    | plain c =>
      have hnext := ih b (g ++ [c])
      rw [gaps_locate_plain_cons, locate, Nat.add_assoc]
      rw [List.length_append, List.length_singleton] at hnext ⊢
      rw [hnext, List.append_assoc]
      rfl
    | nugget n =>
      have hnext := ih (b ++ g ++ n.raw) []
      rw [List.length_nil, Nat.add_zero] at hnext
      rw [gaps_locate_nugget_cons, locate_nugget_cons, List.map_cons, interleave, hnext,
        List.append_assoc]
      rfl

/-- **With the nuggets as written between them, the gaps are the text.** -/
theorem interleave_gaps_raw (t : Text) :
    interleave (gaps t 0 (nuggets t)) ((nuggets t).map fun l => l.nugget.raw) = t := by
  have h := interleave_gaps_locate [] [] (scan t)
  rwa [List.append_nil, List.nil_append, Nugget.sourceOf_scan] at h

/-! ## Localizing nugget by nugget -/

namespace Localized

theorem append_def (r s : Localized) : r ++ s = ⟨r.text ++ s.text, r.nuggets + s.nuggets,
    r.translated + s.translated, r.warnings ++ s.warnings⟩ := rfl

theorem nothing_append (r : Localized) : nothing ++ r = r := by
  rw [append_def, nothing]
  simp

/-- An empty gap adds nothing to what stands behind it. -/
theorem empty_gap_append : (fun r : Localized => ⟨[], 0, 0, []⟩ ++ r) = id := funext nothing_append

theorem append_assoc (r s t : Localized) : r ++ s ++ t = r ++ (s ++ t) := by
  simp only [append_def, List.append_assoc, Nat.add_assoc]

/-- The outcomes of nuggets between gaps, counted, and their warnings. -/
def splice (gaps : List Text) (resolved : List (Outcome × Option MissingKey)) : Localized :=
  ⟨interleave gaps (resolved.map fun r => r.1.text), resolved.length,
    resolved.countP fun r => r.1.isTranslated, resolved.filterMap Prod.snd⟩

/-- One more outcome is one more stretch. -/
theorem splice_cons_cons (gap : Text) (gaps : List Text) (outcome : Outcome)
    (warning : Option MissingKey) (resolved : List (Outcome × Option MissingKey)) :
    splice (gap :: gaps) ((outcome, warning) :: resolved)
      = ⟨gap, 0, 0, []⟩ ++ (⟨outcome.text, 1, if outcome.isTranslated then 1 else 0,
        warning.toList⟩ ++ splice gaps resolved) := by
  rw [append_def, append_def, splice, splice, List.map_cons, interleave, List.countP_cons]
  cases warning with
  | none => simp [Nat.add_comm]
  | some m => simp [Nat.add_comm]

end Localized

namespace Policy

variable {p : Policy} {asset : Text}

/-- The outcomes of nuggets with their warnings, in order, unless a placeholder is refused. -/
def resolveAll (p : Policy) (asset : Text) (ls : List Located) :
    Except OversizedPlaceholder (List (Outcome × Option MissingKey)) :=
  ls.mapM fun l => p.resolve l.nugget asset

theorem resolveAll_nil : p.resolveAll asset [] = .ok [] := rfl

theorem resolveAll_cons (l : Located) (ls : List Located) :
    p.resolveAll asset (l :: ls)
      = (do return (← p.resolve l.nugget asset) :: (← p.resolveAll asset ls)) := by
  rw [resolveAll, List.mapM_cons]
  rfl

/-- Pieces in two stretches are two runs. -/
theorem localizePieces_append (ps qs : List Piece) :
    p.localizePieces asset (ps ++ qs)
      = (do return (← p.localizePieces asset ps) ++ (← p.localizePieces asset qs)) := by
  induction ps with
  | nil =>
    rw [List.nil_append, localizePieces]
    cases p.localizePieces asset qs with
    | error e => rfl
    | ok r => exact congrArg Except.ok (Localized.nothing_append r).symm
  | cons piece ps ih =>
    rw [List.cons_append, localizePieces, localizePieces, ih]
    cases piece.localize p asset with
    | error e => rfl
    | ok r =>
      cases p.localizePieces asset ps with
      | error e => rfl
      | ok s =>
        cases p.localizePieces asset qs with
        | error e => rfl
        | ok t => exact congrArg Except.ok (Localized.append_assoc r s t).symm

/-- **A run over pieces is a run over the nuggets among them.**  `g` is the stretch passed over
since the last nugget, and `b` is what stands before it. -/
theorem localizePieces_eq (b g : Text) (ps : List Piece) :
    (fun r : Localized => ⟨g, 0, 0, []⟩ ++ r) <$> p.localizePieces asset ps
      = Localized.splice (gaps (b ++ g ++ sourceOf ps) b.length (locate (b.length + g.length) ps))
        <$> p.resolveAll asset (locate (b.length + g.length) ps) := by
  induction ps generalizing b g with
  | nil =>
    rw [gaps_locate_nil, locate, resolveAll_nil, localizePieces]
    show Except.ok (⟨g, 0, 0, []⟩ ++ Localized.nothing) = Except.ok (Localized.splice [g] [])
    simp [Localized.append_def, Localized.nothing, Localized.splice, interleave]
  | cons piece ps ih =>
    cases piece with
    | plain c =>
      have hnext := ih b (g ++ [c])
      rw [gaps_locate_plain_cons]
      rw [List.length_append, List.length_singleton] at hnext ⊢
      rw [locate, Nat.add_assoc, ← hnext, localizePieces]
      cases p.localizePieces asset ps with
      | error e => rfl
      | ok r =>
        show Except.ok (⟨g, 0, 0, []⟩ ++ (⟨[c], 0, 0, []⟩ ++ r))
          = Except.ok (⟨g ++ [c], 0, 0, []⟩ ++ r)
        simp [Localized.append_def]
    | nugget n =>
      have hnext := ih (b ++ g ++ n.raw) []
      rw [Localized.empty_gap_append, id_map, List.length_nil, Nat.add_zero] at hnext
      rw [gaps_locate_nugget_cons, locate_nugget_cons, resolveAll_cons, localizePieces,
        Piece.localize, hnext]
      dsimp only
      cases p.resolve n asset with
      | error e => rfl
      | ok r =>
        cases p.resolveAll asset (locate (b ++ g ++ n.raw).length ps) with
        | error e => rfl
        | ok resolved =>
          exact congrArg Except.ok (Localized.splice_cons_cons g _ r.1 r.2 resolved).symm

/-- **A run over a text is a run over its nuggets**: their outcomes stand between the gaps, or the
first placeholder that is refused stops the run. -/
theorem localize_eq (p : Policy) (text asset : Text) :
    p.localize text asset
      = Localized.splice (gaps text 0 (nuggets text)) <$> p.resolveAll asset (nuggets text) := by
  have h := @localizePieces_eq p asset [] [] (scan text)
  rw [Localized.empty_gap_append, id_map, List.append_nil, List.nil_append, Nugget.sourceOf_scan] at h
  exact h

/-! ## What becomes of the nuggets -/

/-- Every outcome is that of one of the nuggets. -/
theorem exists_of_mem_resolveAll {ls : List Located}
    {resolved : List (Outcome × Option MissingKey)} (h : p.resolveAll asset ls = .ok resolved)
    {r : Outcome × Option MissingKey} (hr : r ∈ resolved) :
    ∃ l ∈ ls, p.resolve l.nugget asset = .ok r := by
  induction ls generalizing resolved with
  | nil =>
    cases h
    cases hr
  | cons l ls ih =>
    rw [resolveAll_cons] at h
    obtain ⟨first, hfirst, h⟩ := bind_eq_ok_iff.1 h
    obtain ⟨others, hothers, h⟩ := bind_eq_ok_iff.1 h
    cases h
    rcases List.mem_cons.1 hr with rfl | hr
    · exact ⟨l, List.mem_cons_self, hfirst⟩
    · obtain ⟨m, hm, hresolve⟩ := ih hothers hr
      exact ⟨m, List.mem_cons_of_mem l hm, hresolve⟩

theorem length_of_resolveAll {ls : List Located} {resolved : List (Outcome × Option MissingKey)}
    (h : p.resolveAll asset ls = .ok resolved) : resolved.length = ls.length := by
  induction ls generalizing resolved with
  | nil =>
    cases h
    rfl
  | cons l ls ih =>
    rw [resolveAll_cons] at h
    obtain ⟨first, -, h⟩ := bind_eq_ok_iff.1 h
    obtain ⟨others, hothers, h⟩ := bind_eq_ok_iff.1 h
    cases h
    rw [List.length_cons, ih hothers, List.length_cons]

/-- A warning names the asset of the run, the key and the locale. -/
theorem eq_of_warning? {key : Text} {m : MissingKey} (h : p.warning? key asset = some m) :
    m = ⟨asset, key, p.locale⟩ := by
  rw [warning?] at h
  split at h
  · cases h
    rfl
  · cases h

/-- **A nugget that is kept is kept as it is written.** -/
theorem eq_raw_of_outcome_eq_kept {n : Nugget} {s : Text} (h : p.outcome n = .ok (.kept s)) :
    s = n.raw := by
  rcases outcome_eq_ok_cases h with ⟨_, _, -, -, ho⟩ | ⟨_, -, -, -, ho⟩ | ⟨-, -, ho⟩
  · cases ho
  · cases ho
  · cases ho
    rfl

/-- Where every nugget is kept, the outcomes are the nuggets as written. -/
theorem map_text_of_kept {ls : List Located} {resolved : List (Outcome × Option MissingKey)}
    (h : p.resolveAll asset ls = .ok resolved) (hkept : ∀ r ∈ resolved, ∃ s, r.1 = .kept s) :
    (resolved.map fun r => r.1.text) = ls.map fun l => l.nugget.raw := by
  induction ls generalizing resolved with
  | nil =>
    cases h
    rfl
  | cons l ls ih =>
    rw [resolveAll_cons] at h
    obtain ⟨⟨outcome, warning⟩, hfirst, h⟩ := bind_eq_ok_iff.1 h
    obtain ⟨others, hothers, h⟩ := bind_eq_ok_iff.1 h
    cases h
    obtain ⟨s, hs⟩ := hkept _ List.mem_cons_self
    obtain rfl : outcome = .kept s := hs
    obtain rfl := eq_raw_of_outcome_eq_kept (resolve_eq_ok_iff.1 hfirst).1
    rw [List.map_cons, List.map_cons, ih hothers fun r hr => hkept r (List.mem_cons_of_mem _ hr)]
    rfl

/-- Without a table, and with the brackets kept, every nugget is kept and nothing is warned
about. -/
theorem resolveAll_of_table_eq_none (htable : p.table = none) (hkeep : p.removeBrackets = false)
    (ls : List Located) :
    p.resolveAll asset ls = .ok (ls.map fun l => (.kept l.nugget.raw, none)) := by
  have hresolve : ∀ n, p.resolve n asset = .ok (.kept n.raw, none) := by
    intro n
    refine resolve_eq_ok_iff.2 ⟨outcome_of_wording?_eq_none hkeep ?_, ?_⟩
    · rw [wording?, htable]
      rfl
    · rw [warning?, htable]
      rfl
  induction ls with
  | nil => rfl
  | cons l ls ih =>
    rw [resolveAll_cons, hresolve, ih]
    rfl

/-- **The outcomes of the nuggets are spliced into the text.**  When every nugget can be resolved,
the run succeeds: its text is the gaps with the outcomes between them, its counts are those of the
nuggets and of the translated among them, and its warnings are those of the nuggets, in order, each
with the name of the asset; where every nugget is kept, the text stays as it is.  Otherwise the run
is stopped by the first nugget that cannot be resolved.  There is one gap more than there are
nuggets, and gaps and nuggets together are the text. -/
theorem localize_splices_outcomes (p : Policy) (text asset : Text) :
    (∀ resolved, p.resolveAll asset (nuggets text) = .ok resolved →
      p.localize text asset = .ok
          ⟨interleave (gaps text 0 (nuggets text)) (resolved.map fun r => r.1.text),
            (nuggets text).length, resolved.countP fun r => r.1.isTranslated,
            resolved.filterMap Prod.snd⟩ ∧
        (∀ m ∈ resolved.filterMap Prod.snd, m.asset = asset) ∧
        ((∀ r ∈ resolved, ∃ s, r.1 = .kept s) →
          Localized.text <$> p.localize text asset = .ok text)) ∧
      (∀ e, p.resolveAll asset (nuggets text) = .error e → p.localize text asset = .error e) ∧
      (p.table = none → p.removeBrackets = false →
        p.localize text asset = .ok ⟨text, (nuggets text).length, 0, []⟩) ∧
      (gaps text 0 (nuggets text)).length = (nuggets text).length + 1 ∧
      interleave (gaps text 0 (nuggets text)) ((nuggets text).map fun l => l.nugget.raw)
        = text := by
  refine ⟨fun resolved h => ⟨?_, ?_, fun hkept => ?_⟩, fun e h => ?_, fun htable hkeep => ?_,
    length_gaps text 0 _, interleave_gaps_raw text⟩
  · rw [localize_eq, h, ← length_of_resolveAll h]
    rfl
  · intro m hm
    obtain ⟨⟨outcome, warning⟩, hr, hwarning⟩ := List.mem_filterMap.1 hm
    obtain ⟨l, -, hresolve⟩ := exists_of_mem_resolveAll h hr
    have hkey := (resolve_eq_ok_iff.1 hresolve).2
    rw [eq_of_warning? (hkey.symm.trans hwarning)]
  · rw [localize_eq, h]
    show Except.ok (interleave _ (resolved.map fun r => r.1.text)) = _
    rw [map_text_of_kept h hkept, interleave_gaps_raw]
  · rw [localize_eq, h]
    rfl
  · rw [localize_eq, resolveAll_of_table_eq_none htable hkeep]
    show Except.ok (Localized.splice _ _) = _
    have htranslated : (nuggets text).countP
        ((fun r : Outcome × Option MissingKey => r.1.isTranslated)
          ∘ fun l => (.kept l.nugget.raw, none)) = 0 :=
      List.countP_eq_zero.2 fun l _ => Bool.false_ne_true
    have hwarnings : ((nuggets text).map fun l =>
        ((.kept l.nugget.raw, none) : Outcome × Option MissingKey)).filterMap Prod.snd = [] := by
      simp
    rw [Localized.splice, List.countP_map, htranslated, hwarnings, List.length_map, List.map_map]
    exact congrArg (fun s => Except.ok (⟨s, (nuggets text).length, 0, []⟩ : Localized))
      (interleave_gaps_raw text)

/-- Two nuggets side by side at the start of a text, one translated and one missing; a closing
bracket that is not used up is the last gap. -/
theorem localize_splices_outcomes_side_by_side :
    let p : Policy := { table := some ⟨[(Text.ofChars ['a'], Text.ofChars ['x', '%', '0'])]⟩ }
    p.localize (Text.ofChars ['[', '[', '[', 'a', '|', '|', '|', '1', ']', ']', ']', '[', '[', '[',
        'b', ']', ']', ']', ']']) (Text.ofChars ['f'])
      = .ok ⟨Text.ofChars ['x', '1', '[', '[', '[', 'b', ']', ']', ']', ']'], 2, 1,
        [⟨Text.ofChars ['f'], Text.ofChars ['b'], []⟩]⟩ := by
  intro p
  exact ((localize_splices_outcomes p _ _).1
    [(.translated (Text.ofChars ['x', '1']), none),
      (.kept (Text.ofChars ['[', '[', '[', 'b', ']', ']', ']']),
        some ⟨Text.ofChars ['f'], Text.ofChars ['b'], []⟩)] rfl).1

end Policy
end Localize
