import Localize.Proofs.Nugget.Settled
import Localize.Proofs.Resolution.Rendering

/-!
# What a pass that removes brackets leaves

A pass that removes brackets puts a text in the place of every nugget, so one would think that no
nugget is left.  But the text that takes the place of a nugget may be the nugget's own, and a key
may hold opening brackets: in `[[[[[[a]]]]]]` the key is `[[[a`, and three closing brackets stand
behind the nugget, so that stripping it gives `[[[a]]]`.

That is the only way.  Between the outcomes nothing begins a nugget that did not begin one before
(`Nugget.Settled`), so a nugget that is left begins inside the text of an outcome.

* `exists_outcomeAt` — where a nugget begins in the text of a run, the text of an outcome stands.
* `not_forall_nuggets_eq_nil` — nuggets can be left.
* `stripped_of_mem_nuggets` — where they begin, and when there are none.
-/

set_option autoImplicit false

namespace Localize

open Nugget (Settled IsBody body? scan nuggets openMark closeMark ofBody)

namespace Nugget

/-- Nothing begins in a text without nuggets. -/
theorem body?_drop_eq_none {t : Text} (h : scan t = t.map .plain) (i : Nat) :
    body? (t.drop i) = none := by
  induction t generalizing i with
  | nil => rw [List.drop_nil]; rfl
  | cons c t ih =>
    cases hbody : body? (c :: t) with
    | some body =>
      obtain ⟨hbody, rest, ht⟩ := body?_eq_some_iff.1 hbody
      rw [ht, scan_nugget_append hbody] at h
      exact absurd (h ▸ List.mem_cons_self) nugget_not_mem_map_plain
    | none =>
      rw [scan_cons_of_none hbody] at h
      cases i with
      | zero => exact hbody
      | succ i => exact ih (List.cons.inj h).2 i

/-- A nugget begins with an opening bracket. -/
theorem openMark_prefix_of_body?_ne_none {t : Text} (h : body? t ≠ none) : openMark <+: t :=
  Classical.not_not.1 fun hnot => h (body?_eq_none_of_openMark_absent hnot)

theorem body?_drop_start_ne_none {t : Text} {l : Located} (h : l ∈ nuggets t) :
    body? (t.drop l.start) ≠ none := by
  obtain ⟨a, body, rest, rfl, hbody, rfl⟩ := exists_eq_append_of_mem_nuggets h
  rw [List.drop_left, body?_eq_some_iff.2 ⟨hbody, rest, rfl⟩]
  exact Option.some_ne_none body

end Nugget

namespace Policy

variable {p : Policy}

/-! ## Where a nugget can begin -/

/-- Position `i` of the text `u` that a run gives lies in the text of an outcome: `before` is what
the run makes of the pieces before the nugget, and `behind` what it makes of those behind it. -/
def OutcomeAt (p : Policy) (text u : Text) (i : Nat) (o : Outcome) : Prop :=
  ∃ ps n qs before behind, scan text = ps ++ .nugget n :: qs ∧ p.render ps = .ok before ∧
    p.outcome n = .ok o ∧ p.render qs = .ok behind ∧ u = before ++ (o.text ++ behind) ∧
    before.length ≤ i ∧ i < before.length + o.text.length

/-- A gap and a nugget in front of pieces. -/
theorem render_gap_nugget_append {a s : Text} {n : Nugget} {o : Outcome} {ps : List Piece}
    (ho : p.outcome n = .ok o) (h : p.render ps = .ok s) :
    p.render (a.map .plain ++ .nugget n :: ps) = .ok (a ++ (o.text ++ s)) := by
  rw [render_append, render_map_plain, render_cons, renderPiece, ho, h]
  rfl

/-- A place in an outcome further along. -/
theorem OutcomeAt.gap_nugget_append {a body rest u : Text} {i : Nat} {o o' : Outcome}
    (ha : Settled a) (hbody : IsBody body) (ho : p.outcome (ofBody body) = .ok o)
    (h : OutcomeAt p rest u i o') :
    OutcomeAt p (a ++ (openMark ++ body ++ closeMark ++ rest)) (a ++ (o.text ++ u))
      (a.length + o.text.length + i) o' := by
  obtain ⟨ps, n, qs, before, behind, hscan, hps, ho', hqs, rfl, hle, hlt⟩ := h
  refine ⟨a.map .plain ++ .nugget (ofBody body) :: ps, n, qs, a ++ (o.text ++ before), behind, ?_,
    render_gap_nugget_append ho hps, ho', hqs, ?_, ?_, ?_⟩
  · rw [Nugget.scan_settled_nugget_append ha hbody, hscan, List.append_assoc]
    rfl
  · rw [List.append_assoc, List.append_assoc]
  · simp only [List.length_append]
    omega
  · simp only [List.length_append]
    omega

/-- **Where a nugget begins in the text of a run, the text of an outcome stands.** -/
theorem exists_outcomeAt {text u : Text} (h : p.render (scan text) = .ok u) {i : Nat}
    (hi : body? (u.drop i) ≠ none) : ∃ o, OutcomeAt p text u i o := by
  induction text using Nugget.gap_induction generalizing u i with
  | last t hplain =>
    rw [hplain, render_map_plain] at h
    cases h
    exact absurd (Nugget.body?_drop_eq_none hplain i) hi
  | nugget a body rest ha hbody ih =>
    have hscan := Nugget.scan_settled_nugget_append ha hbody rest
    rw [hscan, render_append, render_map_plain] at h
    obtain ⟨gap, hgap, h⟩ := bind_eq_ok_iff.1 h
    obtain ⟨u', hu', h⟩ := bind_eq_ok_iff.1 h
    cases hgap
    cases h
    obtain ⟨s, hs, hu'⟩ := bind_eq_ok_iff.1 hu'
    obtain ⟨behind, hbehind, hu'⟩ := bind_eq_ok_iff.1 hu'
    cases hu'
    obtain ⟨o, ho, rfl⟩ := map_eq_ok_iff.1 hs
    rcases Nat.lt_or_ge i a.length with hlt | hge
    · exact absurd (ha _ i hlt) hi
    · obtain ⟨j, rfl⟩ := Nat.exists_eq_add_of_le hge
      rcases Nat.lt_or_ge j o.text.length with hlt' | hge'
      · refine ⟨o, a.map .plain, ofBody body, scan rest, a, behind, hscan, render_map_plain a, ho,
          hbehind, rfl, hge, Nat.add_lt_add_left hlt' _⟩
      · obtain ⟨k, rfl⟩ := Nat.exists_eq_add_of_le hge'
        rw [List.drop_length_add_append, List.drop_length_add_append] at hi
        obtain ⟨o', ho'⟩ := ih hbehind hi
        refine ⟨o', ?_⟩
        rw [← Nat.add_assoc]
        exact ho'.gap_nugget_append ha hbody ho

/-- A nugget that begins in the text of an outcome shows that an opening mark can begin there. -/
theorem OutcomeAt.not_clear {text u : Text} {i : Nat} {o : Outcome} (h : OutcomeAt p text u i o)
    (hi : body? (u.drop i) ≠ none) : ¬ Text.Clear openMark o.text := by
  obtain ⟨ps, n, qs, before, behind, -, -, -, -, rfl, hle, hlt⟩ := h
  obtain ⟨j, rfl⟩ := Nat.exists_eq_add_of_le hle
  rw [List.drop_length_add_append] at hi
  exact fun hclear => hclear behind j (by omega) (Nugget.openMark_prefix_of_body?_ne_none hi)

/-! ## What is left -/

/-- **Nuggets can be left**: the stripped text of a nugget and what stands behind it can make
another one. -/
theorem not_forall_nuggets_eq_nil :
    ¬ ∀ (p : Policy) (text asset : Text) (r : Localized), p.removeBrackets = true →
      p.localize text asset = .ok r →
      (∀ l ∈ nuggets text,
        (∀ s, p.outcome l.nugget = .ok (.translated s) →
          CodePoint.ofChar '[' ∉ s ∧ CodePoint.ofChar ']' ∉ s) ∧
        ∀ a ∈ l.nugget.args, CodePoint.ofChar '[' ∉ a ∧ CodePoint.ofChar ']' ∉ a) →
      nuggets r.text = [] := by
  intro h
  have hnil := h { table := none, removeBrackets := true }
    (Text.ofChars ['[', '[', '[', '[', '[', '[', 'a', ']', ']', ']', ']', ']', ']']) []
    ⟨Text.ofChars ['[', '[', '[', 'a', ']', ']', ']'], 1, 0, []⟩ rfl rfl
  have hfound : nuggets (Text.ofChars ['[', '[', '[', 'a', ']', ']', ']'])
      = [⟨ofBody (Text.ofChars ['a']), 0⟩] := rfl
  rw [hfound] at hnil
  refine List.cons_ne_nil _ _ (hnil fun l hl => ?_)
  have hl : l ∈ [⟨ofBody (Text.ofChars ['[', '[', '[', 'a']), 0⟩] := hl
  rw [List.mem_singleton] at hl
  subst hl
  refine ⟨fun s hs => ?_, fun a ha => ?_⟩
  · cases hs
  · cases ha

/-- **After a pass that removes brackets, what is left begins in a stripped text.**  When no wording
that is put in holds an opening bracket, every nugget of the text begins inside the text of a nugget
that was stripped; so none is left when no opening mark stands in a stripped text and none ends in
an opening bracket. -/
theorem stripped_of_mem_nuggets {p : Policy} {text asset : Text} {r : Localized}
    (hremove : p.removeBrackets = true) (h : p.localize text asset = .ok r)
    (hplain : ∀ l ∈ nuggets text, ∀ s, p.outcome l.nugget = .ok (.translated s) →
      CodePoint.ofChar '[' ∉ s) :
    (∀ l ∈ nuggets r.text, ∃ s, OutcomeAt p text r.text l.start (.stripped s)) ∧
      ((∀ l ∈ nuggets text, ∀ s, p.outcome l.nugget = .ok (.stripped s) →
          ¬ openMark <:+: s ∧ s.getLast? ≠ some (CodePoint.ofChar '[')) →
        nuggets r.text = []) := by
  have hrender : p.render (scan text) = .ok r.text := by
    rw [← text_localize text asset, h]
    rfl
  have hleft : ∀ l ∈ nuggets r.text, ∃ s, OutcomeAt p text r.text l.start (.stripped s) ∧
      ¬ Text.Clear openMark s := by
    intro l hl
    have hbegins := Nugget.body?_drop_start_ne_none hl
    obtain ⟨o, hat⟩ := exists_outcomeAt hrender hbegins
    have hclear := hat.not_clear hbegins
    obtain ⟨ps, n, qs, -, -, hscan, -, ho, -⟩ := id hat
    rcases outcome_eq_ok_cases ho with ⟨_, s, -, -, rfl⟩ | ⟨s, -, -, -, rfl⟩ | ⟨-, hkeep, -⟩
    · obtain ⟨m, hm, rfl⟩ := Nugget.mem_scan_iff.1 (hscan ▸ List.mem_append_cons_self)
      exact absurd (Nugget.clear_openMark_of_not_mem (hplain m hm s ho)) hclear
    · exact ⟨s, hat, hclear⟩
    · rw [hremove] at hkeep
      cases hkeep
  refine ⟨fun l hl => ?_, fun hstripped => List.eq_nil_iff_forall_not_mem.2 fun l hl => ?_⟩
  · obtain ⟨s, hat, -⟩ := hleft l hl
    exact ⟨s, hat⟩
  · obtain ⟨s, hat, hclear⟩ := hleft l hl
    obtain ⟨ps, n, qs, -, -, hscan, -, ho, -⟩ := hat
    obtain ⟨m, hm, rfl⟩ := Nugget.mem_scan_iff.1 (hscan ▸ List.mem_append_cons_self)
    exact hclear ((Text.clear_replicate_iff (n := 3) (by decide)).2 (hstripped m hm s ho))

/-- A stripped text with an opening bracket in it stands before a closing bracket that is not used
up, marks with nothing in between and a wording that begins with a closing bracket. -/
theorem stripped_of_mem_nuggets_among_brackets :
    let p : Policy :=
      { table := some ⟨[(Text.ofChars ['b'], Text.ofChars [']', 'x'])]⟩, removeBrackets := true }
    ∃ r, p.localize (Text.ofChars ['[', '[', '[', '[', 'a', ']', ']', ']', ']', '[', '[', '[', ']',
        ']', ']', '[', '[', '[', 'b', ']', ']', ']']) [] = .ok r ∧
      r.text = Text.ofChars ['[', 'a', ']', '[', '[', '[', ']', ']', ']', ']', 'x'] ∧
      nuggets r.text = [] := by
  intro p
  have hrun : p.localize (Text.ofChars ['[', '[', '[', '[', 'a', ']', ']', ']', ']', '[', '[', '[',
      ']', ']', ']', '[', '[', '[', 'b', ']', ']', ']']) []
        = .ok ⟨Text.ofChars ['[', 'a', ']', '[', '[', '[', ']', ']', ']', ']', 'x'], 2, 1,
          [⟨[], Text.ofChars ['[', 'a'], []⟩]⟩ := rfl
  have hfound : ∀ l ∈ nuggets (Text.ofChars ['[', '[', '[', '[', 'a', ']', ']', ']', ']', '[', '[',
      '[', ']', ']', ']', '[', '[', '[', 'b', ']', ']', ']']),
      l = ⟨ofBody (Text.ofChars ['[', 'a']), 0⟩ ∨ l = ⟨ofBody (Text.ofChars ['b']), 15⟩ := by
    intro l hl
    have hl : l ∈ [⟨ofBody (Text.ofChars ['[', 'a']), 0⟩, ⟨ofBody (Text.ofChars ['b']), 15⟩] := hl
    simpa using hl
  refine ⟨_, hrun, rfl,
    (stripped_of_mem_nuggets rfl hrun fun l hl s hs => ?_).2 fun l hl s hs => ?_⟩
  · rcases hfound l hl with rfl | rfl
    · cases hs
    · cases hs
      decide
  · rcases hfound l hl with rfl | rfl
    · cases hs
      exact ⟨by decide, by decide⟩
    · cases hs

end Policy
end Localize
