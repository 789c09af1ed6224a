import Localize.Proofs.Lookup
import Localize.Proofs.Nugget.Replacement
import Localize.Proofs.Resolution.Rendering

/-!
# Several passes over one text

A pass that keeps brackets leaves the nuggets it has no wording for as they are, so that a later
pass can handle them.  This file proves that the later pass finds exactly those: two passes give
the text of one pass whose table looks a key up in the first table and, where that has no wording
for it, in the second (`Policy.before`).

The wordings that the first pass puts in must hold no opening bracket.  They stand next to whatever
the text has between its nuggets, stray brackets included, and that nothing is completed there is
`Nugget.scan_sourceOf_replaced`.

* `wording?_before` — what the merged table says about a key.
* `render_eq_ok` — the first pass replaces the nuggets it has wordings for.
* `render_replaced` — the second pass over what is left is the merged pass.
-/

set_option autoImplicit false

namespace Localize

/-! ## Merging tables -/

namespace Table

/-- The wordings of `t`, and those of `u` for keys without a nonempty wording in `t`. -/
def orElse (t u : Table) : Table :=
  ⟨(t.entries.filter fun e => t.get? e.1 ≠ some []) ++ u.entries⟩

/-- The merged table has the first wording that is not empty. -/
theorem filter_get?_orElse (t u : Table) (key : Text) :
    ((t.orElse u).get? key).filter (· ≠ [])
      = ((t.get? key).filter (· ≠ [])).or ((u.get? key).filter (· ≠ [])) := by
  rw [get?, orElse, List.lookup_append, lookup_filter_key fun k => t.get? k ≠ some []]
  rw [← get?, ← get?]
  cases h : t.get? key with
  | none => simp
  | some v => by_cases hv : v = [] <;> simp [Option.filter, hv]

end Table

namespace Policy

variable {p q : Policy}

/-- The policy of two passes in one: `p` is asked for a wording first, and `q` for everything
else. -/
def before (p q : Policy) : Policy := { q with table := Option.merge Table.orElse p.table q.table }

theorem wording?_before (p q : Policy) (key : Text) :
    (p.before q).wording? key = (p.wording? key).or (q.wording? key) := by
  rw [wording?, wording?, wording?, before]
  cases p.table with
  | none => cases q.table <;> simp [Option.merge]
  | some t =>
    cases q.table with
    | none => simp [Option.merge]
    | some u => exact t.filter_get?_orElse u key

/-! ## The first pass -/

/-- The text a pass puts in the place of a nugget that it has a wording for. -/
def replacement? (p : Policy) (n : Nugget) : Option Text :=
  match p.outcome n with
  | .ok (.translated s) => some s
  | _ => none

theorem outcome_of_replacement? {n : Nugget} {s : Text} (h : p.replacement? n = some s) :
    p.outcome n = .ok (.translated s) := by
  rw [replacement?] at h
  split at h
  · rename_i hout
    cases h
    exact hout
  · cases h

/-- **What a pass that keeps brackets does to a nugget**, when it can read the placeholders: the
nugget stays, for want of a wording, or a text takes its place. -/
theorem renderPiece_nugget_cases {n : Nugget} {s : Text} (hkeep : p.removeBrackets = false)
    (h : p.renderPiece (.nugget n) = .ok s) :
    (p.wording? n.key = none ∧ p.replacement? n = none ∧ s = n.raw) ∨
      ∃ value, p.wording? n.key = some value ∧ p.replacement? n = some s ∧
        p.outcome n = .ok (.translated s) := by
  obtain ⟨o, hout, rfl⟩ := map_eq_ok_iff.1 h
  rcases outcome_eq_ok_cases hout with
    ⟨value, s, hw, -, rfl⟩ | ⟨s, -, hstrip, -, rfl⟩ | ⟨hw, -, rfl⟩
  · exact Or.inr ⟨value, hw, by rw [replacement?, hout]; rfl, hout⟩
  · rw [hkeep] at hstrip
    cases hstrip
  · exact Or.inl ⟨hw, by rw [replacement?, hout], rfl⟩

/-- **The first pass replaces the nuggets it has wordings for** and leaves the others. -/
theorem render_eq_ok {ps : List Piece} {s : Text} (hkeep : p.removeBrackets = false)
    (h : p.render ps = .ok s) :
    s = Nugget.sourceOf (ps.flatMap (Piece.replace p.replacement?)) := by
  induction ps generalizing s with
  | nil => cases h; rfl
  | cons piece ps ih =>
    obtain ⟨first, hfirst, h⟩ := bind_eq_ok_iff.1 h
    obtain ⟨others, hothers, h⟩ := bind_eq_ok_iff.1 h
    cases h
    rw [List.flatMap_cons, Nugget.sourceOf_append, ih hothers]
    congr 1
    cases piece with
    | plain c => cases hfirst; rfl
    | nugget n =>
      rcases renderPiece_nugget_cases hkeep hfirst with ⟨-, hnone, rfl⟩ | ⟨value, -, hsome, -⟩
      · rw [Piece.replace, hnone]
        exact (List.append_nil n.raw).symm
      · rw [Piece.replace, hsome]
        exact (Nugget.sourceOf_map_plain first).symm

/-- The nuggets the first pass leaves are those without a wording. -/
theorem filterMap_nugget?_replace {ps : List Piece} {s : Text} (hkeep : p.removeBrackets = false)
    (h : p.render ps = .ok s) :
    (ps.flatMap (Piece.replace p.replacement?)).filterMap Piece.nugget?
      = (ps.filterMap Piece.nugget?).filter fun n => p.wording? n.key = none := by
  induction ps generalizing s with
  | nil => rfl
  | cons piece ps ih =>
    obtain ⟨first, hfirst, h⟩ := bind_eq_ok_iff.1 h
    obtain ⟨others, hothers, -⟩ := bind_eq_ok_iff.1 h
    rw [List.flatMap_cons, List.filterMap_append, ih hothers]
    cases piece with
    | plain c => rfl
    | nugget n =>
      rcases renderPiece_nugget_cases hkeep hfirst with ⟨hw, hnone, -⟩ | ⟨value, hw, hsome, -⟩
      · rw [Piece.replace, hnone]
        simp [Piece.nugget?, hw]
      · rw [Piece.replace, hsome]
        simp [Piece.nugget?, hw]

/-! ## The second pass -/

/-- **The second pass over what the first one left is the merged pass**, placeholders that cannot
be read included. -/
theorem render_replaced {ps : List Piece} {s : Text} (hkeep : p.removeBrackets = false)
    (h : p.render ps = .ok s) :
    q.render (ps.flatMap (Piece.replace p.replacement?)) = (p.before q).render ps := by
  induction ps generalizing s with
  | nil => rfl
  | cons piece ps ih =>
    obtain ⟨first, hfirst, h⟩ := bind_eq_ok_iff.1 h
    obtain ⟨others, hothers, -⟩ := bind_eq_ok_iff.1 h
    rw [List.flatMap_cons, render_append, render_cons, ih hothers]
    congr 1
    cases piece with
    | plain c => rfl
    | nugget n =>
      have hbefore := wording?_before p q n.key
      rcases renderPiece_nugget_cases hkeep hfirst with
        ⟨hw, hnone, -⟩ | ⟨value, hw, hsome, hout⟩
      · rw [hw, Option.none_or] at hbefore
        rw [Piece.replace, hnone, renderPiece_congr (p := p.before q) hbefore rfl]
        rw [render_cons]
        cases q.renderPiece (.nugget n) with
        | error e => rfl
        | ok t => exact congrArg Except.ok (List.append_nil t)
      · have hmerged : (p.before q).outcome n = p.outcome n := by
          rw [hw, Option.some_or] at hbefore
          rw [outcome, outcome, hbefore, hw]
        rw [Piece.replace, hsome, renderPiece, hmerged, hout]
        exact render_map_plain first

/-- **Two passes are one.**  When the first pass keeps brackets and the wordings it puts in hold no
opening bracket, a second pass over its text gives the text of the merged policy; a second pass of
the same policy changes nothing; and the nuggets of the text between the passes are those the
first one had no wording for. -/
theorem localize_localize {p q : Policy} {text asset asset' : Text} {r : Localized}
    (hkeep : p.removeBrackets = false) (hfirst : p.localize text asset = .ok r)
    (hplain : ∀ l ∈ Nugget.nuggets text, ∀ s, p.outcome l.nugget = .ok (.translated s) →
      CodePoint.ofChar '[' ∉ s) :
    Localized.text <$> q.localize r.text asset'
        = Localized.text <$> (p.before q).localize text asset'
      ∧ (q.table = p.table → q.removeBrackets = false →
        Localized.text <$> q.localize r.text asset' = .ok r.text)
      ∧ (Nugget.nuggets r.text).map Nugget.Located.nugget
        = ((Nugget.nuggets text).map Nugget.Located.nugget).filter
          fun n => p.wording? n.key = none := by
  have hrender : p.render (Nugget.scan text) = .ok r.text := by
    rw [← text_localize text asset, hfirst]
    rfl
  have hscan : Nugget.scan r.text = Nugget.replaced p.replacement? text := by
    rw [render_eq_ok hkeep hrender]
    refine Nugget.scan_sourceOf_replaced fun n hn s hs => ?_
    obtain ⟨l, hl, rfl⟩ := Nugget.mem_scan_iff.1 hn
    exact hplain l hl s (outcome_of_replacement? hs)
  have hmerged : Localized.text <$> q.localize r.text asset'
      = Localized.text <$> (p.before q).localize text asset' := by
    rw [text_localize, text_localize, hscan]
    exact render_replaced hkeep hrender
  refine ⟨hmerged, fun htable hbrackets => ?_, ?_⟩
  · have hwording : ∀ key, (p.before q).wording? key = p.wording? key := by
      intro key
      rw [wording?_before, wording?, wording?, htable, Option.or_self]
    rw [hmerged, text_localize, ← hrender]
    exact render_congr hwording (hbrackets.trans hkeep.symm) _
  · rw [Nugget.map_nugget_nuggets, Nugget.map_nugget_nuggets, hscan]
    exact filterMap_nugget?_replace hkeep hrender

/-- The first pass translates one nugget and leaves the other; between them stand closing brackets
that are not used up and marks with nothing in between. -/
theorem localize_localize_among_brackets :
    let p : Policy := { table := some ⟨[(Text.ofChars ['a'], Text.ofChars [']', 'x'])]⟩ }
    let q : Policy :=
      { table := some ⟨[(Text.ofChars ['b'], Text.ofChars ['y'])]⟩, removeBrackets := true }
    ∃ r, p.localize (Text.ofChars ['[', '[', '[', 'a', ']', ']', ']', ']', '[', '[', '[', ']', ']',
        ']', '[', '[', '[', 'b', ']', ']', ']']) [] = .ok r ∧
      Localized.text <$> q.localize r.text []
        = .ok (Text.ofChars [']', 'x', ']', '[', '[', '[', ']', ']', ']', 'y']) := by
  intro p q
  have hfirst : p.localize (Text.ofChars ['[', '[', '[', 'a', ']', ']', ']', ']', '[', '[', '[',
      ']', ']', ']', '[', '[', '[', 'b', ']', ']', ']']) []
        = .ok ⟨Text.ofChars [']', 'x', ']', '[', '[', '[', ']', ']', ']', '[', '[', '[', 'b', ']',
          ']', ']'], 2, 1, [⟨[], Text.ofChars ['b'], []⟩]⟩ := rfl
  have hplain : ∀ l ∈ Nugget.nuggets (Text.ofChars ['[', '[', '[', 'a', ']', ']', ']', ']', '[',
      '[', '[', ']', ']', ']', '[', '[', '[', 'b', ']', ']', ']']),
      ∀ s, p.outcome l.nugget = .ok (.translated s) → CodePoint.ofChar '[' ∉ s := by
    intro l hl s hs
    have hl : l ∈ [⟨Nugget.ofBody (Text.ofChars ['a']), 0⟩,
      ⟨Nugget.ofBody (Text.ofChars ['b']), 14⟩] := hl
    simp only [List.mem_cons, List.not_mem_nil, or_false] at hl
    rcases hl with rfl | rfl
    · cases hs
      decide
    · cases hs
  refine ⟨_, hfirst, ?_⟩
  rw [(localize_localize rfl hfirst hplain).1]
  rfl

end Policy
end Localize
