import Localize.Resolution.Splice

/-!
# The text of a run

`Policy.localize` gathers a text, two counts and the warnings.  The text alone follows a simpler
recursion, `Policy.render`: every piece gives way to a text of its own, and the texts are joined.
`text_localize` says that this is the text a run gives, or the placeholder that stopped it, whatever
the asset is called.  Before that stands what can become of a nugget (`outcome_eq_ok_cases`).
-/

set_option autoImplicit false

namespace Localize

/-- A computation of two steps succeeds when both do. -/
theorem bind_eq_ok_iff {ε α β : Type} {x : Except ε α} {f : α → Except ε β} {b : β} :
    (x >>= f) = .ok b ↔ ∃ a, x = .ok a ∧ f a = .ok b := by
  cases x with
  | error e => simp [bind, Except.bind]
  | ok a => simp [bind, Except.bind]

theorem map_eq_ok_iff {ε α β : Type} {x : Except ε α} {f : α → β} {b : β} :
    (f <$> x) = .ok b ↔ ∃ a, x = .ok a ∧ f a = b := by
  cases x with
  | error e => simp [Functor.map, Except.map]
  | ok a => simp [Functor.map, Except.map]

namespace Policy

variable {p q : Policy}

/-! ## Outcomes -/

/-- What becomes of a nugget hangs on the wording of its key and on the brackets alone. -/
theorem outcome_congr {n : Nugget} (hwording : p.wording? n.key = q.wording? n.key)
    (hbrackets : p.removeBrackets = q.removeBrackets) : p.outcome n = q.outcome n := by
  rw [outcome, outcome, fallback, fallback, hwording, hbrackets]

/-- A nugget without a wording is kept by a policy that keeps brackets. -/
theorem outcome_of_wording?_eq_none {n : Nugget} (hkeep : p.removeBrackets = false)
    (h : p.wording? n.key = none) : p.outcome n = .ok (.kept n.raw) := by
  rw [outcome, h, fallback, hkeep]
  rfl

/-- **The three ways a nugget can come out**, each with what it takes. -/
theorem outcome_eq_ok_cases {n : Nugget} {o : Outcome} (h : p.outcome n = .ok o) :
    (∃ value s, p.wording? n.key = some value ∧
      Placeholder.format (Escape.forSplice value) n.args = .ok s ∧ o = .translated s) ∨
    (∃ s, p.wording? n.key = none ∧ p.removeBrackets = true ∧
      Placeholder.format n.text n.args = .ok s ∧ o = .stripped s) ∨
    (p.wording? n.key = none ∧ p.removeBrackets = false ∧ o = .kept n.raw) := by
  rw [outcome] at h
  cases hwording : p.wording? n.key with
  | some value =>
    rw [hwording] at h
    obtain ⟨s, hformat, rfl⟩ := map_eq_ok_iff.1 h
    exact Or.inl ⟨value, s, rfl, hformat, rfl⟩
  | none =>
    rw [hwording, fallback] at h
    cases hbrackets : p.removeBrackets with
    | false =>
      rw [hbrackets] at h
      cases h
      exact Or.inr (Or.inr ⟨rfl, rfl, rfl⟩)
    | true =>
      rw [hbrackets] at h
      obtain ⟨s, hformat, rfl⟩ := map_eq_ok_iff.1 h
      exact Or.inr (Or.inl ⟨s, rfl, rfl, hformat, rfl⟩)

/-- What is resolved is the outcome, and the warning comes with it. -/
theorem resolve_eq_ok_iff {n : Nugget} {asset : Text} {o : Outcome} {warning : Option MissingKey} :
    p.resolve n asset = .ok (o, warning)
      ↔ p.outcome n = .ok o ∧ warning = p.warning? n.key asset := by
  rw [resolve]
  cases p.outcome n with
  | error e => simp [bind, Except.bind]
  | ok o' => simp [bind, Except.bind, pure, Except.pure, eq_comm]

/-! ## Joining the texts of the pieces -/

/-- The text that takes the place of a piece. -/
def renderPiece (p : Policy) : Piece → Except OversizedPlaceholder Text
  | .plain c => .ok [c]
  | .nugget n => Outcome.text <$> p.outcome n

/-- The texts that take the place of pieces, joined. -/
def render (p : Policy) : List Piece → Except OversizedPlaceholder Text
  | [] => .ok []
  | piece :: ps => do
    let first ← p.renderPiece piece
    let others ← p.render ps
    return first ++ others

@[simp] theorem render_nil : p.render [] = .ok [] := rfl

theorem render_cons (piece : Piece) (ps : List Piece) :
    p.render (piece :: ps) = (do return (← p.renderPiece piece) ++ (← p.render ps)) := rfl

theorem render_plain_cons (c : CodePoint) (ps : List Piece) :
    p.render (.plain c :: ps) = (c :: ·) <$> p.render ps := by
  rw [render_cons]
  cases p.render ps <;> rfl

theorem render_append (ps qs : List Piece) :
    p.render (ps ++ qs) = (do return (← p.render ps) ++ (← p.render qs)) := by
  induction ps with
  | nil =>
    rw [List.nil_append, render_nil]
    cases p.render qs <;> rfl
  | cons piece ps ih =>
    rw [List.cons_append, render_cons, render_cons, ih]
    cases p.renderPiece piece with
    | error e => rfl
    | ok s =>
      cases p.render ps with
      | error e => rfl
      | ok t =>
        cases p.render qs with
        | error e => rfl
        | ok u => exact congrArg Except.ok (List.append_assoc s t u).symm

@[simp] theorem render_map_plain (t : Text) : p.render (t.map .plain) = .ok t := by
  induction t with
  | nil => rfl
  | cons c t ih => rw [List.map_cons, render_plain_cons, ih]; rfl

/-! ## The text of a localized text -/

theorem text_localizePiece (asset : Text) (piece : Piece) :
    Localized.text <$> piece.localize p asset = p.renderPiece piece := by
  cases piece with
  | plain c => rfl
  | nugget n =>
    rw [Piece.localize, Policy.resolve, renderPiece]
    cases p.outcome n <;> rfl

theorem text_localizePieces (asset : Text) (ps : List Piece) :
    Localized.text <$> p.localizePieces asset ps = p.render ps := by
  induction ps with
  | nil => rfl
  | cons piece ps ih =>
    rw [localizePieces, render_cons, ← ih, ← text_localizePiece asset]
    cases piece.localize p asset with
    | error e => rfl
    | ok first => cases p.localizePieces asset ps <;> rfl

/-- **The text a run gives is its pieces rendered.** -/
theorem text_localize (text asset : Text) :
    Localized.text <$> p.localize text asset = p.render (Nugget.scan text) :=
  text_localizePieces asset _

theorem renderPiece_congr {n : Nugget} (hwording : p.wording? n.key = q.wording? n.key)
    (hbrackets : p.removeBrackets = q.removeBrackets) :
    p.renderPiece (.nugget n) = q.renderPiece (.nugget n) := by
  rw [renderPiece, renderPiece, outcome_congr hwording hbrackets]

/-- Policies with the same wordings and the same care for brackets give the same text. -/
theorem render_congr (hwording : ∀ key, p.wording? key = q.wording? key)
    (hbrackets : p.removeBrackets = q.removeBrackets) (ps : List Piece) :
    p.render ps = q.render ps := by
  induction ps with
  | nil => rfl
  | cons piece ps ih =>
    rw [render_cons, render_cons, ih]
    cases piece with
    | plain c => rfl
    | nugget n => rw [renderPiece_congr (hwording n.key) hbrackets]

end Policy
end Localize
