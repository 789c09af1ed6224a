import Localize.Proofs.Resolution.Reading
import Localize.Proofs.Resolution.Rendering
import Localize.Proofs.Resolution.Templates

/-!
# Arguments in quoted wordings

Arguments are put into the escaped wording, not into the wording itself.  Both orders come to the
same, and there are two sides to this.  Escaping neither completes nor breaks a placeholder, because
neither the percent sign nor a digit is escaped: the escaped template is cut where the template is
(`CutInto.embed`).  And what is put in splits no pair, because a placeholder stands between pairs
and readable texts can be joined.

`ReadsAs` relates the two results, and `format_embed_readsAs` says it of a whole template.
`Policy.reading_of_translated` is the statement about the resolution of a nugget.
-/

set_option autoImplicit false

namespace Localize

open Escape

namespace Placeholder

/-! ## Cutting an escaped template -/

/-- A digit is not escaped. -/
theorem not_guarded_of_isDecimal {c : CodePoint} (h : c.isDecimal = true) : ¬ Guarded c := by
  rintro (rfl | rfl | rfl) <;> exact absurd h (by decide)

/-- **Escaping leaves placeholders alone.** -/
theorem inert_embedOne : Inert embedOne where
  percent := rfl
  digit c hc := embedOne_of_not_guarded (not_guarded_of_isDecimal hc)
  no_percent c hc := by
    by_cases hguard : Guarded c
    · rw [embedOne_of_guarded hguard]
      simpa using ⟨by decide, Ne.symm hc⟩
    · rw [embedOne_of_not_guarded hguard]
      simpa using Ne.symm hc
  no_digit c hc := by
    by_cases hguard : Guarded c
    · exact ⟨_, _, embedOne_of_guarded hguard, by decide⟩
    · exact ⟨_, _, embedOne_of_not_guarded hguard, hc⟩

/-- The stretches of an escaped stretch. -/
def Stretch.embed : Stretch → List Stretch
  | .literal c => (embedOne c).map .literal
  | .placeholder digits => [.placeholder digits]

theorem Stretch.embed_eq_subst : Stretch.embed = Stretch.subst embedOne := by
  funext s
  cases s <;> rfl

/-- **An escaped template is cut where the template is.** -/
theorem CutInto.embed {t : Text} {ss : List Stretch} (h : CutInto t ss) :
    CutInto (embed t) (ss.flatMap Stretch.embed) := by
  rw [Stretch.embed_eq_subst]
  exact h.flatMap inert_embedOne

/-! ## Results and their readings -/

/-- The second result is the reading of the first: texts are readable and read as they should, and
a refusal is the same refusal. -/
inductive ReadsAs : Except OversizedPlaceholder Text → Except OversizedPlaceholder Text → Prop
  | ok {t : Text} (h : Readable t) : ReadsAs (.ok t) (.ok (reading t))
  | error (e : OversizedPlaceholder) : ReadsAs (.error e) (.error e)

/-- Two results joined. -/
theorem ReadsAs.append {x x' y y' : Except OversizedPlaceholder Text} (h : ReadsAs x x')
    (h' : ReadsAs y y') :
    ReadsAs (do return (← x) ++ (← y)) (do return (← x') ++ (← y')) := by
  cases h with
  | error e => exact .error e
  | @ok a ha =>
    cases h' with
    | error e => exact .error e
    | @ok b hb =>
      show ReadsAs (.ok (a ++ b)) (.ok (reading a ++ reading b))
      rw [← ha.reading_append]
      exact .ok (ha.append hb)

variable {args : List Text}

/-- What a placeholder becomes: an argument, or the placeholder as it is written. -/
theorem fill_readsAs (hargs : ∀ a ∈ args, Readable a) {digits : Text}
    (hdigits : ∀ d ∈ digits, d.isDecimal = true) :
    ReadsAs (fill args digits) (fill (args.map reading) digits) := by
  rw [fill, fill]
  split
  · exact .error _
  · rw [List.getElem?_map]
    cases harg : args[Text.decimalValue digits]? with
    | some a => exact .ok (hargs a (List.mem_of_getElem? harg))
    | none =>
      have hplain : ∀ c ∈ CodePoint.ofChar '%' :: digits, ¬ Guarded c := by
        intro c hc
        rcases List.mem_cons.1 hc with rfl | hc
        · decide
        · exact not_guarded_of_isDecimal (hdigits c hc)
      obtain ⟨hreadable, hreading⟩ := readable_of_not_guarded hplain
      show ReadsAs (.ok ('%' :: digits)) (.ok ('%' :: digits))
      have hok := ReadsAs.ok hreadable
      rwa [hreading] at hok

/-- **Stretch by stretch**: what the escaped stretches become reads as what the stretches become
with the readings of the arguments. -/
theorem fillStretches_embed_readsAs (hargs : ∀ a ∈ args, Readable a) {t : Text}
    {ss : List Stretch} (h : CutInto t ss) :
    ReadsAs (fillStretches args (ss.flatMap Stretch.embed))
      (fillStretches (args.map reading) ss) := by
  induction h with
  | nil => exact .ok .nil
  | @literal c t ss _ _ ih =>
    have hjoin := (ReadsAs.ok (readable_embedOne c)).append ih
    rw [reading_embedOne] at hjoin
    rw [List.flatMap_cons, Stretch.embed, fillStretches_map_literal_append]
    exact hjoin
  | placeholder _ hdigits _ _ ih => exact (fill_readsAs hargs hdigits).append ih

/-- **Putting arguments into an escaped template** reads as putting their readings into the
template. -/
theorem format_embed_readsAs (hargs : ∀ a ∈ args, Readable a) (t : Text) :
    ReadsAs (format (embed t) args) (format t (args.map reading)) := by
  cases args with
  | nil =>
    have hok := ReadsAs.ok (readable_embed t)
    rwa [reading_embed] at hok
  | cons a args =>
    obtain ⟨ss, hss⟩ := exists_cutInto t
    rw [format_of_cutInto hss.embed (List.cons_ne_nil a args), List.map_cons,
      format_of_cutInto hss (List.cons_ne_nil (reading a) (args.map reading)), ← List.map_cons]
    exact fillStretches_embed_readsAs hargs hss

end Placeholder

/-! ## Nuggets with a wording -/

namespace Policy

theorem outcome_of_get? {p : Policy} {table : Table} {n : Nugget} {value : Text}
    (htable : p.table = some table) (hvalue : table.get? n.key = some value) (hne : value ≠ []) :
    p.outcome n = Outcome.translated <$> Placeholder.format (forSplice value) n.args := by
  have hwording : p.wording? n.key = some value := by
    rw [wording?, htable, Option.bind_some, hvalue]
    simp [Option.filter, hne]
  rw [outcome, hwording]

/-- **Escaping commutes with putting in arguments, and keeps the literal safe.**  What is escaped is
readable and reads as it was.  When a nugget has a nonempty wording and its arguments are readable,
its outcome is a readable text that reads as the decoded wording with the readings of the arguments
put in; and one is refused for a placeholder exactly when the other is. -/
theorem reading_of_translated :
    (∀ s, Readable (embed s) ∧ reading (embed s) = s) ∧
      ∀ (p : Policy) (table : Table) (n : Nugget) (value asset : Text),
        p.table = some table → table.get? n.key = some value → value ≠ [] →
        (∀ a ∈ n.args, Readable a) →
        (∀ outcome warning, p.resolve n asset = .ok (outcome, warning) →
          ∃ text, outcome = .translated text ∧ Readable text ∧
            Placeholder.format (decode value) (n.args.map reading) = .ok (reading text)) ∧
        ∀ e, p.resolve n asset = .error e ↔
          Placeholder.format (decode value) (n.args.map reading) = .error e := by
  refine ⟨fun s => ⟨readable_embed s, reading_embed s⟩, ?_⟩
  intro p table n value asset htable hvalue hne hargs
  have hreads := Placeholder.format_embed_readsAs hargs (decode value)
  have hout := outcome_of_get? htable hvalue hne
  rw [forSplice] at hout
  rw [resolve, hout]
  generalize Placeholder.format (embed (decode value)) n.args = x at hreads
  generalize Placeholder.format (decode value) (n.args.map reading) = y at hreads
  cases hreads with
  | @ok text htext =>
    constructor
    · intro outcome warning h
      cases h
      exact ⟨text, rfl, htext, rfl⟩
    · intro e
      refine ⟨fun h => ?_, fun h => ?_⟩
      · cases h
      · cases h
  | error refused =>
    constructor
    · intro outcome warning h
      cases h
    · intro e
      refine ⟨fun h => ?_, fun h => ?_⟩
      · cases h
        rfl
      · cases h
        rfl

/-- An escape to decode, two placeholders behind backslashes and one without an argument; the
arguments hold a pair and what looks like a placeholder. -/
theorem reading_of_translated_among_backslashes :
    let value := Text.ofChars
      ['\\', 'x', '2', '7', '%', '0', '\\', '%', '1', '"', '%', '1', '2']
    let n := Nugget.ofBody (Text.ofChars
      ['k', '|', '|', '|', '\\', '\\', '1', '|', '|', '|', '%', '0'])
    ∃ text, resolve { table := some ⟨[(Text.ofChars ['k'], value)]⟩ } n []
        = .ok (.translated text, none) ∧ Readable text ∧
      reading text = Text.ofChars ['\'', '\\', '1', '\\', '%', '0', '"', '%', '1', '2'] := by
  intro value n
  have hargs : ∀ a ∈ n.args, Readable a := by
    intro a ha
    have ha : a ∈ [Text.ofChars ['\\', '\\', '1'], Text.ofChars ['%', '0']] := ha
    simp only [List.mem_cons, List.not_mem_nil, or_false] at ha
    rcases ha with rfl | rfl
    · exact .pair (by decide) (.plain (by decide) .nil)
    · exact .plain (by decide) (.plain (by decide) .nil)
  have hreading := reading_of_translated.2 { table := some ⟨[(Text.ofChars ['k'], value)]⟩ } _ n
    value [] rfl rfl (by decide) hargs
  obtain ⟨text, htext, hreadable, hformat⟩ := hreading.1 _ none rfl
  refine ⟨text, ?_, hreadable, ?_⟩
  · rw [← htext]
    rfl
  · exact (Except.ok.inj hformat).symm

end Policy
end Localize
