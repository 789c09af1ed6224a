import Localize.Proofs.Text.Marks
import Localize.Resolution.Escape

/-!
# Reading a quoted literal

A wording ends up inside a quoted literal of the built asset.  What is shown there is not the text
of the literal but its *reading*: a backslash is gone, and the code point behind it stays.  This is
safe as long as the text is *readable*: each backslash stands before a code point that has to be
escaped, pairs taken from the left, and no quote stands outside a pair.

* `Readable.append`, `Readable.reading_append` — readable texts can be joined.
* `embed_eq_replace` — escaping is three replacements, the backslashes first.
* `readable_embed`, `reading_embed` — what is escaped is readable, and reads as it was.
-/

set_option autoImplicit false

namespace Localize
namespace Escape

/-! ## Readable texts -/

/-- A code point that stands in a quoted literal behind a backslash only. -/
def Guarded (c : CodePoint) : Prop := c = '\\' ∨ c = '\'' ∨ c = '"'

instance (c : CodePoint) : Decidable (Guarded c) :=
  inferInstanceAs (Decidable (c = '\\' ∨ c = '\'' ∨ c = '"'))

/-- From left to right, each backslash stands before a guarded code point, and each other guarded
code point behind such a backslash. -/
inductive Readable : Text → Prop
  | nil : Readable []
  | pair {d : CodePoint} {t : Text} (hd : Guarded d) (h : Readable t) : Readable ('\\' :: d :: t)
  | plain {c : CodePoint} {t : Text} (hc : ¬ Guarded c) (h : Readable t) : Readable (c :: t)

/-- What a text shows: of each pair only the second code point. -/
def reading : Text → Text
  | 0x5C :: d :: t => d :: reading t
  | c :: t => c :: reading t
  | [] => []

theorem reading_cons_of_ne {c : CodePoint} (hc : c ≠ CodePoint.ofChar '\\') (t : Text) :
    reading (c :: t) = c :: reading t := by
  rw [reading]
  exact fun d u hcd _ => hc hcd

theorem reading_cons_of_not_guarded {c : CodePoint} (hc : ¬ Guarded c) (t : Text) :
    reading (c :: t) = c :: reading t :=
  reading_cons_of_ne (fun h => hc (Or.inl h)) t

/-- Readable texts can be joined: no pair reaches across. -/
theorem Readable.append {a b : Text} (ha : Readable a) (hb : Readable b) : Readable (a ++ b) := by
  induction ha with
  | nil => exact hb
  | pair hd _ ih => exact .pair hd ih
  | plain hc _ ih => exact .plain hc ih

theorem Readable.reading_append {a : Text} (ha : Readable a) (b : Text) :
    reading (a ++ b) = reading a ++ reading b := by
  induction ha with
  | nil => rfl
  | @pair d t _ _ ih =>
    show d :: reading (t ++ b) = d :: reading t ++ reading b
    rw [ih, List.cons_append]
  | plain hc _ ih =>
    rw [List.cons_append, reading_cons_of_not_guarded hc, reading_cons_of_not_guarded hc, ih,
      List.cons_append]

/-- A text without guarded code points is readable as it is. -/
theorem readable_of_not_guarded {t : Text} (h : ∀ c ∈ t, ¬ Guarded c) :
    Readable t ∧ reading t = t := by
  induction t with
  | nil => exact ⟨.nil, rfl⟩
  | cons c t ih =>
    have hc := h c List.mem_cons_self
    obtain ⟨hreadable, hreading⟩ := ih fun d hd => h d (List.mem_cons_of_mem c hd)
    exact ⟨.plain hc hreadable, by rw [reading_cons_of_not_guarded hc, hreading]⟩

/-! ## Escaped texts -/

theorem embedOne_of_guarded {c : CodePoint} (hc : Guarded c) :
    embedOne c = [CodePoint.ofChar '\\', c] :=
  if_pos hc

theorem embedOne_of_not_guarded {c : CodePoint} (hc : ¬ Guarded c) : embedOne c = [c] :=
  if_neg hc

theorem embed_cons (c : CodePoint) (t : Text) : embed (c :: t) = embedOne c ++ embed t := rfl

/-- **Escaping is three replacements**, one after the other over the whole text.  The backslashes
come first, so those that are put before quotes are not escaped again. -/
theorem embed_eq_replace (t : Text) :
    embed t = Text.replace ['"'] ['\\', '"'] (Text.replace ['\''] ['\\', '\'']
      (Text.replace ['\\'] ['\\', '\\'] t)) := by
  rw [Text.replace_singleton, Text.replace_singleton, Text.replace_singleton,
    List.flatMap_assoc, List.flatMap_assoc, embed]
  congr 1
  funext c
  by_cases hc : Guarded c
  · rcases hc with rfl | rfl | rfl <;> rfl
  · have hne := hc
    rw [Guarded, not_or, not_or] at hne
    rw [embedOne_of_not_guarded hc]
    simp [hne]

theorem readable_embedOne (c : CodePoint) : Readable (embedOne c) := by
  by_cases hc : Guarded c
  · rw [embedOne_of_guarded hc]
    exact .pair hc .nil
  · rw [embedOne_of_not_guarded hc]
    exact .plain hc .nil

theorem reading_embedOne (c : CodePoint) : reading (embedOne c) = [c] := by
  by_cases hc : Guarded c
  · rw [embedOne_of_guarded hc]
    rfl
  · rw [embedOne_of_not_guarded hc, reading_cons_of_not_guarded hc]
    rfl

/-- Escaped texts are readable. -/
theorem readable_embed (t : Text) : Readable (embed t) := by
  induction t with
  | nil => exact .nil
  | cons c t ih => exact (readable_embedOne c).append ih

/-- **Escaped texts read as what was escaped.** -/
theorem reading_embed (t : Text) : reading (embed t) = t := by
  induction t with
  | nil => rfl
  | cons c t ih =>
    rw [embed_cons, (readable_embedOne c).reading_append, reading_embedOne, ih]
    rfl

end Escape
end Localize
