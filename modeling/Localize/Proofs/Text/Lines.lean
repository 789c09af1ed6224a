import Localize.Proofs.Text.Marks
import Localize.Unicode.Blank

/-!
# Lines that were joined

Lines that are joined by line feeds are cut at them again, as long as nothing in a line ends it
(`lines_join`).  One thing is lost: a text that ends in a line feed has no empty line after it.
-/

set_option autoImplicit false

namespace Localize

namespace CodePoint

/-- White space is no surrogate. -/
theorem isSurrogate_of_isBlank {c : CodePoint} (h : c.isBlank = true) : c.isSurrogate = false := by
  simp only [isBlank, isSurrogate, Bool.or_eq_true, Bool.and_eq_true, decide_eq_true_eq,
    beq_iff_eq, Bool.and_eq_false_iff, decide_eq_false_iff_not] at h ⊢
  omega

end CodePoint

namespace Text

variable {l t sep : Text} {c : CodePoint} {ls : List Text}

/-! ## What is in joined texts -/

/-- A joined text is made of its parts and of what joins them. -/
theorem mem_join (h : c ∈ join sep ls) : c ∈ sep ∨ ∃ l ∈ ls, c ∈ l := by
  induction ls with
  | nil => cases h
  | cons l ls ih =>
    cases ls with
    | nil => exact Or.inr ⟨l, List.mem_cons_self, h⟩
    | cons next ls =>
      rw [join_cons_cons, List.mem_append, List.mem_append] at h
      rcases h with (hl | hsep) | hrest
      · exact Or.inr ⟨l, List.mem_cons_self, hl⟩
      · exact Or.inl hsep
      · rcases ih hrest with hsep | ⟨l', hl', hc⟩
        · exact Or.inl hsep
        · exact Or.inr ⟨l', List.mem_cons_of_mem _ hl', hc⟩

/-- What is in a part is in the joined text. -/
theorem mem_join_of_mem (hl : l ∈ ls) (hc : c ∈ l) : c ∈ join sep ls := by
  induction ls with
  | nil => cases hl
  | cons first ls ih =>
    cases ls with
    | nil =>
      rw [List.mem_singleton] at hl
      subst hl
      exact hc
    | cons next ls =>
      rw [join_cons_cons, List.mem_append, List.mem_append]
      rcases List.mem_cons.1 hl with rfl | hl
      · exact Or.inl (Or.inl hc)
      · exact Or.inr (ih hl)

/-! ## Cutting into lines -/

/-- What ends no line goes to the line. -/
theorem linesFrom_cons (hc : c.isLineEnd = false) (acc t : Text) :
    linesFrom acc (c :: t) = linesFrom (c :: acc) t := by
  rw [linesFrom, hc]
  · rfl
  · rintro rest rfl
    cases hc

/-- A line that is followed by a line feed. -/
theorem linesFrom_append_lf (h : ∀ c ∈ l, c.isLineEnd = false) (acc t : Text) :
    linesFrom acc (l ++ 0x0A :: t) = (acc.reverse ++ l) :: lines t := by
  induction l generalizing acc with
  | nil =>
    rw [List.nil_append, List.append_nil, linesFrom]
    · rfl
    · exact fun rest heq => absurd heq (by decide)
  | cons c l ih =>
    rw [List.cons_append, linesFrom_cons (h c List.mem_cons_self),
      ih fun d hd => h d (List.mem_cons_of_mem _ hd), List.reverse_cons, List.append_assoc,
      List.singleton_append]

/-- A line that is the last. -/
theorem linesFrom_of_no_end (h : ∀ c ∈ l, c.isLineEnd = false) (acc : Text) :
    linesFrom acc l = if acc.reverse ++ l = [] then [] else [acc.reverse ++ l] := by
  induction l generalizing acc with
  | nil => simp [linesFrom, List.isEmpty_iff]
  | cons c l ih =>
    rw [linesFrom_cons (h c List.mem_cons_self), ih fun d hd => h d (List.mem_cons_of_mem _ hd),
      List.reverse_cons, List.append_assoc, List.singleton_append]

/-- **Lines that were joined are cut apart again**, but for an empty one at the end. -/
theorem lines_join (h : ∀ l ∈ ls, ∀ c ∈ l, c.isLineEnd = false) :
    lines (join [0x0A] ls) = if ls.getLast? = some [] then ls.dropLast else ls := by
  induction ls with
  | nil => rfl
  | cons l ls ih =>
    cases ls with
    | nil =>
      rw [join, lines, linesFrom_of_no_end (h l List.mem_cons_self)]
      by_cases hl : l = []
      · simp [hl]
      · simp [hl]
    | cons next ls =>
      rw [join_cons_cons, List.append_assoc, List.singleton_append, lines,
        linesFrom_append_lf (h l List.mem_cons_self),
        ih fun l' hl' => h l' (List.mem_cons_of_mem _ hl'), List.getLast?_cons_cons]
      split
      · rw [List.dropLast_cons_of_ne_nil (List.cons_ne_nil _ _)]
        rfl
      · rfl

end Text
end Localize
