import Mathlib.Data.List.TakeDrop
import Localize.Unicode.Blank

/-!
# White space and words

Stripping leaves alone what has no white space at its ends (`strip_cons_concat`), and leaves nothing
of white space alone (`strip_of_blank`).  A word goes from one piece of white space to the next
(`word_append_cons`); of a text that goes on behind its first word, that word is the first of two
(`twoWords_append_cons_cons`).
-/

set_option autoImplicit false

namespace Localize
namespace Text

variable {t w : Text} {c d : CodePoint}

/-! ## Stripping -/

/-- Nothing is left at the start of white space, and of nothing else. -/
theorem stripLeft_eq_nil_iff : stripLeft t = [] ↔ ∀ c ∈ t, c.isBlank = true := by
  rw [stripLeft]
  induction t with
  | nil => simp
  | cons c t ih =>
    rw [List.dropWhile_cons]
    split
    · rename_i hc
      simp [ih, hc]
    · rename_i hc
      simp [hc]

/-- Nothing is left of white space. -/
theorem strip_of_blank (h : ∀ c ∈ t, c.isBlank = true) : strip t = [] := by
  have hleft : t.dropWhile CodePoint.isBlank = [] := stripLeft_eq_nil_iff.2 h
  rw [strip, trim, hleft]
  rfl

/-- A text without white space at its ends is left alone. -/
theorem strip_cons_concat (hc : c.isBlank = false) (hd : d.isBlank = false) (t : Text) :
    strip (c :: (t ++ [d])) = c :: (t ++ [d]) := by
  rw [strip, trim, List.dropWhile_cons_of_neg (by simp [hc]), ← List.cons_append,
    List.reverse_append, List.reverse_singleton, List.singleton_append,
    List.dropWhile_cons_of_neg (by simp [hd]), ← List.singleton_append, List.reverse_append,
    List.reverse_reverse, List.reverse_singleton]

/-- Something is left of a text with anything else in it than white space. -/
theorem strip_ne_nil (hmem : c ∈ t) (hc : c.isBlank = false) : strip t ≠ [] := by
  intro hnil
  rw [strip, trim, List.reverse_eq_nil_iff, ← stripLeft, stripLeft_eq_nil_iff] at hnil
  have hkept : c ∈ t.dropWhile CodePoint.isBlank := by
    have hsplit := List.takeWhile_append_dropWhile (p := CodePoint.isBlank) (l := t)
    rw [← hsplit] at hmem
    rcases List.mem_append.1 hmem with htaken | hkept
    · rw [List.all_eq_true.1 List.all_takeWhile c htaken] at hc
      cases hc
    · exact hkept
  rw [hnil c (List.mem_reverse.2 hkept)] at hc
  cases hc

/-- Nothing is stripped from a text that begins with no white space. -/
theorem stripLeft_cons_of_not_blank (hc : c.isBlank = false) (t : Text) :
    stripLeft (c :: t) = c :: t := by
  rw [stripLeft, List.dropWhile_cons_of_neg (by simp [hc])]

/-- White space at the start is stripped. -/
theorem stripLeft_cons_of_blank (hc : c.isBlank = true) (t : Text) :
    stripLeft (c :: t) = stripLeft t := by
  rw [stripLeft, List.dropWhile_cons_of_pos hc]
  rfl

/-! ## Words -/

/-- The first word of a text ends before the first white space. -/
theorem word_append_cons (hw : w ≠ []) (hword : ∀ c ∈ w, c.isBlank = false)
    (hd : d.isBlank = true) (t : Text) : word (w ++ d :: t) = (w, d :: t) := by
  obtain ⟨c, w, rfl⟩ := List.exists_cons_of_ne_nil hw
  have hall : ∀ e ∈ c :: w, (!e.isBlank) = true := fun e he => by simp [hword e he]
  rw [word, List.cons_append, stripLeft_cons_of_not_blank (hword c List.mem_cons_self),
    ← List.cons_append, List.span_eq_takeWhile_dropWhile, List.takeWhile_append_of_pos hall,
    List.dropWhile_append_of_pos hall, List.takeWhile_cons_of_neg (by simp [hd]),
    List.dropWhile_cons_of_neg (by simp [hd]), List.append_nil]

/-- A text that begins with no white space begins with a word. -/
theorem word_cons_of_not_blank (hc : c.isBlank = false) (t : Text) :
    ∃ w rest, word (c :: t) = (c :: w, rest) := by
  refine ⟨t.takeWhile fun e => !e.isBlank, t.dropWhile fun e => !e.isBlank, ?_⟩
  rw [word, stripLeft_cons_of_not_blank hc, List.span_eq_takeWhile_dropWhile,
    List.takeWhile_cons_of_pos (by simp [hc]), List.dropWhile_cons_of_pos (by simp [hc])]

/-- White space in front of a word does not count. -/
theorem word_cons_of_blank (hc : c.isBlank = true) (t : Text) : word (c :: t) = word t := by
  rw [word, stripLeft_cons_of_blank hc]
  rfl

/-- **Two words with one piece of white space between them** are the first words of a text. -/
theorem twoWords_append_cons_cons (hw : w ≠ []) (hword : ∀ c ∈ w, c.isBlank = false)
    (hd : d.isBlank = true) (hc : c.isBlank = false) (t : Text) :
    ∃ second more, twoWords (w ++ d :: c :: t) = w :: second :: more := by
  obtain ⟨second, rest, hsecond⟩ := word_cons_of_not_blank hc t
  obtain ⟨e, w, rfl⟩ := List.exists_cons_of_ne_nil hw
  rw [twoWords, word_append_cons hw hword hd]
  dsimp only
  rw [word_cons_of_blank hd, hsecond]
  dsimp only
  split
  · exact ⟨_, _, rfl⟩
  · exact ⟨_, _, rfl⟩

end Text
end Localize
