import Localize.Catalog.Po.Line
import Localize.Proofs.Text.Words

/-!
# Strings written to a catalog

A string is written to a catalog between quotes.  Backslashes and quotes in it get a backslash, and
the code points that would end the line or look like an indent are spelled (`escape`).  What is
written this way is one line, holds no bare quote and is unescaped to what it was
(`of_mem_escape`, `hasBareQuote_escape`, `unescape_escape`).

A keyword with a string behind it is a line of a catalog, and is read as such
(`Line.read_stringLine`).
-/

set_option autoImplicit false

namespace Localize

namespace Po

variable {t : Text} {c : CodePoint}

/-! ## Escaping -/

/-- A code point that a string can hold: it is no surrogate, and ends no line unless it is one of
the two line ends that are spelled. -/
def isWritable (c : CodePoint) : Bool :=
  !c.isSurrogate && (!c.isLineEnd || c = '\n' || c = '\r')

/-- How a code point is written in a string. -/
def escapeOne (c : CodePoint) : Text :=
  if c = '\\' ∨ c = '"' then ['\\', c]
  else if c = '\n' then ['\\', 'n']
  else if c = '\r' then ['\\', 'r']
  else if c = '\t' then ['\\', 't']
  else [c]

/-- How a text is written in a string. -/
def escape (t : Text) : Text := t.flatMap escapeOne

theorem unescape_escapeOne (c : CodePoint) (t : Text) :
    unescape (escapeOne c ++ t) = c :: unescape t := by
  rw [escapeOne]
  split
  · rename_i hc
    rcases hc with rfl | rfl
    · rfl
    · rfl
  · rename_i hc
    split
    · rename_i hc
      subst hc
      rfl
    · split
      · rename_i hc
        subst hc
        rfl
      · split
        · rename_i hc
          subst hc
          rfl
        · rw [List.singleton_append, unescape]
          rintro d rest rfl -
          exact hc (Or.inl rfl)

/-- **Unescaping undoes escaping.** -/
theorem unescape_escape (t : Text) : unescape (escape t) = t := by
  induction t with
  | nil => rfl
  | cons c t ih =>
    have hstep := unescape_escapeOne c (escape t)
    rw [ih] at hstep
    exact hstep

/-- What is written for a code point: a backslash and something behind it, or the code point. -/
theorem escapeOne_cases (c : CodePoint) :
    (∃ d ∈ Text.ofString "\\\"nrt", escapeOne c = [CodePoint.ofChar '\\', d]) ∨
      escapeOne c = [c] ∧ c ≠ '\\' ∧ c ≠ '"' ∧ c ≠ '\n' ∧ c ≠ '\r' := by
  rw [escapeOne]
  split
  · rename_i hc
    refine Or.inl ⟨c, ?_, rfl⟩
    rcases hc with rfl | rfl
    · decide
    · decide
  · rename_i hguarded
    split
    · exact Or.inl ⟨_, by decide, rfl⟩
    · rename_i hlf
      split
      · exact Or.inl ⟨_, by decide, rfl⟩
      · rename_i hcr
        split
        · exact Or.inl ⟨_, by decide, rfl⟩
        · exact Or.inr ⟨rfl, fun h => hguarded (Or.inl h), fun h => hguarded (Or.inr h), hlf, hcr⟩

/-- **An escaped text holds no bare quote**, whatever stands before it. -/
theorem hasBareQuote_escape (shielded : Bool) (t : Text) :
    hasBareQuote shielded (escape t) = false := by
  induction t generalizing shielded with
  | nil => rfl
  | cons c t ih =>
    show hasBareQuote shielded (escapeOne c ++ escape t) = false
    rcases escapeOne_cases c with ⟨d, -, hd⟩ | ⟨hc, -, hquote, -⟩
    · rw [hd]
      -- The backslash shields what stands behind it.
      show (false || (decide _ && !decide _ || hasBareQuote _ (escape t))) = false
      rw [ih]
      simp
    · rw [hc, List.singleton_append, hasBareQuote, ih, decide_eq_false hquote]
      rfl

/-- **What is written can stand in a line, and has bytes.** -/
theorem of_mem_escape (ht : ∀ c ∈ t, isWritable c = true) (hmem : c ∈ escape t) :
    c.isLineEnd = false ∧ c.isSurrogate = false := by
  obtain ⟨d, hd, hc⟩ := List.mem_flatMap.1 hmem
  have hwritable := ht d hd
  rcases escapeOne_cases d with ⟨e, he, hescaped⟩ | ⟨hescaped, -, -, hlf, hcr⟩
  · have hspelling : (Text.ofString "\\\"nrt").all
        (fun e => !e.isLineEnd && !e.isSurrogate) = true := by decide
    rw [hescaped, List.mem_cons, List.mem_singleton] at hc
    rcases hc with rfl | rfl
    · decide
    · simpa using List.all_eq_true.1 hspelling c he
  · rw [hescaped, List.mem_singleton] at hc
    subst hc
    simpa [isWritable, hlf, hcr, and_comm] using hwritable

/-! ## Lines with a string -/

/-- A string as it is written. -/
def quoted (t : Text) : Text := CodePoint.ofChar '"' :: (escape t ++ [CodePoint.ofChar '"'])

/-- A keyword and a string behind it, as a line of a catalog. -/
def stringLine (keyword t : Text) : Text := keyword ++ CodePoint.ofChar ' ' :: quoted t

theorem inner_quoted (t : Text) : inner (quoted t) = escape t := by
  rw [inner, quoted, List.drop_one, List.tail_cons, List.dropLast_concat]

variable {keyword : Text} {mark : Mark}

/-- A keyword is a word, and begins no comment. -/
theorem of_keyword?_eq_some (h : keyword? keyword = some mark) :
    keyword ≠ [] ∧ (∀ c ∈ keyword, c.isBlank = false ∧ c.isSurrogate = false) ∧
      Text.startsWith "#" keyword = false := by
  have hwords : ["msgctxt", "msgid", "msgstr", "msgid_plural"].all (fun word =>
      (Text.ofString word ≠ []) && (Text.ofString word).all (fun c => !c.isBlank && !c.isSurrogate)
        && !Text.startsWith "#" (Text.ofString word)) = true := by decide
  obtain ⟨word, hmem, rfl⟩ :
      ∃ word ∈ ["msgctxt", "msgid", "msgstr", "msgid_plural"], keyword = Text.ofString word := by
    rw [keyword?] at h
    grind
  simpa [and_assoc] using List.all_eq_true.1 hwords word hmem

/-- **A keyword with a string behind it** is read as a line with the mark of the keyword. -/
theorem Line.read_stringLine (h : keyword? keyword = some mark) (t : Text) :
    Line.read (stringLine keyword t) = .ok ⟨some ⟨mark, quoted t, false⟩, false⟩ := by
  obtain ⟨hne, hplain, hcomment⟩ := of_keyword?_eq_some h
  obtain ⟨second, more, hwords⟩ : ∃ second more,
      Text.twoWords (stringLine keyword t) = keyword :: second :: more :=
    Text.twoWords_append_cons_cons hne (fun c hc => (hplain c hc).1) (by decide) (by decide) _
  have htoken : Text.stripLeft ((stringLine keyword t).drop keyword.length) = quoted t := by
    rw [stringLine, List.drop_left, Text.stripLeft_cons_of_blank (by decide), quoted,
      Text.stripLeft_cons_of_not_blank (by decide)]
  have hread : Line.readPlain (keyword :: second :: more) false (stringLine keyword t)
      = .ok ⟨some ⟨mark, quoted t, false⟩, false⟩ := by
    simp only [Line.readPlain, h]
    rw [htoken, Line.quotedToken, inner_quoted, hasBareQuote_escape, hcomment]
    rfl
  rw [Line.read, hwords]
  dsimp only
  rw [if_neg, if_neg]
  · exact hread
  · rintro ⟨rfl, -⟩
    exact absurd hcomment (by decide +kernel)
  · rintro rfl
    exact absurd hcomment (by decide +kernel)

/-- A line with a string has nothing in it that ends it. -/
theorem of_mem_stringLine (h : keyword? keyword = some mark) (ht : ∀ c ∈ t, isWritable c = true)
    (hmem : c ∈ stringLine keyword t) : c.isLineEnd = false ∧ c.isSurrogate = false := by
  rw [stringLine, quoted, List.mem_append, List.mem_cons, List.mem_cons, List.mem_append,
    List.mem_singleton] at hmem
  rcases hmem with hword | rfl | rfl | hescaped | rfl
  · obtain ⟨hblank, hsurrogate⟩ := (of_keyword?_eq_some h).2.1 c hword
    refine ⟨Bool.eq_false_iff.2 fun hend => ?_, hsurrogate⟩
    rw [CodePoint.isBlank_of_isLineEnd hend] at hblank
    cases hblank
  · decide
  · decide
  · exact of_mem_escape ht hescaped
  · decide

/-- A line with a string has no white space at its ends. -/
theorem strip_stringLine (h : keyword? keyword = some mark) (t : Text) :
    Text.strip (stringLine keyword t) = stringLine keyword t := by
  obtain ⟨hne, hplain, -⟩ := of_keyword?_eq_some h
  obtain ⟨first, keyword, rfl⟩ := List.exists_cons_of_ne_nil hne
  have hends := Text.strip_cons_concat (hplain first List.mem_cons_self).1
    (d := CodePoint.ofChar '"') (by decide)
    (keyword ++ CodePoint.ofChar ' ' :: CodePoint.ofChar '"' :: escape t)
  simpa [stringLine, quoted] using hends

end Po
end Localize
