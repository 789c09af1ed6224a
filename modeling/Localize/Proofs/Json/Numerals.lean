import Mathlib.Data.List.TakeDrop
import Localize.Json.Printer
import Localize.Json.Reader

/-!
# Numbers as they are written

A number is read as far as it goes, so what follows it must not be such that it goes on (`Ends`).
Then a number in good form, with whichever of its parts, is read as it is written
(`numeral?_text_append`).

Integers are written in good form (`isNumeral_ofInt`), and so are the numbers that are finite
(`isNumeral_toText`): their first digit is no zero, unless it stands alone before the point.
-/

set_option autoImplicit false

namespace Localize

variable {t u rest : Text}

/-- There are digits in a text and nothing else. -/
def Text.Digits (t : Text) : Prop := ∀ c ∈ t, c.isDigit = true

namespace Text

theorem digits_append : Digits (t ++ u) ↔ Digits t ∧ Digits u := List.forall_mem_append

theorem digits_zeros (n : Nat) : Digits (List.replicate n (CodePoint.ofChar '0')) := by
  intro c hc
  rw [List.eq_of_mem_replicate hc]
  decide

theorem Digits.take (h : Digits t) (n : Nat) : Digits (t.take n) :=
  fun c hc => h c (List.mem_of_mem_take hc)

theorem Digits.drop (h : Digits t) (n : Nat) : Digits (t.drop n) :=
  fun c hc => h c (List.mem_of_mem_drop hc)

/-- Digits are read up to what is none. -/
theorem Digits.span_append (h : Digits t) (hrest : ∀ c ∈ rest.head?, c.isDigit = false) :
    (t ++ rest).span CodePoint.isDigit = (t, rest) := by
  have htake : rest.takeWhile CodePoint.isDigit = [] := by
    cases rest with
    | nil => rfl
    | cons c rest => rw [List.takeWhile_cons_of_neg (by simp [hrest c rfl])]
  have hdrop : rest.dropWhile CodePoint.isDigit = rest := by
    cases rest with
    | nil => rfl
    | cons c rest => rw [List.dropWhile_cons_of_neg (by simp [hrest c rfl])]
  rw [List.span_eq_takeWhile_dropWhile, List.takeWhile_append_of_pos h,
    List.dropWhile_append_of_pos h, htake, hdrop, List.append_nil]

/-- What starts with a digit starts with nothing else. -/
theorem after?_of_digit {c d : CodePoint} (hc : c.isDigit = false) (hd : d.isDigit = true)
    (mark t : Text) : after? (c :: mark) (d :: t) = none := by
  rw [after?, if_neg]
  rintro rfl
  rw [hd] at hc
  cases hc

/-! ## Natural numbers -/

theorem isDigit_iff {c : CodePoint} : c.isDigit = true ↔ 0x30 ≤ c.val ∧ c.val ≤ 0x39 := by
  rw [CodePoint.isDigit, CodePoint.digit?]
  split <;> simp_all

theorem isDigit_ofChar {c : Char} (h : c.isDigit = true) : (CodePoint.ofChar c).isDigit = true := by
  rw [Char.isDigit, Bool.and_eq_true, decide_eq_true_iff, decide_eq_true_iff] at h
  exact isDigit_iff.2 h

theorem digits_ofNat (n : Nat) : Digits (ofNat n) := by
  intro c hc
  obtain ⟨d, hd, rfl⟩ := List.mem_map.1 hc
  exact isDigit_ofChar (Nat.isDigit_of_mem_toDigits (by decide) (by decide) hd)

theorem ofNat_ne_nil (n : Nat) : ofNat n ≠ [] :=
  mt List.map_eq_nil_iff.1 Nat.toDigits_ne_nil

/-- The first digit of a number is a zero if the number is. -/
theorem eq_zero_of_head?_ofNat {n : Nat} (h : (ofNat n).head? = some (CodePoint.ofChar '0')) :
    n = 0 := by
  induction n using Nat.strongRecOn with
  | ind n ih =>
    by_cases hn : n < 10
    · have hsmall : ∀ n < 10, (ofNat n).head? = some (CodePoint.ofChar '0') → n = 0 := by decide
      exact hsmall n hn h
    · obtain ⟨d, ds, hds⟩ := List.exists_cons_of_ne_nil (ofNat_ne_nil (n / 10))
      have hhead : (ofNat n).head? = (ofNat (n / 10)).head? := by
        rw [ofNat, Nat.toDigits_of_base_le (by decide) (Nat.le_of_not_lt hn), List.map_append,
          ← ofNat, hds]
        rfl
      have hzero := ih (n / 10) (by omega) (hhead ▸ h)
      omega

end Text

namespace Json

/-! ## Good form -/

/-- A text with which a number before it does not go on. -/
def Ends (t : Text) : Prop :=
  ∀ c ∈ t.head?, c.isDigit = false ∧ c ≠ 0x2E ∧ c ≠ 0x65 ∧ c ≠ 0x45

/-- What may stand before the digits of an exponent: a letter, and a sign or none. -/
def IsMark (mark : Text) : Prop :=
  ∃ e sign, mark = e :: sign ∧ (e = 0x65 ∨ e = 0x45) ∧ sign ∈ ([[], "-", "+"] : List Text)

/-- A number in good form. -/
structure Numeral.Good (n : Numeral) : Prop where
  whole : Text.Digits n.whole
  nonempty : n.whole ≠ []
  /-- A zero stands before the point alone. -/
  leading : n.whole.head? = some (0x30 : CodePoint) → n.whole.length = 1
  part : Text.Digits n.part
  exponent : ∀ mark digits, n.exponent = some (mark, digits) →
    IsMark mark ∧ Text.Digits digits ∧ digits ≠ []

namespace Numeral

/-- The digits behind the point as they are written, with the point. -/
def partText (part : Text) : Text := if part = [] then [] else ("." : Text) ++ part

/-- The exponent as it is written. -/
def exponentText : Option (Text × Text) → Text
  | some (mark, digits) => mark ++ digits
  | none => []

/-- A text that begins neither with a digit nor with a point: digits before it end there, and
there is no part behind them. -/
def Apart (t : Text) : Prop := ∀ c ∈ t.head?, c.isDigit = false ∧ c ≠ 0x2E

theorem partTail_append {part : Text} (h : Text.Digits part) (ht : Apart t) :
    partTail (partText part ++ t) = (part, t) := by
  rw [partText]
  split
  · rename_i hpart
    subst hpart
    rw [List.nil_append, partTail]
    rintro rest rfl
    exact (ht _ rfl).2 rfl
  · rename_i hpart
    show partTail (0x2E :: (part ++ t)) = _
    simp only [partTail, h.span_append fun c hc => (ht c hc).1, if_neg hpart]

theorem exponentSign_append {sign : Text} {d : CodePoint} (hd : d.isDigit = true)
    (hsign : sign ∈ ([[], "-", "+"] : List Text)) (t : Text) :
    exponentSign (sign ++ d :: t) = sign := by
  simp only [List.mem_cons, List.not_mem_nil, or_false] at hsign
  rcases hsign with rfl | rfl | rfl
  · have hminus : Text.after? "-" (d :: t) = none := Text.after?_of_digit (by decide) hd [] t
    have hplus : Text.after? "+" (d :: t) = none := Text.after?_of_digit (by decide) hd [] t
    rw [List.nil_append, exponentSign, Text.startsWith, Text.startsWith, hminus, hplus]
    rfl
  · rfl
  · rfl

theorem exponentTail_append {mark digits : Text} (hmark : IsMark mark) (h : Text.Digits digits)
    (hdigits : digits ≠ []) (hrest : Ends rest) :
    exponentTail (mark ++ digits ++ rest) = (some (mark, digits), rest) := by
  obtain ⟨e, sign, rfl, he, hsign⟩ := hmark
  obtain ⟨d, ds, rfl⟩ := List.exists_cons_of_ne_nil hdigits
  have hfound : exponentSign (sign ++ d :: ds ++ rest) = sign := by
    rw [List.append_assoc]
    exact exponentSign_append (h d List.mem_cons_self) hsign (ds ++ rest)
  have hdrop : (sign ++ d :: ds ++ rest).drop sign.length = d :: ds ++ rest := by
    rw [List.append_assoc, List.drop_left]
  rw [List.cons_append, List.cons_append, exponentTail, if_pos he, hfound]
  dsimp only
  rw [hdrop, h.span_append fun c hc => (hrest c hc).1]
  exact if_neg (List.cons_ne_nil d ds)

theorem exponentTail_of_ends (h : Ends t) : exponentTail t = (none, t) := by
  cases t with
  | nil => rfl
  | cons c t =>
    have hc := h c rfl
    rw [exponentTail, if_neg]
    exact fun he => he.elim hc.2.2.1 hc.2.2.2

theorem Good.apart_exponentText {n : Numeral} (hn : n.Good) (hrest : Ends rest) :
    Apart (exponentText n.exponent ++ rest) := by
  cases hexponent : n.exponent with
  | none => exact fun c hc => ⟨(hrest c hc).1, (hrest c hc).2.1⟩
  | some e =>
    obtain ⟨⟨c, sign, hmark, hc, -⟩, -⟩ := hn.exponent e.1 e.2 hexponent
    intro d hd
    rw [exponentText, hmark] at hd
    obtain rfl := Option.some.inj hd
    rcases hc with rfl | rfl <;> decide

theorem head?_partText_append (part : Text) (ht : Apart t) :
    ∀ c ∈ (partText part ++ t).head?, c.isDigit = false := by
  rw [partText]
  split
  · exact fun c hc => (ht c hc).1
  · intro c hc
    obtain rfl := Option.some.inj hc
    decide

theorem good_zero (negative : Bool) {part : Text} (h : Text.Digits part) :
    Good ⟨negative, "0", part, none⟩ where
  whole := Text.digits_zeros 1
  nonempty := List.cons_ne_nil _ _
  leading _ := rfl
  part := h
  exponent := nofun

/-- A number of which the first digit is no zero is in good form if its parts are. -/
theorem good_of_head? {n : Numeral} (hwhole : Text.Digits n.whole) (hnonempty : n.whole ≠ [])
    (hzero : n.whole.head? ≠ some (CodePoint.ofChar '0')) (hpart : Text.Digits n.part)
    (hexponent : ∀ mark digits, n.exponent = some (mark, digits) →
      IsMark mark ∧ Text.Digits digits ∧ digits ≠ []) : n.Good :=
  ⟨hwhole, hnonempty, fun h => absurd h hzero, hpart, hexponent⟩

theorem text_eq (n : Numeral) : n.text = (if n.negative then ("-" : Text) else [])
    ++ (n.whole ++ (partText n.part ++ exponentText n.exponent)) := by
  rw [← List.append_assoc, ← List.append_assoc]
  rfl

end Numeral

/-- **A number in good form is read as it is written**, up to what does not go on with it. -/
theorem numeral?_text_append {n : Numeral} (hn : n.Good) (hrest : Ends rest) :
    numeral? (n.text ++ rest) = some (n, rest) := by
  obtain ⟨t, ht⟩ : ∃ t, t = Numeral.exponentText n.exponent ++ rest := ⟨_, rfl⟩
  have hapart : Numeral.Apart t := ht ▸ hn.apart_exponentText hrest
  have hexponent : exponentTail t = (n.exponent, rest) := by
    rw [ht]
    cases hsome : n.exponent with
    | none => exact Numeral.exponentTail_of_ends hrest
    | some e =>
      obtain ⟨hmark, hdigits, hnonempty⟩ := hn.exponent e.1 e.2 hsome
      exact Numeral.exponentTail_append hmark hdigits hnonempty hrest
  have hwhole := hn.whole.span_append (Numeral.head?_partText_append n.part hapart)
  obtain ⟨d, ds, hds⟩ := List.exists_cons_of_ne_nil hn.nonempty
  have hsign : Text.startsWith "-" (n.text ++ rest) = n.negative ∧
      (if n.negative then (n.text ++ rest).drop 1 else n.text ++ rest)
        = n.whole ++ (Numeral.partText n.part ++ t) := by
    rw [Numeral.text_eq, List.append_assoc, List.append_assoc, List.append_assoc, ← ht]
    cases n.negative with
    | true => exact ⟨rfl, rfl⟩
    | false =>
      refine ⟨?_, rfl⟩
      have hminus : Text.after? "-" (d :: (ds ++ (Numeral.partText n.part ++ t))) = none :=
        Text.after?_of_digit (by decide) (hn.whole d (hds ▸ List.mem_cons_self)) [] _
      rw [hds, Text.startsWith]
      exact congrArg Option.isSome hminus
  rw [numeral?, hsign.1]
  dsimp only
  rw [hsign.2, hwhole]
  dsimp only
  rw [Numeral.partTail_append hn.part hapart, if_neg]
  · dsimp only
    rw [hexponent]
  · rintro (hnil | ⟨hlength, hzero⟩)
    · exact hn.nonempty hnil
    · rw [hn.leading hzero] at hlength
      exact Nat.lt_irrefl 1 hlength

/-! ## Numbers that are written -/

/-- A number in good form, as it is written. -/
def IsNumeral (t : Text) : Prop := ∃ n : Numeral, n.Good ∧ n.text = t

theorem isNumeral_ofInt (i : Int) : IsNumeral (Text.ofInt i) := by
  refine ⟨⟨decide (i < 0), Text.ofNat i.natAbs, [], none⟩, ?_, ?_⟩
  · refine ⟨Text.digits_ofNat _, Text.ofNat_ne_nil _, fun hzero => ?_, nofun, nofun⟩
    rw [Text.eq_zero_of_head?_ofNat hzero]
    rfl
  · by_cases hi : i < 0 <;> simp [Numeral.text, Text.ofInt, hi, Text.ofString, Text.ofChars]

end Json

namespace Binary64

open Json

/-! ## Binary numbers -/

theorem pos_decimalRatio (power : Int) : 0 < (decimalRatio 1 power).2 := by
  rw [decimalRatio]
  split
  · exact Nat.one_pos
  · exact Nat.pow_pos (by decide)

theorem pos_scale (e : Int) : 0 < (scale 1 1 e).1 := by
  rw [scale]
  split
  · exact Nat.mul_pos Nat.one_pos (Nat.pow_pos Nat.two_pos)
  · exact Nat.one_pos

/-- What is chosen as a neighbour is not below the low end. -/
theorem low_le_of_neighbour? {i : Interval} {power : Int} {n : Nat}
    (h : neighbour? i power = some n) :
    i.low * i.unit.1 * (decimalRatio 1 power).2 ≤ n * ((decimalRatio 1 power).1 * i.unit.2) := by
  have hchosen : ∀ (inside : Nat → Bool) (first second : Nat),
      (if inside first then some first else if inside second then some second else none) = some n →
        inside n = true := by
    intro inside first second hn
    split at hn
    · cases hn
      assumption
    · split at hn
      · cases hn
        assumption
      · cases hn
  let inside (n : Nat) : Bool :=
    let p := n * ((decimalRatio 1 power).1 * i.unit.2)
    let at' (n : Nat) := n * i.unit.1 * (decimalRatio 1 power).2
    if i.closed then at' i.low ≤ p && p ≤ at' i.high else at' i.low < p && p < at' i.high
  have hinside : inside n = true := by
    rw [neighbour?] at h
    dsimp only at h
    split at h
    · exact hchosen inside _ _ h
    · exact hchosen inside _ _ h
  simp only [inside] at hinside
  split at hinside <;> simp only [Bool.and_eq_true, decide_eq_true_iff] at hinside
  · exact hinside.1
  · exact Nat.le_of_lt hinside.1

theorem search_ne_zero {i : Interval} (hlow : 0 < i.low) (hunit : 0 < i.unit.1)
    (hvalue : i.value ≠ 0) (fuel : Nat) (power : Int) : (search i fuel power).1 ≠ 0 := by
  induction fuel generalizing power with
  | zero => exact hvalue
  | succ fuel ih =>
    rw [search]
    cases hn : neighbour? i power with
    | none => exact ih (power - 1)
    | some n =>
      have hpos := Nat.mul_pos (Nat.mul_pos hlow hunit) (pos_decimalRatio power)
      rintro rfl
      exact Nat.not_le_of_lt hpos (Nat.zero_mul _ ▸ low_le_of_neighbour? hn)

theorem shortest_ne_zero {mantissa : Nat} (h : mantissa ≠ 0) (exponent : Int) :
    (shortest mantissa exponent).1 ≠ 0 := by
  have hlow : 0 < (intervalOf mantissa exponent).low := by
    rw [intervalOf]
    dsimp only
    split <;> omega
  have hvalue : (intervalOf mantissa exponent).value ≠ 0 := by
    show 4 * mantissa ≠ 0
    omega
  exact search_ne_zero hlow (pos_scale (exponent - 2)) hvalue 18 _

theorem dropZeros_ne_zero {digits : Nat} (h : digits ≠ 0) (fuel dropped : Nat) :
    (dropZeros fuel digits dropped).1 ≠ 0 := by
  induction fuel generalizing digits dropped with
  | zero => exact h
  | succ fuel ih =>
    rw [dropZeros]
    split
    · exact ih (by omega) _
    · exact h

theorem exists_exponentText_eq (e : Int) : ∃ mark digits, exponentText e = mark ++ digits ∧
    IsMark mark ∧ Text.Digits digits ∧ digits ≠ [] := by
  rw [exponentText]
  refine ⟨_, _, rfl, ?_, ?_, ?_⟩
  · split
    · exact ⟨0x65, "-", rfl, Or.inl rfl, by decide⟩
    · exact ⟨0x65, "+", rfl, Or.inl rfl, by decide⟩
  · exact Text.digits_append.2 ⟨Text.digits_zeros _, Text.digits_ofNat _⟩
  · exact List.append_ne_nil_of_right_ne_nil _ (Text.ofNat_ne_nil _)

/-- **Digits of which the first is no zero are laid out in good form**, wherever the point stands. -/
theorem exists_layout_eq {digits : Text} (h : Text.Digits digits) (hnonempty : digits ≠ [])
    (hzero : digits.head? ≠ some (CodePoint.ofChar '0')) (point : Int) :
    ∃ whole part exponent, (∀ negative, Numeral.Good ⟨negative, whole, part, exponent⟩) ∧
      layout digits point
        = whole ++ (Numeral.partText part ++ Numeral.exponentText exponent) := by
  have htake : ∀ k more, 0 < k → digits.take k ++ more ≠ [] ∧
      (digits.take k ++ more).head? ≠ some (CodePoint.ofChar '0') := by
    intro k more hk
    obtain ⟨d, ds, rfl⟩ := List.exists_cons_of_ne_nil hnonempty
    obtain ⟨k, rfl⟩ := Nat.exists_eq_succ_of_ne_zero (Nat.ne_of_gt hk)
    exact ⟨List.cons_ne_nil _ _, hzero⟩
  by_cases hpositional : positional point
  · rw [layout, if_pos hpositional]
    by_cases hpoint : point ≤ 0
    · -- all digits stand behind the point, and zeros before them
      rw [if_pos hpoint]
      refine ⟨"0", List.replicate (-point).toNat (CodePoint.ofChar '0') ++ digits, none,
        fun negative => Numeral.good_zero negative
          (Text.digits_append.2 ⟨Text.digits_zeros _, h⟩), ?_⟩
      rw [Numeral.partText, if_neg (List.append_ne_nil_of_right_ne_nil _ hnonempty),
        Numeral.exponentText, List.append_nil]
      rfl
    · -- some stand before the point, and zeros where there are none
      obtain ⟨hne, hhead⟩ := htake point.toNat (List.replicate
        (point.toNat - (digits.take point.toNat).length) (CodePoint.ofChar '0')) (by omega)
      rw [if_neg hpoint]
      dsimp only
      obtain ⟨part, hpart⟩ : ∃ part, part = if digits.drop point.toNat = [] then ("0" : Text)
          else digits.drop point.toNat := ⟨_, rfl⟩
      rw [← hpart]
      refine ⟨_, part, none, fun negative => Numeral.good_of_head?
        (Text.digits_append.2 ⟨h.take _, Text.digits_zeros _⟩) hne hhead ?_ nofun, ?_⟩
      · rw [hpart]
        split
        · exact Text.digits_zeros 1
        · exact h.drop _
      · have hpartne : part ≠ [] := by
          rw [hpart]
          split
          · exact List.cons_ne_nil _ _
          · assumption
        rw [Numeral.partText, if_neg hpartne, Numeral.exponentText, List.append_nil,
          List.append_assoc]
  · obtain ⟨hne, hhead⟩ := htake 1 [] Nat.one_pos
    rw [List.append_nil] at hne hhead
    obtain ⟨mark, power, htext, hgood⟩ := exists_exponentText_eq (point - 1)
    rw [layout, if_neg hpositional]
    refine ⟨digits.take 1, digits.drop 1, some (mark, power), fun negative =>
      Numeral.good_of_head? (h.take 1) hne hhead (h.drop 1) ?_, ?_⟩
    · rintro _ _ ⟨⟩
      exact hgood
    · rw [htext, List.append_assoc]
      rfl

/-- **Finite numbers are written in good form.** -/
theorem isNumeral_toText (negative : Bool) (mantissa : Nat) (exponent : Int) :
    IsNumeral (toText (finite negative mantissa exponent)) := by
  rw [toText]
  split
  · exact ⟨⟨negative, "0", "0", none⟩, Numeral.good_zero negative (Text.digits_zeros 1),
      by cases negative <;> rfl⟩
  · rename_i hmantissa
    dsimp only
    have hne := dropZeros_ne_zero (shortest_ne_zero hmantissa exponent) 20 0
    obtain ⟨whole, part, power, hgood, hlayout⟩ := exists_layout_eq (Text.digits_ofNat _)
      (Text.ofNat_ne_nil _) (fun hhead => hne (Text.eq_zero_of_head?_ofNat hhead)) _
    exact ⟨⟨negative, whole, part, power⟩, hgood negative, by rw [Numeral.text_eq, hlayout]⟩

end Binary64
end Localize
