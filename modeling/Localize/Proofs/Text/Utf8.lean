import Localize.Text.Utf8

/-!
# Texts as UTF-8 and back

A text without surrogates has bytes, those of its code points one after the other
(`encode_of_no_surrogate`), and they are read as the text they were written from (`decode_encode`).

Both hang on one code point.  Its first byte announces how many bytes follow and where the second of
them has to lie (`first_encodeOne`); each of these adds six bits to the number (`follow_tail`).
-/

set_option autoImplicit false

namespace Localize
namespace Utf8

variable {t : Text} {c : CodePoint} {n : Nat} {bytes rest : Bytes}

/-! ## First bytes -/

theorem toNat_ofNat (h : n < 0x100) : (UInt8.ofNat n).toNat = n := by
  rw [UInt8.toNat_ofNat']
  omega

/-- A byte that stands alone. -/
theorem lead?_one (h : n < 0x80) : lead? (UInt8.ofNat n) = some ⟨0, 0x80, 0xBF, n⟩ := by
  rw [lead?, toNat_ofNat (by omega)]
  exact if_pos h

/-- The first of two bytes. -/
theorem lead?_two (hlow : 2 ≤ n) (hhigh : n < 0x20) :
    lead? (UInt8.ofNat (0xC0 + n)) = some ⟨1, 0x80, 0xBF, n⟩ := by
  rw [lead?, toNat_ofNat (by omega)]
  rw [if_neg (by omega), if_neg (by omega), if_pos (by omega), Nat.add_sub_cancel_left]

/-- The first of three bytes.  The second has to be such that the form is not too long, and the
number not that of a surrogate. -/
theorem lead?_three (hn : n < 0x10) :
    ∃ low high, lead? (UInt8.ofNat (0xE0 + n)) = some ⟨2, low, high, n⟩ ∧
      ∀ m < 0x40, (n = 0 → 0x20 ≤ m) → (n = 0xD → m < 0x20) → low ≤ 0x80 + m ∧ 0x80 + m ≤ high := by
  rw [lead?, toNat_ofNat (by omega)]
  rw [if_neg (by omega), if_neg (by omega), if_neg (by omega)]
  by_cases hlong : n = 0
  · subst hlong
    exact ⟨_, _, rfl, fun m hm hshort _ => ⟨by have := hshort rfl; omega, by omega⟩⟩
  · rw [if_neg (by omega)]
    by_cases hsurrogate : n = 0xD
    · subst hsurrogate
      exact ⟨_, _, rfl, fun m hm _ hplain => ⟨by omega, by have := hplain rfl; omega⟩⟩
    · rw [if_neg (by omega), if_pos (by omega), Nat.add_sub_cancel_left]
      exact ⟨_, _, rfl, fun m hm _ _ => ⟨by omega, by omega⟩⟩

/-- The first of four bytes.  The second has to be such that the form is not too long, and the
number one of a code point. -/
theorem lead?_four (hn : n ≤ 4) :
    ∃ low high, lead? (UInt8.ofNat (0xF0 + n)) = some ⟨3, low, high, n⟩ ∧
      ∀ m < 0x40, (n = 0 → 0x10 ≤ m) → (n = 4 → m < 0x10) → low ≤ 0x80 + m ∧ 0x80 + m ≤ high := by
  rw [lead?, toNat_ofNat (by omega)]
  rw [if_neg (by omega), if_neg (by omega), if_neg (by omega), if_neg (by omega),
    if_neg (by omega), if_neg (by omega)]
  by_cases hlong : n = 0
  · subst hlong
    exact ⟨_, _, rfl, fun m hm hshort _ => ⟨by have := hshort rfl; omega, by omega⟩⟩
  · rw [if_neg (by omega)]
    by_cases hlast : n = 4
    · subst hlast
      exact ⟨_, _, rfl, fun m hm _ hbound => ⟨by omega, by have := hbound rfl; omega⟩⟩
    · rw [if_pos (by omega), Nat.add_sub_cancel_left]
      exact ⟨_, _, rfl, fun m hm _ _ => ⟨by omega, by omega⟩⟩

/-! ## One code point -/

/-- A byte that follows adds six bits, if it lies where it has to. -/
theorem follow_tail {owed low high bits taken : Nat} (hlow : low ≤ 0x80 + n % 0x40)
    (hhigh : 0x80 + n % 0x40 ≤ high) :
    follow (owed + 1) low high bits taken (UInt8.ofNat (0x80 + n % 0x40) :: rest)
      = follow owed 0x80 0xBF (bits * 0x40 + n % 0x40) (taken + 1) rest := by
  rw [follow, toNat_ofNat (by omega), if_pos ⟨hlow, hhigh⟩, Nat.add_sub_cancel_left]

/-- Bytes that follow and complete a number are read as the code point of that number. -/
theorem first_of_follow {b : UInt8} {lead : Lead} (hlead : lead? b = some lead)
    (hfollow : follow lead.follow lead.low lead.high lead.bits 1 rest = .ok n) (hn : n = c.val) :
    first b rest = .ok (c, lead.follow) := by
  have hc : CodePoint.ofNat n = c := by
    subst hn
    exact Fin.ofNat_val_eq_self c
  rw [first, hlead]
  dsimp only
  rw [hfollow, ← hc]
  rfl

/-- **The bytes of a code point are read as the code point**, whatever stands behind them. -/
theorem first_encodeOne (hc : c.isSurrogate = false) (rest : Bytes) :
    ∃ b tail, encodeOne c = b :: tail ∧ first b (tail ++ rest) = .ok (c, tail.length) := by
  have hbound : c.val < 0x110000 := c.isLt
  have hplain : ¬ (0xD800 ≤ c.val ∧ c.val ≤ 0xDFFF) := by
    simpa [CodePoint.isSurrogate] using hc
  rw [encodeOne]
  simp only [show Nat.pow 0x40 0 = 1 from rfl, show Nat.pow 0x40 1 = 0x40 from rfl,
    show Nat.pow 0x40 2 = 0x1000 from rfl, Nat.div_one]
  split
  · rename_i hone
    exact ⟨_, _, rfl, first_of_follow (lead?_one hone) rfl rfl⟩
  · split
    · refine ⟨_, _, rfl, first_of_follow (lead?_two (by omega) (by omega)) ?_ rfl⟩
      dsimp only [List.cons_append, List.nil_append]
      rw [follow_tail (by omega) (by omega), follow, Except.ok.injEq]
      omega
    · split
      · obtain ⟨low, high, hlead, hsecond⟩ := lead?_three (n := c.val / 0x1000) (by omega)
        obtain ⟨hlow, hhigh⟩ := hsecond (c.val / 0x40 % 0x40) (by omega) (by omega) (by omega)
        refine ⟨_, _, rfl, first_of_follow hlead ?_ rfl⟩
        dsimp only [List.cons_append, List.nil_append]
        rw [follow_tail hlow hhigh, follow_tail (by omega) (by omega), follow, Except.ok.injEq]
        omega
      · obtain ⟨low, high, hlead, hsecond⟩ := lead?_four (n := c.val / 0x40000) (by omega)
        obtain ⟨hlow, hhigh⟩ := hsecond (c.val / 0x1000 % 0x40) (by omega) (by omega) (by omega)
        refine ⟨_, _, rfl, first_of_follow hlead ?_ rfl⟩
        dsimp only [List.cons_append, List.nil_append]
        rw [follow_tail hlow hhigh, follow_tail (by omega) (by omega),
          follow_tail (by omega) (by omega), follow, Except.ok.injEq]
        omega

/-! ## Texts -/

/-- Bytes that are read already are passed over. -/
theorem decodeFrom_append (pos : Nat) (passed rest : Bytes) :
    decodeFrom pos passed.length (passed ++ rest) = decodeFrom (pos + passed.length) 0 rest := by
  induction passed generalizing pos with
  | nil => rfl
  | cons b passed ih =>
    rw [List.length_cons, List.cons_append, decodeFrom, ih, Nat.add_assoc,
      Nat.add_comm 1 passed.length]

/-- The bytes of a code point are read, and then those behind them. -/
theorem decodeFrom_encodeOne_append (hc : c.isSurrogate = false) (pos : Nat) (rest : Bytes) :
    decodeFrom pos 0 (encodeOne c ++ rest)
      = (decodeFrom (pos + (encodeOne c).length) 0 rest).map (c :: ·) := by
  obtain ⟨b, tail, hbytes, hfirst⟩ := first_encodeOne hc rest
  rw [hbytes, List.cons_append, decodeFrom, hfirst]
  dsimp only
  rw [decodeFrom_append, List.length_cons, Nat.add_assoc, Nat.add_comm 1]
  rfl

/-- A text without surrogates has bytes. -/
theorem encodeFrom_of_no_surrogate (h : ∀ c ∈ t, c.isSurrogate = false) (pos : Nat) :
    encodeFrom pos t = .ok (t.flatMap encodeOne) := by
  induction t generalizing pos with
  | nil => rfl
  | cons c t ih =>
    rw [encodeFrom, h c List.mem_cons_self, ih fun d hd => h d (List.mem_cons_of_mem _ hd)]
    rfl

theorem encode_of_no_surrogate (h : ∀ c ∈ t, c.isSurrogate = false) :
    encode t = .ok (t.flatMap encodeOne) :=
  encodeFrom_of_no_surrogate h 0

/-- Only texts without surrogates have bytes. -/
theorem of_encodeFrom_eq_ok {pos : Nat} (h : encodeFrom pos t = .ok bytes) :
    (∀ c ∈ t, c.isSurrogate = false) ∧ bytes = t.flatMap encodeOne := by
  induction t generalizing pos bytes with
  | nil =>
    cases h
    exact ⟨nofun, rfl⟩
  | cons c t ih =>
    rw [encodeFrom] at h
    split at h
    · cases h
    · rename_i hc
      cases hrest : encodeFrom (pos + 1) t with
      | error e =>
        rw [hrest] at h
        cases h
      | ok tail =>
        rw [hrest] at h
        cases h
        obtain ⟨hplain, rfl⟩ := ih hrest
        refine ⟨fun d hd => ?_, rfl⟩
        rcases List.mem_cons.1 hd with rfl | hd
        · exact Bool.eq_false_iff.2 hc
        · exact hplain d hd

/-- **A text is read from its bytes.** -/
theorem decodeFrom_flatMap (h : ∀ c ∈ t, c.isSurrogate = false) (pos : Nat) :
    decodeFrom pos 0 (t.flatMap encodeOne) = .ok t := by
  induction t generalizing pos with
  | nil => rfl
  | cons c t ih =>
    rw [List.flatMap_cons, decodeFrom_encodeOne_append (h c List.mem_cons_self),
      ih fun d hd => h d (List.mem_cons_of_mem _ hd)]
    rfl

/-- **Reading undoes writing.** -/
theorem decode_encode (h : encode t = .ok bytes) : decode bytes = .ok t := by
  obtain ⟨hplain, rfl⟩ := of_encodeFrom_eq_ok h
  exact decodeFrom_flatMap hplain 0

/-- What is read from bytes that begin with a byte order mark begins with it. -/
theorem head?_of_decode_mark (h : decode (mark ++ rest) = .ok t) : t.head? = some 0xFEFF := by
  have hfirst : first 0xEF (0xBB :: 0xBF :: rest) = .ok (0xFEFF, 2) := rfl
  rw [decode, mark, List.cons_append, List.cons_append, List.cons_append, List.nil_append,
    decodeFrom, hfirst] at h
  dsimp only at h
  cases hrest : decodeFrom (0 + 1) 2 (0xBB :: 0xBF :: rest) with
  | error e =>
    rw [hrest] at h
    cases h
  | ok tail =>
    rw [hrest] at h
    cases h
    rfl

/-- **Reading undoes writing, with or without a byte order mark** in front of the bytes. -/
theorem decodeMarked_encode (h : encode t = .ok bytes) (hmark : t.head? ≠ some 0xFEFF) :
    decodeMarked bytes = .ok t ∧ decodeMarked (mark ++ bytes) = .ok t := by
  have hdecode := decode_encode h
  refine ⟨?_, hdecode⟩
  unfold decodeMarked
  split
  · exact absurd (head?_of_decode_mark hdecode) hmark
  · exact hdecode

end Utf8
end Localize
