import Localize.Proofs.Text.Utf8

/-!
# Bytes that stand for a text

A text has at most one form in bytes, and only that form is read as the text: reading and writing
are inverse to each other (`decode_eq_ok_iff`).  One half of this, that a text is read from its
bytes, says nothing of other bytes.  That none of them are read comes from the ranges that a first
byte sets for the second (`Announces`): they leave out the forms that are too long, and those of
surrogates and of numbers past the last code point.

So bytes that are read as a text fall apart where the text does (`encode_append_eq_ok_iff`).  If they
are cut anywhere else, all that is wrong with the first part is that its end is missing
(`decodeFrom_of_cut`).
-/

set_option autoImplicit false

namespace Localize
namespace Utf8

variable {t u : Text} {c : CodePoint} {k l m n : Nat} {bytes rest : Bytes}

/-! ## What bytes are read -/

/-- What a first byte announces, by how many bytes follow. -/
inductive Announces (b : Nat) : Lead → Prop
  | one (hb : b < 0x80) : Announces b ⟨0, 0x80, 0xBF, b⟩
  | two {n : Nat} (hb : b = 0xC0 + n) (hlow : 2 ≤ n) (hhigh : n < 0x20) :
      Announces b ⟨1, 0x80, 0xBF, n⟩
  /-- The form is not too long, and the number not that of a surrogate. -/
  | three {n low high : Nat} (hb : b = 0xE0 + n) (hn : n < 0x10) (hlow : 0x80 ≤ low)
      (hhigh : high ≤ 0xBF) (hlong : n = 0 → 0xA0 ≤ low) (hsurrogate : n = 0xD → high ≤ 0x9F) :
      Announces b ⟨2, low, high, n⟩
  /-- The form is not too long, and the number one of a code point. -/
  | four {n low high : Nat} (hb : b = 0xF0 + n) (hn : n ≤ 4) (hlow : 0x80 ≤ low)
      (hhigh : high ≤ 0xBF) (hlong : n = 0 → 0x90 ≤ low) (hbound : n = 4 → high ≤ 0x8F) :
      Announces b ⟨3, low, high, n⟩

theorem announces_of_lead? {b : UInt8} {lead : Lead} (h : lead? b = some lead) :
    Announces b.toNat lead := by
  rw [lead?] at h
  split at h
  · cases h
    exact .one ‹_›
  split at h
  · cases h
  split at h
  · cases h
    exact .two (by omega) (by omega) (by omega)
  split at h
  · cases h
    exact .three (by omega) (by omega) (by omega) (by omega) (by omega) (by omega)
  split at h
  · cases h
    exact .three (by omega) (by omega) (by omega) (by omega) (by omega) (by omega)
  split at h
  · cases h
    exact .three (by omega) (by omega) (by omega) (by omega) (by omega) (by omega)
  split at h
  · cases h
    exact .four (by omega) (by omega) (by omega) (by omega) (by omega) (by omega)
  split at h
  · cases h
    exact .four (by omega) (by omega) (by omega) (by omega) (by omega) (by omega)
  split at h
  · cases h
    exact .four (by omega) (by omega) (by omega) (by omega) (by omega) (by omega)
  · cases h

/-- A byte that follows lies where it has to, and adds six bits. -/
theorem of_follow_succ {owed low high bits taken : Nat} (hlow : 0x80 ≤ low) (hhigh : high ≤ 0xBF)
    (h : follow (owed + 1) low high bits taken rest = .ok n) :
    ∃ m rest', m < 0x40 ∧ low ≤ 0x80 + m ∧ 0x80 + m ≤ high ∧
      rest = UInt8.ofNat (0x80 + m) :: rest' ∧
      follow owed 0x80 0xBF (bits * 0x40 + m) (taken + 1) rest' = .ok n := by
  cases rest with
  | nil => cases h
  | cons b rest =>
    rw [follow] at h
    split at h
    · rename_i hrange
      have hb : UInt8.ofNat (0x80 + (b.toNat - 0x80)) = b := by
        rw [Nat.add_sub_cancel' (by omega), UInt8.ofNat_toNat]
      exact ⟨b.toNat - 0x80, rest, by omega, by omega, by omega, by rw [hb], h⟩
    · cases h

/-! ## The bytes of one code point -/

theorem val_ofNat (h : n < 0x110000) : (CodePoint.ofNat n).val = n := Nat.mod_eq_of_lt h

/-- A number outside the range of the surrogates is not that of one. -/
theorem isSurrogate_ofNat (h : n < 0xD800 ∨ 0xDFFF < n) (hn : n < 0x110000) :
    (CodePoint.ofNat n).isSurrogate = false := by
  rw [CodePoint.isSurrogate, val_ofNat hn]
  simp only [Bool.and_eq_false_iff, decide_eq_false_iff_not]
  omega

theorem encodeOne_one (h : n < 0x80) : encodeOne (CodePoint.ofNat n) = [UInt8.ofNat n] := by
  rw [encodeOne, val_ofNat (by omega)]
  exact if_pos h

theorem encodeOne_two (hlow : 2 ≤ n) (hhigh : n < 0x20) (hm : m < 0x40) :
    encodeOne (CodePoint.ofNat (n * 0x40 + m))
      = [UInt8.ofNat (0xC0 + n), UInt8.ofNat (0x80 + m)] := by
  rw [encodeOne, val_ofNat (by omega)]
  simp only [show Nat.pow 0x40 0 = 1 from rfl, Nat.div_one]
  rw [if_neg (by omega), if_pos (by omega)]
  have hfirst : (n * 0x40 + m) / 0x40 = n := by omega
  have hsecond : (n * 0x40 + m) % 0x40 = m := by omega
  rw [hfirst, hsecond]

theorem encodeOne_three (hn : n < 0x10) (hm : m < 0x40) (hl : l < 0x40)
    (hlong : n = 0 → 0x20 ≤ m) :
    encodeOne (CodePoint.ofNat ((n * 0x40 + m) * 0x40 + l))
      = [UInt8.ofNat (0xE0 + n), UInt8.ofNat (0x80 + m), UInt8.ofNat (0x80 + l)] := by
  rw [encodeOne, val_ofNat (by omega)]
  simp only [show Nat.pow 0x40 0 = 1 from rfl, show Nat.pow 0x40 1 = 0x40 from rfl, Nat.div_one]
  rw [if_neg (by omega), if_neg (by omega), if_pos (by omega)]
  have hfirst : ((n * 0x40 + m) * 0x40 + l) / 0x1000 = n := by omega
  have hsecond : ((n * 0x40 + m) * 0x40 + l) / 0x40 % 0x40 = m := by omega
  have hthird : ((n * 0x40 + m) * 0x40 + l) % 0x40 = l := by omega
  rw [hfirst, hsecond, hthird]

theorem encodeOne_four (hn : n ≤ 4) (hm : m < 0x40) (hl : l < 0x40) (hk : k < 0x40)
    (hlong : n = 0 → 0x10 ≤ m) (hbound : n = 4 → m < 0x10) :
    encodeOne (CodePoint.ofNat (((n * 0x40 + m) * 0x40 + l) * 0x40 + k))
      = [UInt8.ofNat (0xF0 + n), UInt8.ofNat (0x80 + m), UInt8.ofNat (0x80 + l),
        UInt8.ofNat (0x80 + k)] := by
  rw [encodeOne, val_ofNat (by omega)]
  simp only [show Nat.pow 0x40 0 = 1 from rfl, show Nat.pow 0x40 1 = 0x40 from rfl,
    show Nat.pow 0x40 2 = 0x1000 from rfl, Nat.div_one]
  rw [if_neg (by omega), if_neg (by omega), if_neg (by omega)]
  have hfirst : (((n * 0x40 + m) * 0x40 + l) * 0x40 + k) / 0x40000 = n := by omega
  have hsecond : (((n * 0x40 + m) * 0x40 + l) * 0x40 + k) / 0x1000 % 0x40 = m := by omega
  have hthird : (((n * 0x40 + m) * 0x40 + l) * 0x40 + k) / 0x40 % 0x40 = l := by omega
  have hfourth : (((n * 0x40 + m) * 0x40 + l) * 0x40 + k) % 0x40 = k := by omega
  rw [hfirst, hsecond, hthird, hfourth]

/-- **What is read as a code point is what the code point is written as**, and it is no
surrogate. -/
theorem encodeOne_of_first {b : UInt8} {more : Nat} (h : first b rest = .ok (c, more)) :
    c.isSurrogate = false ∧ encodeOne c = b :: rest.take more := by
  rw [first] at h
  cases hlead : lead? b with
  | none =>
    rw [hlead] at h
    cases h
  | some lead =>
    rw [hlead] at h
    dsimp only at h
    cases hfollow : follow lead.follow lead.low lead.high lead.bits 1 rest with
    | error e =>
      rw [hfollow] at h
      cases h
    | ok n =>
      rw [hfollow] at h
      cases h
      have hb : UInt8.ofNat b.toNat = b := UInt8.ofNat_toNat
      have hannounces := announces_of_lead? hlead
      clear hlead
      cases hannounces with
      | one hone =>
        dsimp only at hfollow ⊢
        cases hfollow
        refine ⟨isSurrogate_ofNat (by omega) (by omega), ?_⟩
        rw [encodeOne_one hone, hb]
        rfl
      | two hfirst hlow hhigh =>
        rw [hfirst] at hb
        obtain ⟨m, rest, hm, -, -, rfl, hlast⟩ :=
          of_follow_succ (Nat.le_refl 0x80) (Nat.le_refl 0xBF) hfollow
        cases hlast
        dsimp only
        refine ⟨isSurrogate_ofNat (by omega) (by omega), ?_⟩
        rw [encodeOne_two hlow hhigh hm, hb]
        rfl
      | three hfirst hn hlow hhigh hlong hsurrogate =>
        rw [hfirst] at hb
        obtain ⟨m, rest₁, hm, hmlow, hmhigh, rfl, hnext⟩ := of_follow_succ hlow hhigh hfollow
        obtain ⟨l, rest₂, hl, -, -, rfl, hlast⟩ :=
          of_follow_succ (Nat.le_refl 0x80) (Nat.le_refl 0xBF) hnext
        cases hlast
        dsimp only
        refine ⟨isSurrogate_ofNat (by omega) (by omega), ?_⟩
        rw [encodeOne_three hn hm hl (by omega), hb]
        rfl
      | four hfirst hn hlow hhigh hlong hbound =>
        rw [hfirst] at hb
        obtain ⟨m, rest₁, hm, hmlow, hmhigh, rfl, hnext⟩ := of_follow_succ hlow hhigh hfollow
        obtain ⟨l, rest₂, hl, -, -, rfl, hthird⟩ :=
          of_follow_succ (Nat.le_refl 0x80) (Nat.le_refl 0xBF) hnext
        obtain ⟨k, rest₃, hk, -, -, rfl, hlast⟩ :=
          of_follow_succ (Nat.le_refl 0x80) (Nat.le_refl 0xBF) hthird
        cases hlast
        dsimp only
        refine ⟨isSurrogate_ofNat (by omega) (by omega), ?_⟩
        rw [encodeOne_four hn hm hl hk (by omega) (by omega), hb]
        rfl

/-! ## The bytes of a text -/

/-- A text that is read has no surrogates, and its bytes are those that it is read from. -/
theorem of_decodeFrom_eq_ok {pos skip : Nat} (h : decodeFrom pos skip bytes = .ok t) :
    (∀ c ∈ t, c.isSurrogate = false) ∧ t.flatMap encodeOne = bytes.drop skip := by
  induction bytes generalizing pos skip t with
  | nil =>
    cases h
    exact ⟨nofun, List.drop_nil.symm⟩
  | cons b rest ih =>
    cases skip with
    | succ skip => exact ih h
    | zero =>
      rw [decodeFrom] at h
      split at h
      · cases h
      · rename_i c more hfirst
        cases htail : decodeFrom (pos + 1) more rest with
        | error e =>
          rw [htail] at h
          cases h
        | ok tail =>
          rw [htail] at h
          cases h
          obtain ⟨hplain, hbytes⟩ := ih htail
          obtain ⟨hc, hone⟩ := encodeOne_of_first hfirst
          refine ⟨List.forall_mem_cons.2 ⟨hc, hplain⟩, ?_⟩
          rw [List.flatMap_cons, hone, hbytes, List.cons_append, List.take_append_drop]
          rfl

/-- **A text has bytes if it has no surrogates**, and then they are those of its code points. -/
theorem encode_eq_ok_iff :
    encode t = .ok bytes ↔ (∀ c ∈ t, c.isSurrogate = false) ∧ bytes = t.flatMap encodeOne := by
  constructor
  · exact of_encodeFrom_eq_ok
  · rintro ⟨hplain, rfl⟩
    exact encode_of_no_surrogate hplain

/-- **Bytes stand for a text exactly if they are its bytes.** -/
theorem decode_eq_ok_iff : decode bytes = .ok t ↔ encode t = .ok bytes := by
  refine ⟨fun h => ?_, decode_encode⟩
  obtain ⟨hplain, hbytes⟩ := of_decodeFrom_eq_ok h
  exact encode_eq_ok_iff.2 ⟨hplain, hbytes.symm⟩

/-- The bytes of a text in two parts are those of the parts. -/
theorem encode_append_eq_ok_iff :
    encode (t ++ u) = .ok bytes ↔
      ∃ front back, encode t = .ok front ∧ encode u = .ok back ∧ bytes = front ++ back := by
  simp only [encode_eq_ok_iff]
  constructor
  · rintro ⟨hplain, rfl⟩
    exact ⟨_, _, ⟨fun c hc => hplain c (List.mem_append_left u hc), rfl⟩,
      ⟨fun c hc => hplain c (List.mem_append_right t hc), rfl⟩, List.flatMap_append⟩
  · rintro ⟨_, _, ⟨hfront, rfl⟩, ⟨hback, rfl⟩, rfl⟩
    exact ⟨fun c hc => (List.mem_append.1 hc).elim (hfront c) (hback c), List.flatMap_append.symm⟩

/-- A text has no more code points than bytes. -/
theorem length_le_of_encode {bytes : Bytes} (h : encode t = .ok bytes) : t.length ≤ bytes.length := by
  obtain ⟨hplain, rfl⟩ := encode_eq_ok_iff.1 h
  clear h
  induction t with
  | nil => exact Nat.le_refl 0
  | cons c t ih =>
    obtain ⟨b, tail, hone, -⟩ := first_encodeOne (hplain c List.mem_cons_self) []
    have ht := ih fun d hd => hplain d (List.mem_cons_of_mem c hd)
    rw [List.flatMap_cons, hone, List.cons_append, List.length_cons, List.length_cons,
      List.length_append]
    omega

/-! ## Bytes up to a place -/

/-- Bytes that are missing are missed. -/
theorem follow_of_cut {owed low high bits taken : Nat} {front back : Bytes}
    (h : follow owed low high bits taken (front ++ back) = .ok n) (hcut : front.length < owed) :
    follow owed low high bits taken front = .error (.truncated, taken + front.length) := by
  induction front generalizing owed low high bits taken with
  | nil =>
    obtain ⟨owed, rfl⟩ := Nat.exists_eq_add_one.2 hcut
    rfl
  | cons b front ih =>
    obtain ⟨owed, rfl⟩ := Nat.exists_eq_add_one.2 (Nat.zero_lt_of_lt hcut)
    rw [List.cons_append, follow] at h
    split at h
    · rename_i hrange
      rw [follow, if_pos hrange, ih h (Nat.lt_of_succ_lt_succ hcut), List.length_cons,
        Nat.add_assoc, Nat.add_comm 1]
    · cases h

/-- A code point whose last bytes are missing is known to be so. -/
theorem first_of_cut {b : UInt8} {front back : Bytes} (h : first b (front ++ back) = .ok (c, n))
    (hcut : front.length < n) : ∃ count, first b front = .error (.truncated, count) := by
  rw [first] at h ⊢
  cases hlead : lead? b with
  | none =>
    rw [hlead] at h
    cases h
  | some lead =>
    rw [hlead] at h
    dsimp only at h ⊢
    cases hfollow : follow lead.follow lead.low lead.high lead.bits 1 (front ++ back) with
    | error e =>
      rw [hfollow] at h
      cases h
    | ok m =>
      rw [hfollow] at h
      cases h
      rw [follow_of_cut hfollow hcut]
      exact ⟨_, rfl⟩

/-- **The bytes of a text up to a place** are the bytes of a text, or are so up to the beginning of
a code point whose last bytes are missing. -/
theorem decodeFrom_of_cut {front back : Bytes} (h : ∀ c ∈ t, c.isSurrogate = false)
    (hbytes : t.flatMap encodeOne = front ++ back) (pos : Nat) :
    ∃ read left rest, t = read ++ left ∧ front = read.flatMap encodeOne ++ rest ∧
      left.flatMap encodeOne = rest ++ back ∧
      ((decodeFrom pos 0 front = .ok read ∧ rest = []) ∨
        ∃ e, decodeFrom pos 0 front = .error e ∧ e.fault = .truncated ∧
          e.start = pos + (read.flatMap encodeOne).length) := by
  induction t generalizing front pos with
  | nil =>
    obtain ⟨rfl, rfl⟩ := List.append_eq_nil_iff.1 hbytes.symm
    exact ⟨[], [], [], rfl, rfl, rfl, Or.inl ⟨rfl, rfl⟩⟩
  | cons c t ih =>
    rw [List.flatMap_cons] at hbytes
    have hfront : front <+: encodeOne c ++ t.flatMap encodeOne := ⟨back, hbytes.symm⟩
    rcases Nat.lt_or_ge front.length (encodeOne c).length with hcut | hwhole
    · -- the code point is not whole, and nothing is read
      obtain ⟨missing, hmissing⟩ :=
        List.prefix_of_prefix_length_le hfront (List.prefix_append _ _) (Nat.le_of_lt hcut)
      refine ⟨[], c :: t, front, rfl, rfl, hbytes, ?_⟩
      cases front with
      | nil => exact Or.inl ⟨rfl, rfl⟩
      | cons b front =>
        obtain ⟨b', tail, hone, hfirst⟩ := first_encodeOne (h c List.mem_cons_self) []
        rw [hone] at hmissing hcut
        obtain ⟨rfl, rfl⟩ := List.cons.inj hmissing
        rw [List.append_nil] at hfirst
        obtain ⟨count, htruncated⟩ := first_of_cut hfirst (Nat.lt_of_succ_lt_succ hcut)
        refine Or.inr ⟨⟨pos, b, count, .truncated⟩, ?_, rfl, rfl⟩
        rw [decodeFrom, htruncated]
    · obtain ⟨front', rfl⟩ :=
        List.prefix_of_prefix_length_le (List.prefix_append _ _) hfront hwhole
      rw [List.append_assoc, List.append_cancel_left_eq] at hbytes
      obtain ⟨read, left, rest, rfl, rfl, hleft, hread⟩ :=
        ih (fun d hd => h d (List.mem_cons_of_mem c hd)) hbytes (pos + (encodeOne c).length)
      refine ⟨c :: read, left, rest, rfl, ?_, hleft, ?_⟩
      · rw [List.flatMap_cons, List.append_assoc]
      · rw [decodeFrom_encodeOne_append (h c List.mem_cons_self), List.flatMap_cons,
          List.length_append, ← Nat.add_assoc]
        refine hread.imp ?_ ?_
        · rintro ⟨hread, rfl⟩
          rw [hread]
          exact ⟨rfl, rfl⟩
        · rintro ⟨e, he, hfault, hstart⟩
          rw [he]
          exact ⟨e, rfl, hfault, hstart⟩

/-- A text whose bytes begin with those of another begins with that. -/
theorem encode_eq_ok_append_iff {front back : Bytes} (h : encode t = .ok front) :
    encode u = .ok (front ++ back) ↔ ∃ v, u = t ++ v ∧ encode v = .ok back := by
  constructor
  · intro hu
    obtain ⟨hplain, hbytes⟩ := encode_eq_ok_iff.1 hu
    obtain ⟨read, left, rest, rfl, -, hleft, hread⟩ := decodeFrom_of_cut hplain hbytes.symm 0
    have hdecode : decodeFrom 0 0 front = .ok t := decode_encode h
    rw [hdecode] at hread
    obtain ⟨hsame, rfl⟩ := hread.resolve_right fun ⟨_, herror, _⟩ => by cases herror
    obtain rfl : t = read := Except.ok.inj hsame
    exact ⟨left, rfl, encode_eq_ok_iff.2
      ⟨fun c hc => hplain c (List.mem_append_right _ hc), hleft.symm⟩⟩
  · rintro ⟨v, rfl, hv⟩
    exact encode_append_eq_ok_iff.2 ⟨front, back, h, hv, rfl⟩

end Utf8
end Localize
