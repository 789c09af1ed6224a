import Localize.Proofs.Resolution.Reading

/-!
# Texts spelled with escapes

A tool that compiles assets may write any code point as an escape, and it has to write a backslash
as one.  `Spelled` lists the texts that come of this, with hexadecimal digits of either case and
with two halves for a code point that four digits do not hold.  Decoding gives back what was
spelled (`decode_of_spelled`), because what stands behind an escape is never shielded by it: the
last code point of an escape is a digit.

Two things could go wrong and do not.  A backslash that was decoded may stand before the rest of
what looks like an escape, but what is decoded is not read again.  And two escapes side by side
could be taken for the halves of a pair, but a code point that is no surrogate is no half.

The other way round, what was escaped for a quoted literal holds nothing to decode (`decode_embed`):
there the first backslash of each pair stands before a guarded code point, and the second is
shielded.
-/

set_option autoImplicit false

namespace Localize
namespace Escape

/-! ## Hexadecimal digits -/

/-- The hexadecimal digit of a number below sixteen, in upper or in lower case. -/
def hexDigit (upper : Bool) (v : Nat) : CodePoint :=
  if upper ∧ 10 ≤ v then CodePoint.ofNat (0x37 + v) else CodePoint.ofHexDigit v

/-- The last hexadecimal digits of a number, as many as there are cases for them. -/
def hexDigits : List Bool → Nat → Text
  | [], _ => []
  | upper :: uppers, n => hexDigit upper (n / Nat.pow 16 uppers.length % 16) :: hexDigits uppers n

theorem hexDigit?_hexDigit (upper : Bool) {v : Nat} (hv : v < 16) :
    (hexDigit upper v).hexDigit? = some v := by
  have hall : ∀ v < 16, ∀ upper, (hexDigit upper v).hexDigit? = some v := by decide
  exact hall v hv upper

/-- A hexadecimal digit is no backslash. -/
theorem ne_backslash_of_mem_hexDigits {uppers : List Bool} {n : Nat} {d : CodePoint}
    (hd : d ∈ hexDigits uppers n) : d ≠ '\\' := by
  have hall : ∀ v < 16, ∀ upper, hexDigit upper v ≠ '\\' := by decide
  induction uppers with
  | nil => cases hd
  | cons upper uppers ih =>
    rcases List.mem_cons.1 hd with rfl | hd
    · exact hall _ (Nat.mod_lt _ (by decide)) upper
    · exact ih hd

@[simp] theorem length_hexDigits (uppers : List Bool) (n : Nat) :
    (hexDigits uppers n).length = uppers.length := by
  induction uppers with
  | nil => rfl
  | cons upper uppers ih => rw [hexDigits, List.length_cons, ih, List.length_cons]

/-- Hexadecimal digits are read as the number they are the last digits of. -/
theorem mapM_hexDigit?_hexDigits (uppers : List Bool) (n : Nat) :
    ∃ vs, (hexDigits uppers n).mapM CodePoint.hexDigit? = some vs ∧
      ∀ m, vs.foldl (fun m v => m * 16 + v) m
        = m * Nat.pow 16 uppers.length + n % Nat.pow 16 uppers.length := by
  induction uppers with
  | nil => exact ⟨[], rfl, fun m => by simp [Nat.mod_one]⟩
  | cons upper uppers ih =>
    obtain ⟨vs, hvs, hvalue⟩ := ih
    refine ⟨n / Nat.pow 16 uppers.length % 16 :: vs, ?_, fun m => ?_⟩
    · rw [hexDigits, List.mapM_cons, hexDigit?_hexDigit upper (Nat.mod_lt _ (by decide)), hvs]
      rfl
    · rw [List.foldl_cons, hvalue, List.length_cons]
      simp only [Nat.pow_eq]
      rw [Nat.mod_pow_succ, Nat.pow_succ, Nat.add_mul, Nat.mul_assoc, Nat.mul_comm 16,
        Nat.mul_comm (_ / _ % 16)]
      omega

/-- Hexadecimal digits that hold a number are read as it. -/
theorem length_hexValue?_hexDigits {uppers : List Bool} {width n : Nat}
    (huppers : uppers.length = width) (hn : n < Nat.pow 16 width) :
    (hexDigits uppers n).length = width ∧ hexValue? (hexDigits uppers n) = some n := by
  subst huppers
  obtain ⟨vs, hvs, hvalue⟩ := mapM_hexDigit?_hexDigits uppers n
  refine ⟨length_hexDigits uppers n, ?_⟩
  rw [hexValue?, hvs, Option.map_some, Text.numeral, hvalue, Nat.zero_mul, Nat.zero_add,
    Nat.mod_eq_of_lt hn]

/-! ## Spellings -/

/-- An escape: a backslash, a letter that says how many digits follow, and the digits. -/
def escape (letter : CodePoint) (uppers : List Bool) (n : Nat) : Text :=
  '\\' :: letter :: hexDigits uppers n

/-- The first half of the surrogate pair of a number that four digits do not hold. -/
def highHalf (n : Nat) : Nat := 0xD800 + (n - 0x10000) / 0x400

/-- The second half. -/
def lowHalf (n : Nat) : Nat := 0xDC00 + (n - 0x10000) % 0x400

/-- The ways to write one code point: as it is, unless it is a backslash; with two digits or with
four, if they hold it; and as the two halves of a surrogate pair, if four digits do not. -/
inductive Spelling : CodePoint → Text → Prop
  | plain {c : CodePoint} (hc : c ≠ '\\') : Spelling c [c]
  | byte {c : CodePoint} (hc : c.val < 0x100) {uppers : List Bool} (huppers : uppers.length = 2) :
      Spelling c (escape 'x' uppers c.val)
  | unit {c : CodePoint} (hc : c.val < 0x10000) {uppers : List Bool}
      (huppers : uppers.length = 4) : Spelling c (escape 'u' uppers c.val)
  | pair {c : CodePoint} (hc : 0x10000 ≤ c.val) {highs lows : List Bool}
      (hhighs : highs.length = 4) (hlows : lows.length = 4) :
      Spelling c (escape 'u' highs (highHalf c.val) ++ escape 'u' lows (lowHalf c.val))

/-- A text written code point by code point. -/
inductive Spelled : Text → Text → Prop
  | nil : Spelled [] []
  | cons {c : CodePoint} {t w u : Text} (hc : Spelling c w) (ht : Spelled t u) :
      Spelled (c :: t) (w ++ u)

/-! ## Decoding one spelling -/

/-- Behind code points that were decoded already, nothing is shielded if they end in no backslash.
-/
theorem decodeFrom_passed {passed : Text} (hne : passed ≠ [])
    (hlast : passed.getLast? ≠ some (CodePoint.ofChar '\\')) (shielded : Bool) (rest : Text) :
    decodeFrom passed.length shielded (passed ++ rest) = decode rest := by
  induction passed generalizing shielded with
  | nil => exact absurd rfl hne
  | cons c passed ih =>
    rw [List.length_cons, List.cons_append, decodeFrom]
    cases passed with
    | nil =>
      rw [decide_eq_false fun h => hlast (congrArg some h : some c = _)]
      rfl
    | cons d passed =>
      rw [List.getLast?_cons_cons] at hlast
      exact ih (List.cons_ne_nil d passed) hlast _

/-- An escape that ends in digits is decoded as a whole. -/
theorem decode_backslash_append {written rest : Text} {uppers : List Bool} {n taken : Nat}
    {c : CodePoint} (huppers : uppers ≠ []) (hdigits : hexDigits uppers n <:+ written)
    (htaken : written.length = taken) (h : afterBackslash? (written ++ rest) = some (c, taken)) :
    decode (CodePoint.ofChar '\\' :: (written ++ rest)) = c :: decode rest := by
  subst htaken
  have hne : hexDigits uppers n ≠ [] := by
    rw [ne_eq, ← List.length_eq_zero_iff, length_hexDigits, List.length_eq_zero_iff]
    exact huppers
  obtain ⟨t, rfl⟩ := hdigits
  have hlast : (t ++ hexDigits uppers n).getLast? ≠ some (CodePoint.ofChar '\\') := by
    rw [List.getLast?_append, List.getLast?_eq_some_getLast hne, Option.some_or]
    exact fun hlast => ne_backslash_of_mem_hexDigits (List.getLast_mem hne) (Option.some.inj hlast)
  rw [decode, decodeFrom, if_pos ⟨rfl, rfl⟩, h]
  dsimp only
  rw [decodeFrom_passed (List.append_ne_nil_of_right_ne_nil t hne) hlast]

/-- Two digits stand for the code point of their number. -/
theorem afterBackslash?_byte {digits : Text} (hlength : digits.length = 2) {n : Nat}
    (h : hexValue? digits = some n) (rest : Text) :
    afterBackslash? (CodePoint.ofChar 'x' :: digits ++ rest) = some (CodePoint.ofNat n, 3) := by
  match digits, hlength with
  | [a, b], _ =>
    show afterBackslash? (0x78 :: a :: b :: rest) = _
    rw [afterBackslash?, h]
    rfl

/-- Four digits stand for a code point of their own if their number is not that of a first half. -/
theorem afterBackslash?_unit {digits : Text} (hlength : digits.length = 4) {n : Nat}
    (h : hexValue? digits = some n) (hn : ¬ (0xD800 ≤ n ∧ n ≤ 0xDBFF)) (rest : Text) :
    afterBackslash? (CodePoint.ofChar 'u' :: digits ++ rest) = some (CodePoint.ofNat n, 5) := by
  match digits, hlength with
  | [a, b, c, d], _ =>
    show afterBackslash? (0x75 :: a :: b :: c :: d :: rest) = _
    rw [afterBackslash?, h]
    dsimp only [Option.bind_eq_bind, Option.bind_some]
    split
    · rename_i e f g i tail
      cases hexValue? [e, f, g, i] with
      | none => rfl
      | some low =>
        rw [Option.bind_some, if_neg fun hpair => hn ⟨hpair.1, hpair.2.1⟩]
        rfl
    · rfl

/-- Two times four digits stand for one code point if their numbers are those of halves. -/
theorem afterBackslash?_pair {digits digits' : Text} (hlength : digits.length = 4)
    (hlength' : digits'.length = 4) {high low : Nat} (hhigh : hexValue? digits = some high)
    (hlow : hexValue? digits' = some low)
    (hpair : 0xD800 ≤ high ∧ high ≤ 0xDBFF ∧ 0xDC00 ≤ low ∧ low ≤ 0xDFFF) (rest : Text) :
    afterBackslash? (CodePoint.ofChar 'u' :: digits
        ++ CodePoint.ofChar '\\' :: CodePoint.ofChar 'u' :: digits' ++ rest)
      = some (CodePoint.ofNat (0x10000 + (high - 0xD800) * 0x400 + (low - 0xDC00)), 11) := by
  match digits, hlength, digits', hlength' with
  | [a, b, c, d], _, [e, f, g, h], _ =>
    show afterBackslash? (0x75 :: a :: b :: c :: d :: 0x5C :: 0x75 :: e :: f :: g :: h :: rest) = _
    rw [afterBackslash?, hhigh]
    dsimp only [Option.bind_eq_bind, Option.bind_some]
    split
    · rename_i htail
      cases htail
      rw [hlow, Option.bind_some, if_pos hpair]
      rfl
    · rename_i hne
      exact absurd rfl (hne e f g h rest)

/-- **A code point is decoded from each of its spellings**, whatever stands behind it. -/
theorem Spelling.decode_append {c : CodePoint} {w : Text} (h : Spelling c w)
    (hc : c.isSurrogate = false) (rest : Text) : decode (w ++ rest) = c :: decode rest := by
  have hself : CodePoint.ofNat c.val = c := Fin.ofNat_val_eq_self c
  have hplain : ¬ (0xD800 ≤ c.val ∧ c.val ≤ 0xDFFF) := by
    simpa [CodePoint.isSurrogate] using hc
  cases h with
  | plain hne =>
    rw [List.singleton_append, decode, decodeFrom, if_neg fun h => hne h.1,
      decide_eq_false hne, decode]
  | byte hbyte huppers =>
    obtain ⟨hlength, hvalue⟩ := length_hexValue?_hexDigits huppers hbyte
    have hafter := afterBackslash?_byte hlength hvalue rest
    rw [hself] at hafter
    exact decode_backslash_append (List.ne_nil_of_length_eq_add_one huppers)
      (List.suffix_cons _ _) (by rw [List.length_cons, hlength]) hafter
  | unit hunit huppers =>
    obtain ⟨hlength, hvalue⟩ := length_hexValue?_hexDigits huppers hunit
    have hafter := afterBackslash?_unit hlength hvalue (fun h => hplain ⟨h.1, by omega⟩) rest
    rw [hself] at hafter
    exact decode_backslash_append (List.ne_nil_of_length_eq_add_one huppers)
      (List.suffix_cons _ _) (by rw [List.length_cons, hlength]) hafter
  | @pair hlarge highs lows hhighs hlows =>
    have hbound : c.val < 0x110000 := c.isLt
    have hhalf : highHalf c.val < 0x10000 ∧ lowHalf c.val < 0x10000 := by
      rw [highHalf, lowHalf]
      omega
    obtain ⟨hlength, hhigh⟩ := length_hexValue?_hexDigits hhighs hhalf.1
    obtain ⟨hlength', hlow⟩ := length_hexValue?_hexDigits hlows hhalf.2
    have hafter := afterBackslash?_pair hlength hlength' hhigh hlow
      (by rw [highHalf, lowHalf]; omega) rest
    have hsum : 0x10000 + (highHalf c.val - 0xD800) * 0x400 + (lowHalf c.val - 0xDC00) = c.val := by
      rw [highHalf, lowHalf]
      omega
    rw [hsum, hself] at hafter
    have hsuffix : hexDigits lows (lowHalf c.val) <:+
        CodePoint.ofChar 'u' :: hexDigits highs (highHalf c.val)
          ++ escape 'u' lows (lowHalf c.val) :=
      ((List.suffix_cons _ _).trans (List.suffix_cons _ _)).trans (List.suffix_append _ _)
    have hlong : (CodePoint.ofChar 'u' :: hexDigits highs (highHalf c.val)
        ++ escape 'u' lows (lowHalf c.val)).length = 11 := by
      rw [List.length_append, List.length_cons, hlength, escape, List.length_cons,
        List.length_cons, hlength']
    exact decode_backslash_append (List.ne_nil_of_length_eq_add_one hlows) hsuffix hlong hafter

/-! ## Escaped texts -/

/-- **What was escaped holds nothing to decode**, whether or not a backslash stands before it. -/
theorem decodeFrom_embed (shielded : Bool) (t : Text) :
    decodeFrom 0 shielded (embed t) = embed t := by
  induction t generalizing shielded with
  | nil => cases shielded <;> rfl
  | cons c t ih =>
    rw [embed_cons]
    by_cases hc : Guarded c
    · -- the first backslash begins no escape, and what stands behind it is shielded
      have hnone : afterBackslash? (c :: embed t) = none := by
        rcases hc with rfl | rfl | rfl <;> rfl
      have hnext : decodeFrom 0 true (c :: embed t) = c :: embed t := by
        rw [decodeFrom, if_neg fun h => Bool.noConfusion h.2, ih]
      rw [embedOne_of_guarded hc, List.cons_append, List.singleton_append]
      cases shielded with
      | true =>
        rw [decodeFrom, if_neg fun h => Bool.noConfusion h.2, decide_eq_true rfl, hnext]
      | false =>
        rw [decodeFrom, if_pos ⟨rfl, rfl⟩, hnone]
        dsimp only
        rw [hnext]
    · have hne : c ≠ '\\' := fun h => hc (Or.inl h)
      rw [embedOne_of_not_guarded hc, List.singleton_append, decodeFrom,
        if_neg fun h => hne h.1, ih]

/-- **Decoding undoes every spelling** of a text without surrogates, and it leaves alone what was
escaped for a quoted literal. -/
theorem decode_of_spelled :
    (∀ t u : Text, (∀ c ∈ t, c.isSurrogate = false) → Spelled t u → decode u = t) ∧
      ∀ t : Text, decode (embed t) = embed t := by
  refine ⟨fun t u ht hspelled => ?_, decodeFrom_embed false⟩
  induction hspelled with
  | nil => rfl
  | cons hc _ ih =>
    rw [hc.decode_append (ht _ List.mem_cons_self), ih fun d hd => ht d (List.mem_cons_of_mem _ hd)]

/-! ### A backslash before what looks like an escape -/

/-- What looks like the escape of an A, without its backslash. -/
def letterDigits : Text := ['u', '0', '0', '4', '1']

/-- The emoji U+1F600, the letter é, and a backslash that begins no escape. -/
def escapes : Text := 0x1F600 :: 0xE9 :: 0x5C :: letterDigits

/-- A spelling of it, with digits of either case and the backslash as an escape. -/
def escapesSpelled : Text :=
  escape 'u' [true, true, true, false] 0xD83D ++ escape 'u' [true, true, true, true] 0xDE00
    ++ (escape 'x' [false, false] 0xE9 ++ (escape 'x' [true, true] 0x5C ++ letterDigits))

example : escapesSpelled = Text.ofString "\\uD83d\\uDE00\\xe9\\x5Cu0041" := by decide +kernel

theorem decode_of_spelled_escapes :
    (∀ c ∈ escapes, c.isSurrogate = false) ∧ Spelled escapes escapesSpelled ∧
      decode escapesSpelled = escapes := by
  have hplain : ∀ c ∈ escapes, c.isSurrogate = false := by
    intro c hc
    simp only [escapes, letterDigits, List.mem_cons, List.not_mem_nil, or_false] at hc
    rcases hc with rfl | rfl | rfl | rfl | rfl | rfl | rfl | rfl <;> rfl
  have hrest : Spelled letterDigits letterDigits :=
    .cons (.plain (by decide)) (.cons (.plain (by decide)) (.cons (.plain (by decide))
      (.cons (.plain (by decide)) (.cons (.plain (by decide)) .nil))))
  have hspelled : Spelled escapes escapesSpelled :=
    .cons (c := 0x1F600) (.pair (by decide) rfl rfl)
      (.cons (c := 0xE9) (.byte (by decide) rfl)
        (.cons (c := 0x5C) (.byte (by decide) rfl) hrest))
  exact ⟨hplain, hspelled, decode_of_spelled.1 _ _ hplain hspelled⟩

end Escape
end Localize
