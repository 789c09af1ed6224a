import Mathlib.Data.Rat.Cast.Order
import Localize.Value.Basic

/-!
# When two keys are one

Numbers are one key if they have one value, whatever they are written as: a truth value, an integer
or a binary number.  Everything else that may be a key is one key with itself alone.  So a key has a
form (`Value.form?`) in which the ways of writing it make no difference, and to be one key is to have
one form (`Value.sameKey_iff_left`, `Value.sameKey_iff_right`).  Lists, mappings and what else has
values inside has no form, and is no key.
-/

set_option autoImplicit false

namespace Localize

namespace Binary64

variable {s t : Bool} {m n : Nat} {e f : Int} {i : Int} {x y : Binary64}

/-- A mantissa with its sign. -/
def signed (negative : Bool) (mantissa : Nat) : ℤ := if negative then -mantissa else mantissa

/-- The value of a number. -/
inductive Amount
  | finite (q : ℚ)
  | infinite (negative : Bool)
  | nan

/-- The value of a number. -/
def amount : Binary64 → Amount
  | nan => .nan
  | infinite negative => .infinite negative
  | finite negative mantissa exponent => .finite (signed negative mantissa * 2 ^ exponent)

theorem aligned_eq {least : Int} (h : least ≤ e) :
    (aligned s m e least : ℚ) = signed s m * 2 ^ e / 2 ^ least := by
  have hpower : (2 : ℚ) ^ e / 2 ^ least = 2 ^ (e - least).toNat := by
    rw [← zpow_sub₀ two_ne_zero, ← zpow_natCast, Int.toNat_of_nonneg (Int.sub_nonneg.2 h)]
  rw [mul_div_assoc, hpower, aligned, signed]
  cases s <;> simp

theorem equals_finite_iff :
    (finite s m e).equals (finite t n f) = true ↔
      (signed s m * 2 ^ e : ℚ) = signed t n * 2 ^ f := by
  have hleast : (2 : ℚ) ^ min e f ≠ 0 := zpow_ne_zero _ two_ne_zero
  rw [equals, decide_eq_true_iff, ← Int.cast_inj (α := ℚ), aligned_eq (min_le_left e f),
    aligned_eq (min_le_right e f), div_left_inj' hleast]

theorem signed_mul (s : Bool) (m d : Nat) : signed s (m * d) = signed s m * d := by
  cases s <;> simp [signed]

theorem natAbs_signed (s : Bool) (m : Nat) : (signed s m).natAbs = m := by
  cases s <;> simp [signed]

/-- A mantissa with a sign is a multiple of what divides it. -/
theorem signed_eq_mul_iff {d : Nat} (hd : d ≠ 0) :
    signed s m = i * d ↔ m % d = 0 ∧ signed s (m / d) = i := by
  constructor
  · intro h
    have hm : m = i.natAbs * d := by
      rw [← natAbs_signed s m, h, Int.natAbs_mul, Int.natAbs_natCast]
    rw [hm, signed_mul] at h
    rw [hm, Nat.mul_mod_left, Nat.mul_div_cancel _ (Nat.pos_of_ne_zero hd)]
    exact ⟨rfl, Int.eq_of_mul_eq_mul_right (Int.natCast_ne_zero.2 hd) h⟩
  · rintro ⟨hdvd, rfl⟩
    rw [← signed_mul, Nat.div_mul_cancel (Nat.dvd_of_mod_eq_zero hdvd)]

theorem toInt?_finite_eq_some_iff :
    (finite s m e).toInt? = some i ↔ (signed s m * 2 ^ e : ℚ) = i := by
  have hone : ∀ num den : Nat, scale m 1 e = (num, den) →
      ((finite s m e).toInt? = some i ↔ num % den = 0 ∧ signed s (num / den) = i) := by
    intro num den h
    rw [toInt?, ratio?, h, isNegative, signed]
    by_cases hdvd : num % den = 0 <;> simp [hdvd]
  rw [scale] at hone
  split at hone
  · rename_i hsign
    rw [hone _ _ rfl, ← signed_eq_mul_iff one_ne_zero]
    lift e to ℕ using hsign
    rw [zpow_natCast, ← Int.cast_inj (α := ℚ), signed, signed]
    cases s <;> simp
  · rename_i hsign
    obtain ⟨k, rfl⟩ : ∃ k : ℕ, e = -k := ⟨(-e).toNat, by omega⟩
    have hpower : (2 : ℚ) ^ k ≠ 0 := pow_ne_zero _ two_ne_zero
    rw [hone _ _ rfl, one_mul, neg_neg, Int.toNat_natCast, Nat.pow_eq,
      ← signed_eq_mul_iff (pow_ne_zero k two_ne_zero), zpow_neg, zpow_natCast, ← div_eq_mul_inv,
      div_eq_iff hpower, ← Int.cast_inj (α := ℚ)]
    push_cast
    rfl

theorem toInt?_eq_some_iff : x.toInt? = some i ↔ x.amount = .finite i := by
  cases x with
  | nan => exact iff_of_false nofun nofun
  | infinite s => exact iff_of_false nofun nofun
  | finite s m e => rw [toInt?_finite_eq_some_iff, amount, Amount.finite.injEq]

end Binary64

namespace Value

/-- What makes a key the key that it is. -/
inductive Form
  | null
  | number (a : Binary64.Amount)
  | text (t : Text)
  | bytes (bs : Bytes)
  | date (d : Date)
  | moment (m : Moment)

/-- The form of a value that may be a key. -/
def form? : Value → Option Form
  | null => some .null
  | bool b => some (.number (.finite (if b then 1 else 0 : Int)))
  | int i => some (.number (.finite i))
  | float x => some (.number x.amount)
  | text t => some (.text t)
  | bytes bs => some (.bytes bs)
  | date d => some (.date d)
  | moment m => some (.moment m)
  | _ => none

variable {k l : Value} {f : Form} {x y : Binary64} {i : Int}

theorem toInt?_eq_some_iff : k.toInt? = some i ↔ k.form? = some (.number (.finite i)) := by
  cases k with
  | bool b =>
    rw [toInt?, form?, Option.some_inj, Option.some_inj, Form.number.injEq,
      Binary64.Amount.finite.injEq, Int.cast_inj]
  | _ => simp [toInt?, form?, Binary64.toInt?_eq_some_iff]

theorem sameKey_eq_same (h : l ≠ .float .nan) : k.sameKey l = k.same l := by
  unfold sameKey
  split
  · exact absurd rfl h
  · rfl

theorem same_bool_iff {b : Bool} :
    k.same (.bool b) = true ↔ k.toInt? = some (if b then 1 else 0) := by
  cases k with
  | float x => cases h : x.toInt? <;> simp [same, toInt?, h]
  | _ => simp [same, toInt?]

theorem same_int_iff : k.same (.int i) = true ↔ k.toInt? = some i := by
  cases k with
  | float x => cases h : x.toInt? <;> simp [same, toInt?, h]
  | _ => simp [same, toInt?]

theorem float_sameKey_iff : (float x).sameKey (float y) = true ↔ x.amount = y.amount := by
  cases x with
  | finite s m e =>
    cases y with
    | finite t n f =>
      rw [sameKey, same, Binary64.equals_finite_iff, Binary64.amount, Binary64.amount,
        Binary64.Amount.finite.injEq]
      exact nofun
    | _ => simp [sameKey, same, Binary64.equals, Binary64.amount]
  | _ => cases y <;> simp [sameKey, same, Binary64.equals, Binary64.amount]

theorem sameKey_float_iff :
    k.sameKey (float y) = true ↔ k.form? = some (.number y.amount) := by
  have hwhole : ∀ j : Int, y.toInt? = some j ↔ Binary64.Amount.finite j = y.amount := fun j => by
    rw [Binary64.toInt?_eq_some_iff, eq_comm]
  cases k with
  | float x => rw [float_sameKey_iff, form?, Option.some_inj, Form.number.injEq]
  | bool b =>
    rw [form?, Option.some_inj, Form.number.injEq, ← hwhole]
    cases h : y.toInt? <;> simp [sameKey, same, toInt?, h, eq_comm]
  | int i =>
    rw [form?, Option.some_inj, Form.number.injEq, ← hwhole]
    cases h : y.toInt? <;> simp [sameKey, same, toInt?, h, eq_comm]
  | _ => simp [sameKey, same, form?, toInt?]

/-- **To be one key is to have one form.** -/
theorem sameKey_iff_right (h : l.form? = some f) : k.sameKey l = true ↔ k.form? = some f := by
  cases l with
  | bool b =>
    cases h
    rw [sameKey_eq_same, same_bool_iff, toInt?_eq_some_iff]
    exact nofun
  | int i =>
    cases h
    rw [sameKey_eq_same, same_int_iff, toInt?_eq_some_iff]
    exact nofun
  | float y =>
    cases h
    exact sameKey_float_iff
  | null | text | bytes | date | moment =>
    cases h
    rw [sameKey_eq_same]
    · cases k <;> simp [same, form?, toInt?]
    · exact nofun
  | list | map | set | pair | loop | again => cases h

theorem sameKey_iff_left (h : k.form? = some f) : k.sameKey l = true ↔ l.form? = some f := by
  cases hl : l.form? with
  | some g => rw [sameKey_iff_right hl, h, Option.some_inj, Option.some_inj, eq_comm]
  | none =>
    cases l with
    | list | map | set | pair | loop | again => cases k <;> simp [sameKey, same, toInt?, form?] at h ⊢
    | _ => cases hl

/-- The value may be a key. -/
def IsKey (k : Value) : Prop := k.form?.isSome

instance : DecidablePred IsKey := fun k => inferInstanceAs (Decidable (k.form?.isSome = true))

theorem isKey_text (t : Text) : IsKey (.text t) := rfl

namespace IsKey

variable {key : Value}

theorem sameKey_self (hk : k.IsKey) : k.sameKey k = true := by
  obtain ⟨f, hf⟩ := Option.isSome_iff_exists.1 hk
  exact (sameKey_iff_right hf).2 hf

/-- What is one key with a key is it in every respect. -/
theorem sameKey_congr (hk : k.IsKey) (h : l.sameKey k = true) :
    l.sameKey key = k.sameKey key := by
  obtain ⟨f, hf⟩ := Option.isSome_iff_exists.1 hk
  rw [Bool.eq_iff_iff, sameKey_iff_left hf, sameKey_iff_left ((sameKey_iff_right hf).1 h)]

theorem sameKey_congr_right (hk : k.IsKey) (h : k.sameKey key = true) (l : Value) :
    l.sameKey key = l.sameKey k := by
  obtain ⟨f, hf⟩ := Option.isSome_iff_exists.1 hk
  rw [Bool.eq_iff_iff, sameKey_iff_right hf, sameKey_iff_right ((sameKey_iff_left hf).1 h)]

/-- Two that are one key with a third are one. -/
theorem sameKey_of_both (hk : k.IsKey) (hl : l.sameKey key = true) (h : k.sameKey key = true) :
    l.sameKey k = true := by
  obtain ⟨f, hf⟩ := Option.isSome_iff_exists.1 hk
  have hkey := (sameKey_iff_left hf).1 h
  exact (sameKey_iff_right hf).2 ((sameKey_iff_right hkey).1 hl)

end IsKey

end Value
end Localize
