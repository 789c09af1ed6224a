import Localize.Json.Printer
import Localize.Json.Reader

/-!
# Strings read back

No code point can break out of a string: however it is shown between the quotes, it is read as
itself and the reader stands behind it (`stringTail_stringOne`).  So a string is read up to the quote
that closes it, and as the text that it was written from (`stringTail_flatMap`).
-/

set_option autoImplicit false

namespace Localize
namespace Json

variable {c : CodePoint} {t rest : Text} {fuel : Nat}

/-- The number of a control is read as its number. -/
theorem stringTail_escapeUnits (hc : c.val < 0x20) (fuel : Nat) (rest : Text) :
    stringTail (fuel + 1) (escapeUnits c ++ rest) = consTo c <$> stringTail fuel rest := by
  have hdigits : ∀ n < 0x20, Text.hex 4 n
        = [0x30, 0x30, CodePoint.ofHexDigit (n / 16), CodePoint.ofHexDigit (n % 16)] ∧
      unit? [0x30, 0x30, CodePoint.ofHexDigit (n / 16), CodePoint.ofHexDigit (n % 16)] = some n := by
    decide
  obtain ⟨hwritten, hunit⟩ := hdigits c.val hc
  rw [escapeUnits, if_pos (Nat.lt_of_lt_of_le hc (by decide)), hwritten]
  show stringTail (fuel + 1) (0x5C :: 0x75 :: _ :: _ :: _ :: _ :: rest) = _
  rw [stringTail, hunit, Option.bind_eq_bind, Option.bind_some]
  dsimp only
  split
  · -- a control is not the first half of a surrogate pair
    rename_i hlow
    split at hlow
    · obtain ⟨low, -, hpair⟩ := Option.bind_eq_some_iff.1 hlow
      rw [if_neg (by omega)] at hpair
      cases hpair
    · cases hlow
  · rw [show CodePoint.ofNat c.val = c from Fin.ofNat_val_eq_self c]

/-- **A code point is read as itself**, however it is shown. -/
theorem stringTail_stringOne (c : CodePoint) (fuel : Nat) (rest : Text) :
    stringTail (fuel + 1) (stringOne false c ++ rest) = consTo c <$> stringTail fuel rest := by
  rw [stringOne]
  split
  · subst c; rfl
  split
  · subst c; rfl
  split
  · subst c; rfl
  split
  · subst c; rfl
  split
  · subst c; rfl
  split
  · rename_i hc
    obtain rfl : c = 0x08 := Fin.ext hc
    rfl
  split
  · rename_i hc
    obtain rfl : c = 0x0C := Fin.ext hc
    rfl
  split
  · rename_i hc
    exact stringTail_escapeUnits (hc.resolve_right fun h => Bool.false_ne_true h.1) fuel rest
  · rename_i hquote hback _ _ _ _ _ hc
    rw [List.singleton_append, stringTail, if_neg fun h => hc (Or.inl h)]
    · exact fun h => hback h
    · exact fun h => hquote h

/-- Every code point is shown by one at least. -/
theorem length_le_length_flatMap (t : Text) :
    t.length ≤ (t.flatMap (stringOne false)).length := by
  -- if nothing were shown, the closing quote would be read as a code point
  have hone : ∀ c, stringOne false c ≠ [] := by
    intro c hnil
    have hread := stringTail_stringOne c 0 [0x22]
    rw [hnil] at hread
    cases hread
  induction t with
  | nil => exact Nat.le_refl 0
  | cons c t ih =>
    have hpos := List.length_pos_iff.2 (hone c)
    rw [List.flatMap_cons, List.length_append, List.length_cons]
    omega

/-- **A string is read up to its closing quote.** -/
theorem stringTail_flatMap (h : t.length < fuel) (rest : Text) :
    stringTail fuel (t.flatMap (stringOne false) ++ 0x22 :: rest) = some (t, rest) := by
  induction t generalizing fuel with
  | nil =>
    obtain ⟨fuel, rfl⟩ := Nat.exists_eq_succ_of_ne_zero (Nat.ne_of_gt h)
    rfl
  | cons c t ih =>
    obtain ⟨fuel, rfl⟩ := Nat.exists_eq_succ_of_ne_zero (Nat.ne_zero_of_lt h)
    rw [List.flatMap_cons, List.append_assoc, stringTail_stringOne, ih (Nat.lt_of_succ_lt_succ h)]
    rfl

end Json
end Localize
