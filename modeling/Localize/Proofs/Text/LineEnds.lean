import Localize.Proofs.Text.Marks

/-!
# Line ends

Texts come with line feeds or with carriage returns before them.  `crlf` goes from the first to the
second.  It makes one code point into two, so every place behind a line end moves, but no mark holds
either of the two: what is found in a text is found in the text with other line ends.

* `after?_crlf`, `breakOn_crlf`, `splitOn_crlf` — looking for a mark commutes with the change.
-/

set_option autoImplicit false

namespace Localize
namespace Text

/-- The text with a carriage return before every line feed. -/
def crlf (t : Text) : Text := replace (ofChars ['\n']) (ofChars ['\r', '\n']) t

/-! ## Code point by code point -/

/-- What becomes of one code point. -/
def crlfOne (c : CodePoint) : Text := if c = '\n' then ofChars ['\r', '\n'] else [c]

theorem crlf_eq_flatMap (t : Text) : crlf t = t.flatMap crlfOne :=
  replace_singleton (CodePoint.ofChar '\n') (ofChars ['\r', '\n']) t

@[simp] theorem crlf_nil : crlf [] = [] := rfl

theorem crlf_append (a b : Text) : crlf (a ++ b) = crlf a ++ crlf b := by
  rw [crlf_eq_flatMap, crlf_eq_flatMap, crlf_eq_flatMap, List.flatMap_append]

theorem crlf_lf_cons (t : Text) :
    crlf (CodePoint.ofChar '\n' :: t)
      = CodePoint.ofChar '\r' :: CodePoint.ofChar '\n' :: crlf t := by
  rw [crlf_eq_flatMap, crlf_eq_flatMap, List.flatMap_cons]
  rfl

theorem crlfOne_of_ne {c : CodePoint} (hc : c ≠ CodePoint.ofChar '\n') : crlfOne c = [c] :=
  if_neg hc

theorem crlf_cons_of_ne {c : CodePoint} (hc : c ≠ CodePoint.ofChar '\n') (t : Text) :
    crlf (c :: t) = c :: crlf t := by
  rw [crlf_eq_flatMap, crlf_eq_flatMap, List.flatMap_cons, crlfOne_of_ne hc]
  rfl

@[simp] theorem crlf_eq_nil_iff {t : Text} : crlf t = [] ↔ t = [] := by
  cases t with
  | nil => simp
  | cons c t =>
    by_cases hc : c = CodePoint.ofChar '\n'
    · subst hc
      simp [crlf_lf_cons]
    · simp [crlf_cons_of_ne hc]

/-! ## Looking for a mark -/

section

variable {mark : Text} (hlf : CodePoint.ofChar '\n' ∉ mark) (hcr : CodePoint.ofChar '\r' ∉ mark)

include hlf hcr

/-- **A mark at the start** is still there, and what follows it has the other line ends. -/
theorem after?_crlf (t : Text) : after? mark (crlf t) = (after? mark t).map crlf := by
  induction mark generalizing t with
  | nil => rfl
  | cons m mark ih =>
    rw [List.mem_cons, not_or] at hlf hcr
    cases t with
    | nil => rfl
    | cons c t =>
      by_cases hc : c = CodePoint.ofChar '\n'
      · subst hc
        rw [crlf_lf_cons, after?, after?, if_neg (Ne.symm hcr.1), if_neg (Ne.symm hlf.1)]
        rfl
      · rw [crlf_cons_of_ne hc, after?, after?]
        split
        · exact ih hlf.2 hcr.2 t
        · rfl

/-- **The first occurrence of a mark** is still the first. -/
theorem breakOn_crlf (hmark : mark ≠ []) (t : Text) :
    breakOn mark (crlf t) = (breakOn mark t).map (Prod.map crlf crlf) := by
  induction t with
  | nil => rw [crlf_nil, breakOn, if_neg hmark]; rfl
  | cons c t ih =>
    by_cases hc : c = CodePoint.ofChar '\n'
    · subst hc
      rw [crlf_lf_cons, breakOn_cons_of_not_mem hmark hcr, breakOn_cons_of_not_mem hmark hlf,
        breakOn_cons_of_not_mem hmark hlf, ih, Option.map_map, Option.map_map, Option.map_map]
      congr 1
      funext x
      exact Prod.ext (crlf_lf_cons x.1).symm rfl
    · have hafter := after?_crlf hlf hcr (c :: t)
      rw [crlf_cons_of_ne hc] at hafter ⊢
      cases hstart : after? mark (c :: t) with
      | some rest =>
        rw [hstart, Option.map_some] at hafter
        rw [breakOn, hafter, breakOn, hstart]
        rfl
      | none =>
        rw [hstart, Option.map_none] at hafter
        rw [breakOn_cons_of_none hafter, breakOn_cons_of_none hstart, ih, Option.map_map,
          Option.map_map]
        congr 1
        funext x
        exact Prod.ext (crlf_cons_of_ne hc x.1).symm rfl

end

/-! ## Cutting -/

/-- Cutting at a repeated mark is cutting at the first one, and cutting the rest. -/
theorem splitOn_eq_breakOn {m : CodePoint} {n : Nat} (hn : n ≠ 0) (t : Text) :
    splitOn (List.replicate n m) t = match breakOn (List.replicate n m) t with
      | none => [t]
      | some (a, b) => a :: splitOn (List.replicate n m) b := by
  cases hbreak : breakOn (List.replicate n m) t with
  | none => exact splitOn_of_absent (breakOn_eq_none_iff.1 hbreak)
  | some cut =>
    obtain ⟨a, b⟩ := cut
    rw [breakOn_eq_some hbreak, splitOn_append (by simpa using hn) (clear_of_breakOn hn hbreak)]

/-- **Cutting at a mark** gives the stretches with the other line ends. -/
theorem splitOn_crlf {m : CodePoint} {n : Nat} (hn : n ≠ 0) (hlf : m ≠ CodePoint.ofChar '\n')
    (hcr : m ≠ CodePoint.ofChar '\r') (t : Text) :
    splitOn (List.replicate n m) (crlf t) = (splitOn (List.replicate n m) t).map crlf := by
  have hlf' : CodePoint.ofChar '\n' ∉ List.replicate n m := fun h =>
    hlf (List.eq_of_mem_replicate h).symm
  have hcr' : CodePoint.ofChar '\r' ∉ List.replicate n m := fun h =>
    hcr (List.eq_of_mem_replicate h).symm
  have hmark : List.replicate n m ≠ [] := by simpa using hn
  induction hlen : t.length using Nat.strongRecOn generalizing t with
  | ind k ih =>
    subst hlen
    rw [splitOn_eq_breakOn hn, splitOn_eq_breakOn hn t, breakOn_crlf hlf' hcr' hmark]
    cases hbreak : breakOn (List.replicate n m) t with
    | none => rfl
    | some cut =>
      obtain ⟨a, b⟩ := cut
      have hshort : b.length < t.length := by
        rw [breakOn_eq_some hbreak]
        simp only [List.length_append, List.length_replicate]
        omega
      show crlf a :: splitOn (List.replicate n m) (crlf b) = _
      rw [ih b.length hshort b rfl, List.map_cons]

end Text
end Localize
