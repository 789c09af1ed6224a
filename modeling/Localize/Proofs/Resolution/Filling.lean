import Localize.Proofs.Resolution.Templates

/-!
# Templates that are filled

Every template falls into stretches in one way only (`CutInto.unique`): a percent sign with digits
behind it has to be a placeholder, and its digits have to be all of them.  So what comes of a
template can be told stretch by stretch (`format_eq`).  If a placeholder has too many digits, the
first such placeholder is what the template is refused for.  Otherwise each placeholder gives way to
its argument, and all else stays as it is written.

That the stretches are those of the template, and not of what has become of it, is what makes the
substitution simultaneous: no argument is searched for placeholders, alone or together with what
stands next to it.
-/

set_option autoImplicit false

namespace Localize
namespace Placeholder

variable {args : List Text} {t : Text} {ss : List Stretch}

/-! ## One way to cut -/

theorem startsWithDigit_append {digits : Text} (hne : digits ≠ [])
    (hdigits : ∀ d ∈ digits, d.isDecimal = true) (rest : Text) :
    StartsWithDigit (digits ++ rest) := by
  obtain ⟨d, more, rfl⟩ := List.exists_cons_of_ne_nil hne
  exact ⟨d, rfl, hdigits d List.mem_cons_self⟩

/-- **A template is cut in one way only.** -/
theorem CutInto.unique {ss' : List Stretch} (h : CutInto t ss) (h' : CutInto t ss') : ss' = ss := by
  induction h generalizing ss' with
  | nil =>
    cases h'
    rfl
  | @literal c t ss hc _ ih =>
    generalize htext : c :: t = text at h'
    cases h' with
    | nil => cases htext
    | literal _ h' =>
      cases htext
      rw [ih h']
    | placeholder hne hdigits =>
      cases htext
      exact absurd ⟨rfl, startsWithDigit_append hne hdigits _⟩ hc
  | @placeholder digits rest ss hne hdigits hrest _ ih =>
    generalize htext : CodePoint.ofChar '%' :: (digits ++ rest) = text at h'
    cases h' with
    | nil => cases htext
    | literal hc =>
      cases htext
      exact absurd ⟨rfl, startsWithDigit_append hne hdigits rest⟩ hc
    | @placeholder digits' rest' ss' _ hdigits' hrest' h' =>
      -- both runs of digits are all the digits behind the percent sign
      have hsame : digits ++ rest = digits' ++ rest' := (List.cons.inj htext).2
      have hrun : digits = digits' := by
        rw [← takeWhile_isDecimal_append hdigits hrest, hsame,
          takeWhile_isDecimal_append hdigits' hrest']
      subst hrun
      obtain rfl := List.append_cancel_left hsame
      rw [ih h']

/-! ## What comes of the stretches -/

/-- The digits of a placeholder that has too many of them. -/
def Stretch.oversized? : Stretch → Option Text
  | .literal _ => none
  | .placeholder digits => if maxDigits < digits.length then some digits else none

/-- What takes the place of a stretch: the argument whose number a placeholder tells, if there is
one, and otherwise the stretch as it is written. -/
def Stretch.replacement (args : List Text) : Stretch → Text
  | .literal c => [c]
  | .placeholder digits =>
    if h : Text.decimalValue digits < args.length then args[Text.decimalValue digits]
    else Stretch.source (.placeholder digits)

theorem fillStretch_of_oversized {s : Stretch} {digits : Text} (h : s.oversized? = some digits) :
    fillStretch args s = .error ⟨digits.length⟩ := by
  cases s with
  | literal c => cases h
  | placeholder digits' =>
    rw [Stretch.oversized?] at h
    split at h
    · rename_i hlong
      cases h
      rw [fillStretch, fill, if_pos hlong]
    · cases h

theorem fillStretch_of_not_oversized {s : Stretch} (h : s.oversized? = none) :
    fillStretch args s = .ok (s.replacement args) := by
  cases s with
  | literal c => rfl
  | placeholder digits =>
    rw [Stretch.oversized?] at h
    split at h
    · cases h
    · rename_i hshort
      rw [fillStretch, fill, if_neg hshort, Stretch.replacement]
      by_cases hin : Text.decimalValue digits < args.length
      · rw [dif_pos hin, List.getElem?_eq_getElem hin, Option.getD_some]
      · rw [dif_neg hin, List.getElem?_eq_none (Nat.not_lt.1 hin), Option.getD_none]
        rfl

/-- **Stretches are filled each on its own**, unless a placeholder among them has too many digits;
then the first one that has stops it. -/
theorem fillStretches_eq (args : List Text) (ss : List Stretch) :
    fillStretches args ss =
      match ss.findSome? Stretch.oversized? with
      | some digits => .error ⟨digits.length⟩
      | none => .ok (ss.flatMap (Stretch.replacement args)) := by
  induction ss with
  | nil => rfl
  | cons s ss ih =>
    rw [fillStretches_cons, List.findSome?_cons]
    cases hs : s.oversized? with
    | some digits =>
      rw [fillStretch_of_oversized hs]
      rfl
    | none =>
      rw [fillStretch_of_not_oversized hs, ih]
      cases ss.findSome? Stretch.oversized? <;> rfl

/-! ## Templates -/

/-- **What comes of a template.**  It falls into stretches in one way.  Without arguments it stays
as it is.  With arguments, the first placeholder with too many digits is what it is refused for; if
there is none, each placeholder gives way to the argument it tells, and the rest is copied. -/
theorem format_eq (template : Text) (args : List Text) :
    ∃ ss, CutInto template ss ∧ (∀ ss', CutInto template ss' → ss' = ss) ∧
      format template args =
        if args = [] then .ok template
        else
          match ss.findSome? Stretch.oversized? with
          | some digits => .error ⟨digits.length⟩
          | none => .ok (ss.flatMap (Stretch.replacement args)) := by
  obtain ⟨ss, hss⟩ := exists_cutInto template
  refine ⟨ss, hss, fun ss' hss' => hss.unique hss', ?_⟩
  by_cases hargs : args = []
  · rw [if_pos hargs, format, if_pos hargs]
  · rw [if_neg hargs, format_of_cutInto hss hargs, fillStretches_eq]

/-- Of two placeholders side by side, the second tells of an argument that would make a placeholder
with the end of the first one's. -/
theorem format_eq_side_by_side :
    CutInto (Text.ofChars ['%', '0', '%', '0', '1'])
      [.placeholder (Text.ofChars ['0']), .placeholder (Text.ofChars ['0', '1'])] ∧
    format (Text.ofChars ['%', '0', '%', '0', '1']) [Text.ofChars ['a', '%'], Text.ofChars ['0']]
      = .ok (Text.ofChars ['a', '%', '0']) := by
  have hcut : CutInto (Text.ofChars ['%', '0', '%', '0', '1'])
      [.placeholder (Text.ofChars ['0']), .placeholder (Text.ofChars ['0', '1'])] :=
    @CutInto.placeholder (Text.ofChars ['0']) _ _ (by decide) (List.all_eq_true.1 (by decide))
      (takeWhile_isDecimal_eq_nil_iff.1 (by decide))
      (@CutInto.placeholder (Text.ofChars ['0', '1']) [] _ (by decide)
        (List.all_eq_true.1 (by decide)) (takeWhile_isDecimal_eq_nil_iff.1 (by decide)) .nil)
  obtain ⟨ss, -, hunique, hformat⟩ :=
    format_eq (Text.ofChars ['%', '0', '%', '0', '1']) [Text.ofChars ['a', '%'], Text.ofChars ['0']]
  obtain rfl := hunique _ hcut
  exact ⟨hcut, hformat.trans rfl⟩

end Placeholder
end Localize
