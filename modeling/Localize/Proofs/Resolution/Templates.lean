import Localize.Resolution.Placeholder

/-!
# Templates as stretches

A template is a list of literal code points and placeholders.  Cutting it is not quite free: the
digits of a placeholder are *all* the digits that follow the percent sign, so what stands behind a
placeholder does not begin with a digit, and a percent sign that is literal has no digit behind it.
`CutInto` says this of a text and a list of stretches.

* `exists_cutInto` — every text can be cut.
* `CutInto.source_eq` — the stretches, written one after the other, are the text.
* `fillFrom_of_cutInto` — filling a template is filling its stretches, one after the other.
* `Inert`, `CutInto.flatMap` — a way to write code points that makes and breaks no placeholder.
* `format_flatMap`, `format_const_congr` — such a way commutes with filling, and whether a template
  can be filled does not hang on what the arguments are.
-/

set_option autoImplicit false

namespace Localize
namespace Placeholder

/-- A stretch of a template: a code point that is copied, or a placeholder with its digits. -/
inductive Stretch
  | literal (c : CodePoint)
  | placeholder (digits : Text)
deriving DecidableEq, Repr

/-- The text of a stretch, as it stands in the template. -/
def Stretch.source : Stretch → Text
  | .literal c => [c]
  | .placeholder digits => '%' :: digits

/-- The text begins with a digit. -/
def StartsWithDigit (t : Text) : Prop := ∃ d ∈ t.head?, d.isDecimal = true

/-- How a template falls into stretches. -/
inductive CutInto : Text → List Stretch → Prop
  | nil : CutInto [] []
  | literal {c : CodePoint} {t : Text} {ss : List Stretch}
      (hc : ¬ (c = '%' ∧ StartsWithDigit t)) (h : CutInto t ss) :
      CutInto (c :: t) (.literal c :: ss)
  | placeholder {digits rest : Text} {ss : List Stretch} (hne : digits ≠ [])
      (hdigits : ∀ d ∈ digits, d.isDecimal = true) (hrest : ¬ StartsWithDigit rest)
      (h : CutInto rest ss) : CutInto ('%' :: (digits ++ rest)) (.placeholder digits :: ss)

/-! ## Digits at the start of a text -/

theorem takeWhile_isDecimal_eq_nil_iff {t : Text} :
    t.takeWhile CodePoint.isDecimal = [] ↔ ¬ StartsWithDigit t := by
  cases t with
  | nil => simp [StartsWithDigit]
  | cons c t => cases hc : c.isDecimal <;> simp [StartsWithDigit, hc]

/-- The digits before a text that begins with none are all the digits. -/
theorem takeWhile_isDecimal_append {digits rest : Text}
    (hdigits : ∀ d ∈ digits, d.isDecimal = true) (hrest : ¬ StartsWithDigit rest) :
    (digits ++ rest).takeWhile CodePoint.isDecimal = digits := by
  rw [List.takeWhile_append_of_pos hdigits, takeWhile_isDecimal_eq_nil_iff.2 hrest,
    List.append_nil]

theorem not_startsWithDigit_dropWhile (t : Text) :
    ¬ StartsWithDigit (t.dropWhile CodePoint.isDecimal) := by
  rintro ⟨d, hd, hdigit⟩
  have hnot := List.head?_dropWhile_not CodePoint.isDecimal t
  rw [Option.mem_def.1 hd] at hnot
  simp [hdigit] at hnot

/-! ## Cutting -/

/-- **Every template can be cut.** -/
theorem exists_cutInto (t : Text) : ∃ ss, CutInto t ss := by
  induction hn : t.length using Nat.strongRecOn generalizing t with
  | ind n ih =>
    subst hn
    cases t with
    | nil => exact ⟨[], .nil⟩
    | cons c t =>
      by_cases hc : c = '%' ∧ StartsWithDigit t
      · obtain ⟨rfl, hstart⟩ := hc
        have hlen : (t.dropWhile CodePoint.isDecimal).length < (CodePoint.ofChar '%' :: t).length :=
          Nat.lt_succ_of_le (List.dropWhile_suffix _).length_le
        obtain ⟨ss, hss⟩ := ih _ hlen _ rfl
        have hcut := CutInto.placeholder
          (fun h => takeWhile_isDecimal_eq_nil_iff.1 h hstart)
          (List.all_eq_true.1 List.all_takeWhile) (not_startsWithDigit_dropWhile t) hss
        rw [List.takeWhile_append_dropWhile] at hcut
        exact ⟨_, hcut⟩
      · obtain ⟨ss, hss⟩ := ih t.length (by simp) t rfl
        exact ⟨_, .literal hc hss⟩

/-- The stretches of a template, written one after the other, are the template. -/
theorem CutInto.source_eq {t : Text} {ss : List Stretch} (h : CutInto t ss) :
    ss.flatMap Stretch.source = t := by
  induction h with
  | nil => rfl
  | literal _ _ ih => rw [List.flatMap_cons, ih]; rfl
  | placeholder _ _ _ _ ih => rw [List.flatMap_cons, ih]; rfl

/-! ## Filling stretch by stretch -/

/-- The text a stretch becomes. -/
def fillStretch (args : List Text) : Stretch → Except OversizedPlaceholder Text
  | .literal c => .ok [c]
  | .placeholder digits => fill args digits

/-- The texts stretches become, joined. -/
def fillStretches (args : List Text) : List Stretch → Except OversizedPlaceholder Text
  | [] => .ok []
  | s :: ss => do
    let first ← fillStretch args s
    let others ← fillStretches args ss
    return first ++ others

variable {args : List Text}

theorem fillStretches_cons (s : Stretch) (ss : List Stretch) :
    fillStretches args (s :: ss)
      = (do return (← fillStretch args s) ++ (← fillStretches args ss)) := rfl

theorem fillStretches_literal_cons (c : CodePoint) (ss : List Stretch) :
    fillStretches args (.literal c :: ss) = (c :: ·) <$> fillStretches args ss := by
  rw [fillStretches_cons]
  cases fillStretches args ss <;> rfl

/-- A run of literals is copied. -/
theorem fillStretches_map_literal_append (t : Text) (ss : List Stretch) :
    fillStretches args (t.map .literal ++ ss) = (t ++ ·) <$> fillStretches args ss := by
  induction t with
  | nil => cases h : fillStretches args ss <;> simp [h]
  | cons c t ih =>
    rw [List.map_cons, List.cons_append, fillStretches_literal_cons, ih]
    cases fillStretches args ss <;> rfl

theorem fillFrom_eq_fillFrom_drop (skip : Nat) (t : Text) :
    fillFrom args skip t = fillFrom args 0 (t.drop skip) := by
  induction t generalizing skip with
  | nil => cases skip <;> rfl
  | cons c t ih =>
    cases skip with
    | zero => rfl
    | succ skip => rw [fillFrom, ih, List.drop_succ_cons]

/-- **Filling a template is filling its stretches.** -/
theorem fillFrom_of_cutInto {t : Text} {ss : List Stretch} (h : CutInto t ss) :
    fillFrom args 0 t = fillStretches args ss := by
  induction h with
  | nil => rfl
  | @literal c t ss hc _ ih =>
    have hcond : ¬ (c = '%' ∧ t.takeWhile CodePoint.isDecimal ≠ []) :=
      fun h => hc ⟨h.1, Classical.not_not.1 fun hs => h.2 (takeWhile_isDecimal_eq_nil_iff.2 hs)⟩
    rw [fillFrom, if_neg hcond, ih, fillStretches_literal_cons]
    cases fillStretches args ss <;> rfl
  | @placeholder digits rest ss hne hdigits hrest _ ih =>
    rw [fillFrom, takeWhile_isDecimal_append hdigits hrest, if_pos ⟨rfl, hne⟩,
      fillFrom_eq_fillFrom_drop, List.drop_left, ih]
    rfl

theorem format_of_cutInto {t : Text} {ss : List Stretch} (h : CutInto t ss) (hargs : args ≠ []) :
    format t args = fillStretches args ss := by
  rw [format, if_neg hargs, fillFrom_of_cutInto h]

/-! ## Refusals -/

/-- What a stretch is refused for is not in the arguments. -/
theorem fillStretch_const_congr {α : Type} (a : α) (args args' : List Text) (s : Stretch) :
    (fun _ => a) <$> fillStretch args s = (fun _ => a) <$> fillStretch args' s := by
  cases s with
  | literal c => rfl
  | placeholder digits =>
    rw [fillStretch, fillStretch, fill, fill]
    split <;> rfl

theorem fillStretches_const_congr {α : Type} (a : α) (args args' : List Text) (ss : List Stretch) :
    (fun _ => a) <$> fillStretches args ss = (fun _ => a) <$> fillStretches args' ss := by
  induction ss with
  | nil => rfl
  | cons s ss ih =>
    have hfirst := fillStretch_const_congr a args args' s
    rw [fillStretches_cons, fillStretches_cons]
    generalize fillStretch args s = x at hfirst ⊢
    generalize fillStretch args' s = x' at hfirst ⊢
    generalize fillStretches args ss = y at ih ⊢
    generalize fillStretches args' ss = y' at ih ⊢
    cases x <;> cases x' <;> cases hfirst
    · rfl
    · cases y <;> cases y' <;> cases ih <;> rfl

/-- **Whether a template can be filled**, and how it is refused, is a matter of the template and of
whether there are arguments. -/
theorem format_const_congr {α : Type} (a : α) {args' : List Text} (h : args = [] ↔ args' = [])
    (t : Text) : (fun _ => a) <$> format t args = (fun _ => a) <$> format t args' := by
  by_cases hargs : args = []
  · rw [hargs, h.1 hargs]
  · obtain ⟨ss, hss⟩ := exists_cutInto t
    rw [format_of_cutInto hss hargs, format_of_cutInto hss (mt h.2 hargs)]
    exact fillStretches_const_congr a args args' ss

/-! ## Writing code points otherwise -/

/-- A way to write code points that makes and breaks no placeholder: the percent sign and the digits
stay as they are, no other code point is written with a percent sign, and none begins with a digit
that was none. -/
structure Inert (f : CodePoint → Text) : Prop where
  percent : f '%' = [CodePoint.ofChar '%']
  digit : ∀ c, c.isDecimal = true → f c = [c]
  no_percent : ∀ c : CodePoint, c ≠ '%' → CodePoint.ofChar '%' ∉ f c
  no_digit : ∀ c, c.isDecimal = false → ∃ d rest, f c = d :: rest ∧ d.isDecimal = false

variable {f : CodePoint → Text}

/-- The first digit of a text is that of the text written otherwise. -/
theorem startsWithDigit_flatMap (hf : Inert f) {t : Text} :
    StartsWithDigit (t.flatMap f) ↔ StartsWithDigit t := by
  cases t with
  | nil => rfl
  | cons c t =>
    rw [List.flatMap_cons]
    cases hc : c.isDecimal with
    | true =>
      rw [hf.digit c hc]
      rfl
    | false =>
      obtain ⟨d, rest, hd, hdigit⟩ := hf.no_digit c hc
      rw [hd]
      simp [StartsWithDigit, hc, hdigit]

theorem flatMap_of_isDecimal (hf : Inert f) {digits : Text}
    (h : ∀ d ∈ digits, d.isDecimal = true) : digits.flatMap f = digits := by
  induction digits with
  | nil => rfl
  | cons d digits ih =>
    rw [List.forall_mem_cons] at h
    rw [List.flatMap_cons, hf.digit d h.1, ih h.2]
    rfl

/-- The stretches of a stretch whose code points are written otherwise. -/
def Stretch.subst (f : CodePoint → Text) : Stretch → List Stretch
  | .literal c => (f c).map .literal
  | .placeholder digits => [.placeholder digits]

theorem CutInto.map_literal_append {a t : Text} {ss : List Stretch}
    (ha : CodePoint.ofChar '%' ∉ a) (h : CutInto t ss) :
    CutInto (a ++ t) (a.map .literal ++ ss) := by
  induction a with
  | nil => exact h
  | cons c a ih =>
    rw [List.mem_cons, not_or] at ha
    exact .literal (fun hc => ha.1 hc.1.symm) (ih ha.2)

/-- **A template whose code points are written otherwise is cut where the template is.** -/
theorem CutInto.flatMap (hf : Inert f) {t : Text} {ss : List Stretch} (h : CutInto t ss) :
    CutInto (t.flatMap f) (ss.flatMap (Stretch.subst f)) := by
  induction h with
  | nil => exact .nil
  | @literal c t ss hc _ ih =>
    rw [List.flatMap_cons, List.flatMap_cons, Stretch.subst]
    by_cases hpercent : c = '%'
    · have hnext : ¬ (c = '%' ∧ StartsWithDigit (t.flatMap f)) := by
        rwa [startsWithDigit_flatMap hf]
      subst hpercent
      rw [hf.percent]
      exact .literal hnext ih
    · exact .map_literal_append (hf.no_percent c hpercent) ih
  | @placeholder digits rest ss hne hdigits hrest _ ih =>
    rw [List.flatMap_cons, hf.percent, List.flatMap_append, flatMap_of_isDecimal hf hdigits]
    exact .placeholder hne hdigits (by rwa [startsWithDigit_flatMap hf]) ih

theorem fillStretches_subst (hf : Inert f) {t : Text} {ss : List Stretch} (h : CutInto t ss) :
    fillStretches (args.map (List.flatMap f)) (ss.flatMap (Stretch.subst f))
      = List.flatMap f <$> fillStretches args ss := by
  induction h with
  | nil => rfl
  | @literal c t ss _ _ ih =>
    rw [List.flatMap_cons, Stretch.subst, fillStretches_map_literal_append, ih,
      fillStretches_literal_cons]
    cases fillStretches args ss <;> rfl
  | @placeholder digits rest ss _ hdigits _ _ ih =>
    have hfill : fill (args.map (List.flatMap f)) digits = List.flatMap f <$> fill args digits := by
      rw [fill, fill]
      split
      · rfl
      · rw [List.getElem?_map]
        cases args[Text.decimalValue digits]? with
        | some a => rfl
        | none =>
          have hsource : List.flatMap f (CodePoint.ofChar '%' :: digits)
              = CodePoint.ofChar '%' :: digits := by
            rw [List.flatMap_cons, hf.percent, flatMap_of_isDecimal hf hdigits]
            rfl
          exact congrArg Except.ok hsource.symm
    rw [List.flatMap_cons, Stretch.subst, List.singleton_append, fillStretches_cons,
      fillStretches_cons, ih, fillStretch, fillStretch, hfill]
    cases fill args digits with
    | error e => rfl
    | ok a =>
      cases fillStretches args ss with
      | error e => rfl
      | ok b => exact congrArg Except.ok List.flatMap_append.symm

/-- **Writing code points otherwise commutes with filling a template.** -/
theorem format_flatMap (hf : Inert f) (t : Text) (args : List Text) :
    format (t.flatMap f) (args.map (List.flatMap f)) = List.flatMap f <$> format t args := by
  cases args with
  | nil => rfl
  | cons a args =>
    obtain ⟨ss, hss⟩ := exists_cutInto t
    rw [format_of_cutInto (hss.flatMap hf) (by simp), format_of_cutInto hss (by simp)]
    exact fillStretches_subst hf hss

end Placeholder
end Localize
