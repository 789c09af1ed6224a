import Localize.Proofs.Nugget.LineEnds

/-!
# Keys of keys

The key of a text is read in one pass, so what the pass leaves can be a line end again: of a line
feed behind two carriage returns it takes the second one away, and the first one then stands right
before the line feed.  This file says when that happens.

* `keyOf_eq_self_iff` — a text is its own key if it holds no line end of two code points.
* `crlf_infix_keyOf_iff` — the key holds such a line end if the text holds it with one carriage
  return more in front.
* `keyOf_keyOf_eq_iff` — so taking keys twice is taking them once, but for such texts.
-/

set_option autoImplicit false

namespace Localize
namespace Nugget

variable {t : Text}

/-- The line end of two code points. -/
def lineEnd : Text := [CodePoint.ofChar '\r', CodePoint.ofChar '\n']

/-- A line end of two code points with a carriage return in front. -/
def doubledReturn : Text := CodePoint.ofChar '\r' :: lineEnd

/-- Joined by line feeds, what stands between line ends is the key. -/
theorem join_splitFrom_lineEnd (acc t : Text) :
    Text.join [CodePoint.ofChar '\n'] (Text.splitFrom lineEnd 0 acc t) = acc.reverse ++ keyOf t := by
  fun_induction keyOf t generalizing acc with
  | case1 t ih =>
    have hcut : Text.splitFrom lineEnd 0 acc ([] ++ lineEnd ++ t)
        = (acc.reverse ++ []) :: Text.splitFrom lineEnd 0 [] t :=
      Text.splitFrom_append (List.cons_ne_nil _ _) Text.clear_nil
    show Text.join _ (Text.splitFrom lineEnd 0 acc ([] ++ lineEnd ++ t)) = _
    rw [hcut, Text.join_cons_of_ne_nil _ (Text.splitFrom_ne_nil _ _ _ _), ih, List.append_nil,
      List.append_assoc]
    rfl
  | case2 c t hne ih =>
    have hplain : ¬ Text.startsWith lineEnd (c :: t) = true := by
      rw [Text.startsWith_iff]
      rintro ⟨rest, heq⟩
      obtain ⟨rfl, rfl⟩ := List.cons.inj heq
      exact hne rest rfl rfl
    rw [Text.splitFrom, if_neg hplain, ih, List.reverse_cons, List.append_assoc]
    rfl
  | case3 => exact (List.append_nil _).symm

/-- **The key of a text is the text with single line feeds for its line ends.** -/
theorem keyOf_eq_replace (t : Text) :
    keyOf t = Text.replace lineEnd [CodePoint.ofChar '\n'] t :=
  (join_splitFrom_lineEnd [] t).symm

/-- **A text is its own key if it holds no line end of two code points.** -/
theorem keyOf_eq_self_iff : keyOf t = t ↔ ¬ lineEnd <:+: t := by
  refine ⟨fun h => ?_, keyOf_of_no_crlf⟩
  fun_induction keyOf t with
  | case1 t ih =>
    -- the key begins with a line feed and the text with a carriage return
    exact absurd (List.cons.inj h).1 (by decide)
  | case2 c t hne ih =>
    rw [List.infix_cons_iff, not_or]
    refine ⟨?_, ih (List.cons.inj h).2⟩
    rintro ⟨rest, heq⟩
    obtain ⟨rfl, rfl⟩ := List.cons.inj heq
    exact hne rest rfl rfl
  | case3 => simp [lineEnd]

/-- The key of a text begins with a line feed where the text begins with a line end of either
kind. -/
theorem lf_prefix_keyOf_iff :
    [CodePoint.ofChar '\n'] <+: keyOf t ↔ [CodePoint.ofChar '\n'] <+: t ∨ lineEnd <+: t := by
  fun_cases keyOf t with
  | case1 t => exact ⟨fun _ => Or.inr ⟨t, rfl⟩, fun _ => ⟨keyOf t, rfl⟩⟩
  | case2 c t hne =>
    have hno : ¬ lineEnd <+: c :: t := by
      rintro ⟨rest, heq⟩
      obtain ⟨rfl, rfl⟩ := List.cons.inj heq
      exact hne rest rfl rfl
    rw [or_iff_left hno, List.cons_prefix_cons, List.cons_prefix_cons]
    exact and_congr_right fun _ => iff_of_true (List.nil_prefix) (List.nil_prefix)
  | case3 => simp [lineEnd]

/-- **The key holds a line end of two code points** where the text holds one behind a carriage
return. -/
theorem crlf_infix_keyOf_iff : lineEnd <:+: keyOf t ↔ doubledReturn <:+: t := by
  fun_induction keyOf t with
  | case1 t ih =>
    have hlf : ¬ lineEnd <+: CodePoint.ofChar '\n' :: keyOf t := fun h =>
      absurd (List.cons_prefix_cons.1 h).1 (by decide)
    have hcr : ¬ doubledReturn <+: CodePoint.ofChar '\r' :: CodePoint.ofChar '\n' :: t := fun h =>
      absurd (List.cons_prefix_cons.1 (List.cons_prefix_cons.1 h).2).1 (by decide)
    have hlf' : ¬ doubledReturn <+: CodePoint.ofChar '\n' :: t := fun h =>
      absurd (List.cons_prefix_cons.1 h).1 (by decide)
    show lineEnd <:+: CodePoint.ofChar '\n' :: keyOf t
      ↔ doubledReturn <:+: CodePoint.ofChar '\r' :: CodePoint.ofChar '\n' :: t
    rw [List.infix_cons_iff, List.infix_cons_iff, List.infix_cons_iff, or_iff_right hlf,
      or_iff_right hcr, or_iff_right hlf', ih]
  | case2 c t hne ih =>
    rw [List.infix_cons_iff, List.infix_cons_iff, ih, lineEnd, doubledReturn,
      List.cons_prefix_cons, List.cons_prefix_cons, lf_prefix_keyOf_iff]
    refine or_congr_left (and_congr_right fun hc => or_iff_right ?_)
    rintro ⟨rest, rfl⟩
    exact hne rest hc.symm rfl
  | case3 => simp [lineEnd, doubledReturn]

/-- **Taking keys twice is taking them once**, unless a line end of two code points stands behind
another carriage return. -/
theorem keyOf_keyOf_eq_iff : keyOf (keyOf t) = keyOf t ↔ ¬ doubledReturn <:+: t := by
  rw [keyOf_eq_self_iff, crlf_infix_keyOf_iff]

/-! ## Keys of nuggets -/

/-- The key of something is something. -/
theorem keyOf_ne_nil (h : t ≠ []) : keyOf t ≠ [] := by
  fun_cases keyOf t with
  | case1 t => exact List.cons_ne_nil _ _
  | case2 c t => exact List.cons_ne_nil _ _
  | case3 => exact absurd rfl h

/-- A body begins with at least one code point of its key. -/
theorem segment_ne_nil (h : t ≠ []) : (segment t).1 ≠ [] := by
  cases t with
  | nil => exact absurd rfl h
  | cons c t =>
    cases hsep : separator? t with
    | some cut =>
      rw [segment_cons_of_some hsep]
      exact List.cons_ne_nil _ _
    | none =>
      rw [segment_cons_of_none hsep]
      exact List.cons_ne_nil _ _

/-- The text of a nugget is the first segment of its body, and the key is its key. -/
theorem text_key_ofBody (body : Text) :
    (ofBody body).text = (segment body).1 ∧ (ofBody body).key = keyOf (segment body).1 := by
  rw [ofBody]
  split <;> simp_all

/-- **The key of a nugget that is found is that of its text**, and is not empty. -/
theorem key_of_mem_nuggets {text : Text} {l : Located} (h : l ∈ nuggets text) :
    l.nugget.key = keyOf l.nugget.text ∧ l.nugget.key ≠ [] := by
  obtain ⟨body, hbody, hn⟩ := exists_isBody_of_mem_scan (mem_scan_iff.2 ⟨l, h, rfl⟩)
  obtain ⟨htext, hkey⟩ := text_key_ofBody body
  rw [hn, htext, hkey]
  exact ⟨rfl, keyOf_ne_nil (segment_ne_nil hbody.ne_nil)⟩

end Nugget
end Localize
