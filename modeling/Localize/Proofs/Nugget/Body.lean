import Localize.Nugget.Basic
import Localize.Proofs.Text.Marks

/-!
# Reading a body

The key of a body ends at the first separator that counts, and the walk over the arguments stops at
the first comment mark that counts.  Both are looked for by `separator?` at each code point, so
what they pass over is a stretch in which no separator begins, `Unmarked`.

* `segment_append`, `segment_of_unmarked` — an unmarked stretch before a separator, or before the
  end, is the key.
* `region_append`, `region_argumentMark_append`, `region_commentMark_append` — the walk over an
  unmarked stretch, an argument mark and a comment mark.
-/

set_option autoImplicit false

namespace Localize
namespace Nugget

open Text (Clear)

/-! ## Separators -/

/-- No separator mark begins in the text, whatever stands after it. -/
structure Unmarked (t : Text) : Prop where
  argument : Clear argumentMark t
  comment : Clear commentMark t

theorem Unmarked.tail {c : CodePoint} {t : Text} (h : Unmarked (c :: t)) : Unmarked t :=
  ⟨(Text.clear_cons_iff.1 h.argument).2, (Text.clear_cons_iff.1 h.comment).2⟩

/-- A text without separator marks that ends in no code point of one is unmarked. -/
theorem unmarked_of_absent {t : Text} (hargument : ¬ argumentMark <:+: t)
    (hcomment : ¬ commentMark <:+: t) (hbar : t.getLast? ≠ some (CodePoint.ofChar '|'))
    (hslash : t.getLast? ≠ some (CodePoint.ofChar '/')) : Unmarked t where
  argument := (Text.clear_replicate_iff (n := 3) (by decide)).2 ⟨hargument, hbar⟩
  comment := (Text.clear_replicate_iff (n := 3) (by decide)).2 ⟨hcomment, hslash⟩

/-- A separator is a mark with something behind it. -/
theorem separator?_eq (t : Text) :
    separator? t = (((Text.after? argumentMark t).filter (· ≠ [])).map (Prod.mk .argument)).or
      (((Text.after? commentMark t).filter (· ≠ [])).map (Prod.mk .comment)) := by
  rw [separator?]
  rcases Text.after? argumentMark t with _ | _ | ⟨c, u⟩ <;>
    rcases Text.after? commentMark t with _ | _ | ⟨d, v⟩ <;> rfl

/-- No separator stands at the start of an unmarked text. -/
theorem separator?_of_unmarked {c : CodePoint} {t : Text} (h : Unmarked (c :: t)) (rest : Text) :
    separator? (c :: t ++ rest) = none := by
  have hargument := Text.after?_eq_none_iff.2 ((Text.clear_cons_iff.1 h.argument).1 rest)
  have hcomment := Text.after?_eq_none_iff.2 ((Text.clear_cons_iff.1 h.comment).1 rest)
  rw [separator?, List.cons_append, hargument, hcomment]

theorem separator?_argumentMark_append {rest : Text} (h : rest ≠ []) :
    separator? (argumentMark ++ rest) = some (.argument, rest) := by
  obtain ⟨c, rest, rfl⟩ := List.exists_cons_of_ne_nil h
  rw [separator?, Text.after?_append]

theorem separator?_commentMark_append {comment : Text} (h : comment ≠ []) :
    separator? (commentMark ++ comment) = some (.comment, comment) := by
  obtain ⟨c, comment, rfl⟩ := List.exists_cons_of_ne_nil h
  have hargument : Text.after? argumentMark (commentMark ++ c :: comment) = none := rfl
  rw [separator?, hargument, Text.after?_append]

/-- The mark of a separator. -/
def Separator.mark : Separator → Text
  | .argument => argumentMark
  | .comment => commentMark

@[simp] theorem Separator.length_mark (sep : Separator) : sep.mark.length = 3 := by
  cases sep <;> rfl

/-- **What `separator?` finds**: the text starts with a mark, and something stands behind it. -/
theorem separator?_eq_some_iff {t rest : Text} {sep : Separator} :
    separator? t = some (sep, rest) ↔ rest ≠ [] ∧ t = sep.mark ++ rest := by
  constructor
  · intro h
    rw [separator?] at h
    split at h
    · rename_i c u hafter
      cases h
      exact ⟨List.cons_ne_nil c u, Text.after?_eq_some_iff.1 hafter⟩
    · rename_i c u hafter _
      cases h
      exact ⟨List.cons_ne_nil c u, Text.after?_eq_some_iff.1 hafter⟩
    · cases h
  · rintro ⟨hne, rfl⟩
    cases sep with
    | argument => exact separator?_argumentMark_append hne
    | comment => exact separator?_commentMark_append hne

/-- In front of something, a separator is told by its three code points. -/
theorem separator?_append_eq_some_iff {t rest u : Text} {sep : Separator} (ht : 3 ≤ t.length)
    (hrest : rest ≠ []) :
    separator? (t ++ rest) = some (sep, u) ↔ ∃ v, t = sep.mark ++ v ∧ u = v ++ rest := by
  rw [separator?_eq_some_iff]
  constructor
  · rintro ⟨-, h⟩
    have hmark : sep.mark <+: t :=
      List.prefix_of_prefix_length_le ⟨u, h.symm⟩ (List.prefix_append t rest)
        (by rw [Separator.length_mark]; exact ht)
    obtain ⟨v, rfl⟩ := hmark
    rw [List.append_assoc] at h
    exact ⟨v, rfl, (List.append_cancel_left h).symm⟩
  · rintro ⟨v, rfl, rfl⟩
    exact ⟨List.append_ne_nil_of_right_ne_nil v hrest, List.append_assoc _ _ _⟩

/-- What that something is does not matter. -/
theorem separator?_append_eq_none {t rest rest' : Text} (ht : 3 ≤ t.length) (hrest : rest ≠ [])
    (hrest' : rest' ≠ []) (h : separator? (t ++ rest) = none) : separator? (t ++ rest') = none := by
  rw [Option.eq_none_iff_forall_ne_some] at h ⊢
  rintro ⟨sep, u⟩ hsome
  obtain ⟨v, hv, -⟩ := (separator?_append_eq_some_iff ht hrest').1 hsome
  exact h (sep, v ++ rest) ((separator?_append_eq_some_iff ht hrest).2 ⟨v, hv, rfl⟩)

/-! ## The key -/

theorem segment_cons_of_none {c : CodePoint} {t : Text} (h : separator? t = none) :
    segment (c :: t) = (c :: (segment t).1, (segment t).2) := by
  rw [segment, h]

theorem segment_cons_of_some {c : CodePoint} {t : Text} {cut : Separator × Text}
    (h : separator? t = some cut) : segment (c :: t) = ([c], some cut) := by
  rw [segment, h]

/-- **An unmarked stretch before a separator is the key.** -/
theorem segment_append {key rest : Text} {cut : Separator × Text} (hne : key ≠ [])
    (hkey : Unmarked key) (hcut : separator? rest = some cut) :
    segment (key ++ rest) = (key, some cut) := by
  induction key with
  | nil => exact absurd rfl hne
  | cons c key ih =>
    cases key with
    | nil => exact segment_cons_of_some hcut
    | cons d key =>
      rw [List.cons_append, segment_cons_of_none (separator?_of_unmarked hkey.tail rest),
        ih (List.cons_ne_nil d key) hkey.tail]

/-- An unmarked body is all key. -/
theorem segment_of_unmarked {key : Text} (hkey : Unmarked key) : segment key = (key, none) := by
  induction key with
  | nil => rfl
  | cons c key ih =>
    have hnone : separator? key = none := by
      cases key with
      | nil => rfl
      | cons d key => simpa using separator?_of_unmarked hkey.tail []
    rw [segment_cons_of_none hnone, ih hkey.tail]

/-! ## The arguments and the comment -/

/-- A code point that is owed is passed over. -/
theorem region_succ_cons (owed : Nat) (c : CodePoint) (t : Text) :
    region (owed + 1) (c :: t) = (c :: (region owed t).1, (region owed t).2) := rfl

theorem region_zero_cons_of_none {c : CodePoint} {t : Text} (h : separator? (c :: t) = none) :
    region 0 (c :: t) = (c :: (region 0 t).1, (region 0 t).2) := by
  rw [region, h]

theorem region_zero_cons_of_argument {c : CodePoint} {t u : Text}
    (h : separator? (c :: t) = some (.argument, u)) :
    region 0 (c :: t) = (c :: (region 3 t).1, (region 3 t).2) := by
  rw [region, h]

/-- **The walk passes over an unmarked stretch.** -/
theorem region_append {a : Text} (h : Unmarked a) (rest : Text) :
    region 0 (a ++ rest) = (a ++ (region 0 rest).1, (region 0 rest).2) := by
  induction a with
  | nil => rfl
  | cons c a ih =>
    have hnone := separator?_of_unmarked h rest
    rw [List.cons_append] at hnone ⊢
    rw [region_zero_cons_of_none hnone, ih h.tail]
    rfl

/-- At an argument mark the walk goes on behind it, where one code point is owed. -/
theorem region_argumentMark_append {rest : Text} (h : rest ≠ []) :
    region 0 (argumentMark ++ rest) = (argumentMark ++ (region 1 rest).1, (region 1 rest).2) := by
  have hcons : argumentMark ++ rest = CodePoint.ofChar '|' :: CodePoint.ofChar '|' ::
      CodePoint.ofChar '|' :: rest := rfl
  have hsome := separator?_argumentMark_append h
  rw [hcons] at hsome ⊢
  rw [region_zero_cons_of_argument hsome, region_succ_cons, region_succ_cons]
  rfl

/-- At a comment mark the walk ends. -/
theorem region_commentMark_append {comment : Text} (h : comment ≠ []) :
    region 0 (commentMark ++ comment) = ([], some comment) := by
  have hcons : commentMark ++ comment = CodePoint.ofChar '/' :: CodePoint.ofChar '/' ::
      CodePoint.ofChar '/' :: comment := rfl
  have hsome := separator?_commentMark_append h
  rw [hcons] at hsome ⊢
  rw [region, hsome]

/-- The first argument is passed over, whatever its first code point. -/
theorem region_one_append {a : Text} (hne : a ≠ []) (h : Unmarked a) (rest : Text) :
    region 1 (a ++ rest) = (a ++ (region 0 rest).1, (region 0 rest).2) := by
  obtain ⟨c, a, rfl⟩ := List.exists_cons_of_ne_nil hne
  rw [List.cons_append, region_succ_cons, region_append h.tail]
  rfl

/-! ## The nugget of a body -/

variable {body text rest comment : Text}

theorem ofBody_of_none (h : segment body = (text, none)) :
    ofBody body = ⟨openMark ++ body ++ closeMark, text, keyOf text, [], none⟩ := by
  rw [ofBody, h]

theorem ofBody_of_comment (h : segment body = (text, some (.comment, comment))) :
    ofBody body = ⟨openMark ++ body ++ closeMark, text, keyOf text, [], some comment⟩ := by
  rw [ofBody, h]

theorem ofBody_of_argument (h : segment body = (text, some (.argument, rest))) :
    ofBody body = ⟨openMark ++ body ++ closeMark, text, keyOf text,
      Text.splitOn argumentMark (region 1 rest).1, (region 1 rest).2⟩ := by
  rw [ofBody, h]

end Nugget
end Localize
