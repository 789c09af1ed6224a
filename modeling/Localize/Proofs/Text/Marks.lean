import Localize.Text.Basic

/-!
# Where a mark stands

`Text.breakOn` and `Text.splitOn` look for a mark from left to right.  What they find depends on
everything up to the mark, and, where the mark can overlap the text before it, on what follows as
well.  This file says where a mark stands by position (`StandsAt`), and when a stretch of text can
be passed over whatever comes after it (`Clear`).

* `breakOn_eq_some_iff` — `breakOn` finds the occurrence at the least position.
* `clear_replicate_iff` — a stretch is clear of a mark that repeats one code point exactly when
  the mark does not occur in it and it does not end in that code point.
* `splitOn_join` — stretches clear of a mark, joined by it, are what cutting at it gives back.
-/

set_option autoImplicit false

namespace Localize
namespace Text

/-! ## Positions -/

/-- The mark stands at position `i` of the text. -/
def StandsAt (mark t : Text) (i : Nat) : Prop := mark <+: t.drop i

instance (mark t : Text) (i : Nat) : Decidable (StandsAt mark t i) :=
  inferInstanceAs (Decidable (mark <+: t.drop i))

theorem standsAt_append_length_add {mark a t : Text} {i : Nat} :
    StandsAt mark (a ++ t) (a.length + i) ↔ StandsAt mark t i := by
  rw [StandsAt, StandsAt, List.drop_length_add_append]

/-- Where a mark fits into a stretch, what stands behind the stretch does not matter. -/
theorem standsAt_append_iff_of_le {mark a : Text} {i : Nat} (h : i + mark.length ≤ a.length)
    (b : Text) : StandsAt mark (a ++ b) i ↔ StandsAt mark a i := by
  rw [StandsAt, StandsAt, List.drop_append_of_le_length (by omega)]
  refine ⟨fun hp => ?_, fun hp => hp.trans (List.prefix_append _ b)⟩
  refine List.prefix_of_prefix_length_le hp (List.prefix_append _ b) ?_
  rw [List.length_drop]
  omega

/-- The stretch between two places. -/
theorem extract_append_append (a b t : Text) :
    (a ++ b ++ t).extract a.length (a.length + b.length) = b := by
  rw [List.extract_eq_take_drop, List.append_assoc, List.drop_left, Nat.add_sub_cancel_left,
    List.take_left]

theorem startsWith_iff {mark t : Text} : startsWith mark t = true ↔ mark <+: t := by
  rw [startsWith, Option.isSome_iff_exists]
  exact ⟨fun ⟨rest, h⟩ => ⟨rest, (after?_eq_some_iff.1 h).symm⟩,
    fun ⟨rest, h⟩ => ⟨rest, after?_eq_some_iff.2 h.symm⟩⟩

theorem after?_eq_none_iff {mark t : Text} : after? mark t = none ↔ ¬ mark <+: t := by
  rw [← startsWith_iff, startsWith, Bool.not_eq_true, Option.isSome_eq_false_iff,
    Option.isNone_iff_eq_none]

/-- What follows the mark is what follows the mark. -/
@[simp] theorem after?_append (mark rest : Text) : after? mark (mark ++ rest) = some rest :=
  after?_eq_some_iff.2 rfl

/-- A mark is not completed by a text that starts with a code point it does not have. -/
theorem after?_append_cons {mark : Text} {c : CodePoint} (hc : c ∉ mark) (a b : Text) :
    after? mark (a ++ c :: b) = (after? mark a).map (· ++ c :: b) := by
  induction mark generalizing a with
  | nil => rfl
  | cons m mark ih =>
    rw [List.mem_cons, not_or] at hc
    cases a with
    | nil =>
      rw [List.nil_append, after?, after?, if_neg (Ne.symm hc.1)]
      rfl
    | cons d a =>
      rw [List.cons_append, after?, after?]
      split
      · exact ih hc.2 a
      · rfl

theorem prefix_append_cons_iff {mark : Text} {c : CodePoint} (hc : c ∉ mark) (a b : Text) :
    mark <+: a ++ c :: b ↔ mark <+: a := by
  rw [← startsWith_iff, ← startsWith_iff, startsWith, startsWith, after?_append_cons hc,
    Option.isSome_map]

/-! ## The first occurrence -/

theorem breakOn_cons_of_none {mark : Text} {c : CodePoint} {t : Text}
    (h : after? mark (c :: t) = none) :
    breakOn mark (c :: t) = (breakOn mark t).map (Prod.map (c :: ·) id) := by
  rw [breakOn, h]
  rfl

/-- No mark begins with a code point it does not have. -/
theorem breakOn_cons_of_not_mem {mark : Text} {c : CodePoint} (hmark : mark ≠ []) (hc : c ∉ mark)
    (t : Text) : breakOn mark (c :: t) = (breakOn mark t).map (Prod.map (c :: ·) id) := by
  refine breakOn_cons_of_none (after?_eq_none_iff.2 fun h => ?_)
  exact hmark (List.prefix_nil.1 ((prefix_append_cons_iff hc [] t).1 h))

/-- **`breakOn` finds the least position at which the mark stands.** -/
theorem breakOn_eq_some_iff {mark t a b : Text} :
    breakOn mark t = some (a, b) ↔ t = a ++ mark ++ b ∧ ∀ i < a.length, ¬ StandsAt mark t i := by
  induction t generalizing a with
  | nil =>
    rw [breakOn]
    split
    · rename_i hmark
      subst hmark
      constructor
      · rintro ⟨⟩; simp
      · rintro ⟨h, -⟩
        simp only [List.append_nil, List.nil_eq, List.append_eq_nil_iff] at h
        rw [h.1, h.2]
    · rename_i hmark
      simp only [reduceCtorEq, List.nil_eq, List.append_eq_nil_iff, false_iff]
      exact fun h => hmark h.1.1.2
  | cons c t ih =>
    rw [breakOn]
    split
    · rename_i rest hrest
      have hstands : mark <+: c :: t := ⟨rest, (after?_eq_some_iff.1 hrest).symm⟩
      constructor
      · rintro ⟨⟩
        exact ⟨after?_eq_some_iff.1 hrest, by simp⟩
      · rintro ⟨ht, hfirst⟩
        cases a with
        | nil =>
          rw [List.nil_append] at ht
          rw [after?_eq_some_iff.2 ht] at hrest
          cases hrest
          rfl
        | cons d a => exact absurd hstands (hfirst 0 (by simp))
    · rename_i hnone
      rw [after?_eq_none_iff] at hnone
      constructor
      · intro h
        obtain ⟨⟨a', b'⟩, hbreak, hab⟩ := Option.map_eq_some_iff.1 h
        cases hab
        obtain ⟨ht, hfirst⟩ := ih.1 hbreak
        refine ⟨by rw [ht]; rfl, fun i hi => ?_⟩
        cases i with
        | zero => exact hnone
        | succ i => exact hfirst i (by simpa using hi)
      · rintro ⟨ht, hfirst⟩
        cases a with
        | nil => exact absurd ⟨b, ht.symm⟩ hnone
        | cons d a =>
          obtain ⟨rfl, htail⟩ := List.cons.inj ht
          rw [ih.2 ⟨htail, fun i hi => hfirst (i + 1) (by simpa using hi)⟩]
          rfl

theorem breakOn_eq_none_iff {mark t : Text} : breakOn mark t = none ↔ ¬ mark <:+: t := by
  induction t with
  | nil => simp [breakOn]
  | cons c t ih =>
    rw [breakOn, List.infix_cons_iff]
    split
    · rename_i rest hrest
      have hstands : mark <+: c :: t := ⟨rest, (after?_eq_some_iff.1 hrest).symm⟩
      simp [hstands]
    · rename_i hnone
      rw [after?_eq_none_iff] at hnone
      rw [Option.map_eq_none_iff, ih]
      simp [hnone]

/-! ## Stretches without a mark -/

/-- The mark begins nowhere in `t`, whatever stands after `t`. -/
def Clear (mark t : Text) : Prop := ∀ rest, ∀ i < t.length, ¬ StandsAt mark (t ++ rest) i

theorem clear_nil {mark : Text} : Clear mark [] := fun _ i hi => absurd hi (Nat.not_lt_zero i)

theorem clear_cons_iff {mark t : Text} {c : CodePoint} :
    Clear mark (c :: t) ↔ (∀ rest, ¬ mark <+: c :: (t ++ rest)) ∧ Clear mark t := by
  constructor
  · intro h
    exact ⟨fun rest => h rest 0 (by simp), fun rest i hi => h rest (i + 1) (by simpa using hi)⟩
  · rintro ⟨hhead, htail⟩ rest i hi
    cases i with
    | zero => exact hhead rest
    | succ i => exact htail rest i (by simpa using hi)

/-- What remains of a clear stretch is clear. -/
theorem Clear.of_append {mark a b : Text} (h : Clear mark (a ++ b)) : Clear mark b := by
  induction a with
  | nil => exact h
  | cons c a ih => exact ih (clear_cons_iff.1 h).2

/-- A code point that the mark does not have parts a stretch in two: the mark is not completed
across it. -/
theorem clear_append_cons_iff {mark a b : Text} {c : CodePoint} (hmark : mark ≠ [])
    (hc : c ∉ mark) : Clear mark (a ++ c :: b) ↔ ¬ mark <:+: a ∧ Clear mark b := by
  induction a with
  | nil =>
    have hhead : ∀ rest, ¬ mark <+: c :: (b ++ rest) := fun rest h =>
      hmark (List.prefix_nil.1 ((prefix_append_cons_iff hc [] _).1 h))
    rw [List.nil_append, clear_cons_iff, List.infix_nil]
    exact and_congr_left fun _ => iff_of_true hhead hmark
  | cons x a ih =>
    have hhead : ∀ rest, mark <+: x :: (a ++ c :: b ++ rest) ↔ mark <+: x :: a := fun rest => by
      rw [List.append_assoc]
      exact prefix_append_cons_iff hc (x :: a) (b ++ rest)
    rw [List.cons_append, clear_cons_iff, ih, List.infix_cons_iff, not_or, and_assoc]
    exact and_congr_left fun _ => ⟨fun h hp => h [] ((hhead []).2 hp), fun h rest hp =>
      h ((hhead rest).1 hp)⟩

/-- A clear stretch before a mark is what `breakOn` gives. -/
theorem breakOn_of_clear {mark a b : Text} (h : Clear mark a) :
    breakOn mark (a ++ mark ++ b) = some (a, b) :=
  breakOn_eq_some_iff.2 ⟨rfl, fun i hi => by rw [List.append_assoc]; exact h _ i hi⟩

/-- The mark does not occur in a clear stretch. -/
theorem Clear.absent {mark t : Text} (h : Clear mark t) (hmark : mark ≠ []) :
    ¬ mark <:+: t := by
  intro hin
  obtain ⟨a, b, rfl⟩ := hin
  refine h [] a.length ?_ ?_
  · have := List.length_pos_iff.2 hmark
    simp only [List.length_append]
    omega
  · rw [List.append_nil, List.append_assoc]
    exact standsAt_append_length_add (i := 0).2 (List.prefix_append mark b)

/-! ### Marks that repeat one code point -/

section Repeated

variable {m : CodePoint} {n : Nat}

/-- Where a repeated mark stands at the start of a longer text, the text before it is either as
long as the mark or made of its code point. -/
theorem replicate_prefix_append {s rest : Text} (h : List.replicate n m <+: s ++ rest)
    (hs : s ≠ []) : List.replicate n m <+: s ∨ s.getLast? = some m := by
  rcases List.prefix_or_prefix_of_prefix h (List.prefix_append s rest) with h | h
  · exact Or.inl h
  · right
    obtain ⟨-, hrep⟩ := List.prefix_replicate_iff.1 h
    have hlen : s.length ≠ 0 := by simpa using hs
    rw [hrep, List.getLast?_replicate, if_neg hlen]

/-- **A stretch is clear of a repeated mark** when the mark is not in it and its last code point
is not that of the mark. -/
theorem clear_replicate_iff {t : Text} (hn : n ≠ 0) :
    Clear (List.replicate n m) t ↔ ¬ List.replicate n m <:+: t ∧ t.getLast? ≠ some m := by
  have hmark : List.replicate n m ≠ [] := by simpa using hn
  constructor
  · intro h
    refine ⟨h.absent hmark, fun hlast => ?_⟩
    obtain ⟨a, rfl⟩ := List.getLast?_eq_some_iff.1 hlast
    refine h (List.replicate n m) a.length (by simp) ?_
    rw [List.append_assoc]
    refine standsAt_append_length_add (i := 0).2 ⟨[m], ?_⟩
    rw [← List.replicate_succ', List.replicate_succ]
    rfl
  · rintro ⟨hin, hlast⟩ rest i hi hstands
    rw [StandsAt, List.drop_append_of_le_length (Nat.le_of_lt hi)] at hstands
    have hne : t.drop i ≠ [] := by rw [Ne, List.drop_eq_nil_iff]; omega
    rcases replicate_prefix_append hstands hne with h | h
    · exact hin (h.isInfix.trans (List.drop_suffix i t).isInfix)
    · rw [List.getLast?_drop, if_neg (by omega)] at h
      exact hlast h

/-- What stands before the first occurrence of a repeated mark is clear of it. -/
theorem clear_of_breakOn {t a b : Text} (hn : n ≠ 0)
    (h : breakOn (List.replicate n m) t = some (a, b)) : Clear (List.replicate n m) a := by
  obtain ⟨rfl, hfirst⟩ := breakOn_eq_some_iff.1 h
  refine (clear_replicate_iff hn).2 ⟨fun hin => ?_, fun hlast => ?_⟩
  · obtain ⟨x, y, rfl⟩ := hin
    refine hfirst x.length ?_ ?_
    · simp only [List.length_append, List.length_replicate]
      omega
    · simp only [List.append_assoc]
      exact standsAt_append_length_add (i := 0).2 (List.prefix_append _ _)
  · obtain ⟨x, rfl⟩ := List.getLast?_eq_some_iff.1 hlast
    refine hfirst x.length (by simp) ?_
    simp only [List.append_assoc]
    refine standsAt_append_length_add (i := 0).2 ?_
    rw [List.singleton_append, ← List.cons_append, ← List.replicate_succ, List.replicate_succ',
      List.append_assoc]
    exact List.prefix_append _ _

end Repeated

/-! ## Cutting at every occurrence -/

/-- Passing over the rest of a mark changes nothing but the place to read on from. -/
theorem splitFrom_append_length {mark a acc t : Text} :
    splitFrom mark a.length acc (a ++ t) = splitFrom mark 0 acc t := by
  induction a with
  | nil => rfl
  | cons c a ih =>
    rw [List.length_cons, List.cons_append, splitFrom]
    exact ih

/-- A text without the mark is one stretch. -/
theorem splitFrom_of_absent {mark acc t : Text} (h : ¬ mark <:+: t) :
    splitFrom mark 0 acc t = [acc.reverse ++ t] := by
  induction t generalizing acc with
  | nil => simp [splitFrom]
  | cons c t ih =>
    rw [List.infix_cons_iff, not_or] at h
    rw [splitFrom, if_neg (by rw [startsWith_iff]; exact h.1), ih h.2]
    simp

/-- A clear stretch before a mark is the first one cut off. -/
theorem splitFrom_append {mark acc a b : Text} (hmark : mark ≠ []) (h : Clear mark a) :
    splitFrom mark 0 acc (a ++ mark ++ b) = (acc.reverse ++ a) :: splitOn mark b := by
  induction a generalizing acc with
  | nil =>
    obtain ⟨m, ms, rfl⟩ := List.exists_cons_of_ne_nil hmark
    have hstarts : startsWith (m :: ms) (m :: (ms ++ b)) = true :=
      startsWith_iff.2 (List.prefix_append (m :: ms) b)
    rw [List.nil_append, List.cons_append, splitFrom, if_pos hstarts, List.length_cons,
      Nat.add_sub_cancel, splitFrom_append_length, List.append_nil]
    rfl
  | cons c a ih =>
    rw [clear_cons_iff] at h
    rw [List.cons_append, List.cons_append, splitFrom,
      if_neg (by rw [startsWith_iff, List.append_assoc]; exact h.1 _), ih h.2]
    simp

theorem splitOn_of_absent {mark t : Text} (h : ¬ mark <:+: t) : splitOn mark t = [t] :=
  splitFrom_of_absent h

theorem splitOn_append {mark a b : Text} (hmark : mark ≠ []) (h : Clear mark a) :
    splitOn mark (a ++ mark ++ b) = a :: splitOn mark b :=
  splitFrom_append hmark h

theorem join_cons_cons (sep t u : Text) (us : List Text) :
    join sep (t :: u :: us) = t ++ sep ++ join sep (u :: us) := rfl

/-- **Cutting undoes joining**, as long as the mark neither occurs in a stretch nor can begin
in one and end in the mark behind it. -/
theorem splitOn_join {mark : Text} {ts : List Text} (hmark : mark ≠ []) (hne : ts ≠ [])
    (h : ∀ t ∈ ts, Clear mark t) : splitOn mark (join mark ts) = ts := by
  induction ts with
  | nil => exact absurd rfl hne
  | cons t ts ih =>
    have ht : Clear mark t := h t List.mem_cons_self
    cases ts with
    | nil => rw [join, splitOn_of_absent (ht.absent hmark)]
    | cons u us =>
      rw [join_cons_cons, splitOn_append hmark ht,
        ih (List.cons_ne_nil u us) fun v hv => h v (List.mem_cons_of_mem t hv)]

/-! ## Replacing one code point -/

theorem splitFrom_ne_nil (mark : Text) (skip : Nat) (acc t : Text) :
    splitFrom mark skip acc t ≠ [] := by
  induction t generalizing skip acc with
  | nil => cases skip <;> exact List.cons_ne_nil _ _
  | cons c t ih =>
    cases skip with
    | succ skip => exact ih skip acc
    | zero =>
      rw [splitFrom]
      split
      · exact List.cons_ne_nil _ _
      · exact ih 0 _

theorem join_cons_of_ne_nil {sep : Text} (t : Text) {us : List Text} (h : us ≠ []) :
    join sep (t :: us) = t ++ sep ++ join sep us := by
  obtain ⟨u, us, rfl⟩ := List.exists_cons_of_ne_nil h
  exact join_cons_cons sep t u us

theorem join_splitFrom_singleton (m : CodePoint) (by' acc t : Text) :
    join by' (splitFrom [m] 0 acc t)
      = acc.reverse ++ t.flatMap fun c => if c = m then by' else [c] := by
  induction t generalizing acc with
  | nil => exact (List.append_nil _).symm
  | cons c t ih =>
    have hstarts : startsWith [m] (c :: t) = true ↔ c = m := by
      rw [startsWith_iff, List.cons_prefix_cons]
      exact ⟨fun h => h.1.symm, fun h => ⟨h.symm, List.nil_prefix⟩⟩
    rw [splitFrom, List.flatMap_cons]
    by_cases hc : c = m
    · rw [if_pos (hstarts.2 hc), if_pos hc, join_cons_of_ne_nil _ (splitFrom_ne_nil _ _ _ _)]
      show acc.reverse ++ by' ++ join by' (splitFrom [m] 0 [] t) = _
      rw [ih, List.append_assoc]
      rfl
    · rw [if_neg fun h => hc (hstarts.1 h), if_neg hc, ih, List.reverse_cons, List.append_assoc]

/-- **Replacing a mark of one code point** is a matter of each code point alone. -/
theorem replace_singleton (m : CodePoint) (by' t : Text) :
    replace [m] by' t = t.flatMap fun c => if c = m then by' else [c] :=
  join_splitFrom_singleton m by' [] t

end Text
end Localize
