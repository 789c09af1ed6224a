import Localize.Proofs.Nugget.Pattern

/-!
# The greedy rule

`scan` reads a text code point by code point.  The rule it follows can be said by positions alone,
without reading anything: from a cursor on, take the least opening mark whose nearest closing mark
leaves something between the two, and go on behind that closing mark.  `Greedy` is this rule as a
relation between a text, a cursor and the spans that are taken, and
`nuggets_follow_greedy_rule` says that **the nuggets of a text are exactly what the rule takes**.

* `Delimits` — an opening mark and its nearest closing mark, with something in between.
* `delimits_iff_body?` — the bridge: `Delimits` at a position is what `body?` finds there.
* `isSome_matched?_iff` — the same for the backtracking pattern.
* `Greedy.unique` — the rule leaves no choice.
* `Greedy.covers` — no delimited stretch is missed: each begins inside a span that is taken.
-/

set_option autoImplicit false

namespace Localize
namespace Nugget

open Text (StandsAt Clear)

/-! ## The rule -/

/-- An opening mark stands at `i`, the nearest closing mark behind it at `j`, and the two have
something between them. -/
structure Delimits (t : Text) (i j : Nat) : Prop where
  opens : StandsAt openMark t i
  closes : StandsAt closeMark t j
  /-- There is something between the marks. -/
  lt : i + 3 < j
  /-- No closing mark is nearer. -/
  nearest : ∀ k, i + 3 ≤ k → k < j → ¬ StandsAt closeMark t k

/-- The spans the greedy rule takes from a cursor on. -/
inductive Greedy (t : Text) : Nat → List (Nat × Nat) → Prop
  | stop {cursor : Nat} (hnone : ∀ i j, cursor ≤ i → ¬ Delimits t i j) : Greedy t cursor []
  | take {cursor i j : Nat} {spans : List (Nat × Nat)} (hle : cursor ≤ i) (h : Delimits t i j)
      (hleast : ∀ i' j', cursor ≤ i' → i' < i → ¬ Delimits t i' j')
      (hrest : Greedy t (j + 3) spans) : Greedy t cursor ((i, j + 3) :: spans)

/-- The span of a nugget: where it starts, and where reading goes on. -/
def Located.span (l : Located) : Nat × Nat := (l.start, l.stop)

/-! ## The rule leaves no choice -/

theorem Delimits.unique {t : Text} {i j j' : Nat} (h : Delimits t i j) (h' : Delimits t i j') :
    j = j' := by
  rcases Nat.lt_trichotomy j j' with hlt | heq | hgt
  · exact absurd h.closes (h'.nearest j (Nat.le_of_lt h.lt) hlt)
  · exact heq
  · exact absurd h'.closes (h.nearest j' (Nat.le_of_lt h'.lt) hgt)

theorem Greedy.unique {t : Text} {cursor : Nat} {spans spans' : List (Nat × Nat)}
    (h : Greedy t cursor spans) (h' : Greedy t cursor spans') : spans = spans' := by
  induction h generalizing spans' with
  | stop hnone =>
    cases h' with
    | stop => rfl
    | take hle hd => exact absurd hd (hnone _ _ hle)
  | @take cursor i j spans hle hd hleast _ ih =>
    cases h' with
    | stop hnone => exact absurd hd (hnone _ _ hle)
    | @take _ i' j' spans' hle' hd' hleast' hrest' =>
      have hi : i = i' := by
        rcases Nat.lt_trichotomy i i' with hlt | heq | hgt
        · exact absurd hd (hleast' i j hle hlt)
        · exact heq
        · exact absurd hd' (hleast i' j' hle' hgt)
      subst hi
      obtain rfl : j = j' := hd.unique hd'
      rw [ih hrest']

/-- **No delimited stretch is missed**: it begins inside a span that is taken. -/
theorem Greedy.covers {t : Text} {cursor : Nat} {spans : List (Nat × Nat)}
    (h : Greedy t cursor spans) {i j : Nat} (hd : Delimits t i j) (hle : cursor ≤ i) :
    ∃ s ∈ spans, s.1 ≤ i ∧ i < s.2 := by
  induction h with
  | stop hnone => exact absurd hd (hnone i j hle)
  | @take cursor i' j' spans hle' hd' hleast _ ih =>
    rcases Nat.lt_or_ge i i' with hlt | hge
    · exact absurd hd (hleast i j hle hlt)
    · rcases Nat.lt_or_ge i (j' + 3) with hin | hout
      · exact ⟨(i', j' + 3), List.mem_cons_self, hge, hin⟩
      · obtain ⟨s, hs, hcover⟩ := ih hout
        exact ⟨s, List.mem_cons_of_mem _ hs, hcover⟩

/-- A cursor where nothing is delimited can be moved on. -/
theorem Greedy.of_succ {t : Text} {cursor : Nat} {spans : List (Nat × Nat)}
    (h : Greedy t (cursor + 1) spans) (hnone : ∀ j, ¬ Delimits t cursor j) :
    Greedy t cursor spans := by
  cases h with
  | stop hstop =>
    refine .stop fun i j hle => ?_
    rcases Nat.eq_or_lt_of_le hle with rfl | hlt
    · exact hnone j
    · exact hstop i j hlt
  | take hle hd hleast hrest =>
    refine .take (Nat.le_of_succ_le hle) hd (fun i' j' hle' hlt' => ?_) hrest
    rcases Nat.eq_or_lt_of_le hle' with rfl | hlt
    · exact hnone j'
    · exact hleast i' j' hlt hlt'

/-! ## The rule and the reader -/

/-- **What is delimited at a position is what `body?` finds there.** -/
theorem delimits_iff_body? {a t : Text} {j : Nat} :
    Delimits (a ++ t) a.length j
      ↔ ∃ body, body? t = some body ∧ j = a.length + 3 + body.length := by
  constructor
  · rintro ⟨hopen, hclose, hlt, hnearest⟩
    obtain ⟨u, rfl⟩ : openMark <+: t := Text.standsAt_append_length_add (i := 0).1 hopen
    have hmove : ∀ k, StandsAt closeMark (a ++ (openMark ++ u)) (a.length + 3 + k)
        ↔ StandsAt closeMark u k := by
      intro k
      rw [Nat.add_assoc, Text.standsAt_append_length_add]
      exact Text.standsAt_append_length_add (a := openMark)
    obtain ⟨n, rfl⟩ : ∃ n, j = a.length + 3 + n := ⟨j - (a.length + 3), by omega⟩
    obtain ⟨rest, hrest⟩ := (hmove n).1 hclose
    have hbreak : Text.breakOn closeMark u = some (u.take n, rest) := by
      refine Text.breakOn_eq_some_iff.2 ⟨?_, fun k hk => ?_⟩
      · rw [List.append_assoc, hrest, List.take_append_drop]
      · have hkn : k < n := Nat.lt_of_lt_of_le hk (List.length_take_le n u)
        exact fun hk => hnearest _ (Nat.le_add_right _ k) (by omega) ((hmove k).2 hk)
    have hlen : (u.take n).length = n := by
      rw [List.length_take]
      refine Nat.min_eq_left (Nat.le_of_not_lt fun h => ?_)
      rw [List.drop_eq_nil_of_le (Nat.le_of_lt h)] at hrest
      exact absurd (congrArg List.length hrest) (by simp)
    refine ⟨u.take n, body?_eq_some_iff.2 ⟨⟨?_, ?_⟩, rest, ?_⟩, by rw [hlen]⟩
    · rw [Ne, ← List.length_eq_zero_iff, hlen]
      omega
    · exact Text.clear_of_breakOn (m := CodePoint.ofChar ']') (n := 3) (by decide) hbreak
    · rw [List.append_assoc, List.append_assoc, ← List.append_assoc (u.take n)]
      rw [← Text.breakOn_eq_some hbreak]
  · rintro ⟨body, hfound, rfl⟩
    obtain ⟨hbody, rest, rfl⟩ := body?_eq_some_iff.1 hfound
    have hmove : ∀ k, StandsAt closeMark (a ++ (openMark ++ body ++ closeMark ++ rest))
        (a.length + 3 + k) ↔ StandsAt closeMark (body ++ (closeMark ++ rest)) k := by
      intro k
      rw [Nat.add_assoc, Text.standsAt_append_length_add, List.append_assoc, List.append_assoc]
      exact Text.standsAt_append_length_add (a := openMark)
    refine ⟨?_, (hmove _).2 ?_, ?_, fun k hge hlt => ?_⟩
    · refine Text.standsAt_append_length_add (i := 0).2 ?_
      rw [List.append_assoc, List.append_assoc]
      exact List.prefix_append _ _
    · exact Text.standsAt_append_length_add (i := 0).2 (List.prefix_append _ _)
    · have := List.length_pos_iff.2 hbody.ne_nil
      omega
    · obtain ⟨n, rfl⟩ : ∃ n, k = a.length + 3 + n := ⟨k - (a.length + 3), by omega⟩
      rw [hmove]
      exact hbody.clear _ n (by omega)

/-- **The pattern reads a nugget where the rule finds a delimited stretch**, and nowhere else. -/
theorem isSome_matched?_iff (t : Text) (i : Nat) :
    (matched? (t.drop i)).isSome ↔ ∃ j, Delimits t i j := by
  rw [matched?_eq, Option.isSome_map, Option.isSome_iff_exists]
  rcases Nat.lt_or_ge t.length i with hlt | hle
  · rw [List.drop_eq_nil_of_le (Nat.le_of_lt hlt)]
    constructor
    · rintro ⟨body, hbody⟩
      cases hbody
    · rintro ⟨j, hd⟩
      have hlen := hd.opens.length_le
      rw [List.drop_eq_nil_of_le (Nat.le_of_lt hlt)] at hlen
      exact absurd hlen (by decide)
  · have hi : (t.take i).length = i := List.length_take_of_le hle
    have hsplit : ∀ j, Delimits t i j
        ↔ ∃ body, body? (t.drop i) = some body ∧ j = i + 3 + body.length := by
      intro j
      have hiff := delimits_iff_body? (a := t.take i) (t := t.drop i) (j := j)
      rwa [List.take_append_drop, hi] at hiff
    constructor
    · rintro ⟨body, hbody⟩
      exact ⟨i + 3 + body.length, (hsplit _).2 ⟨body, hbody, rfl⟩⟩
    · rintro ⟨j, hd⟩
      obtain ⟨body, hbody, -⟩ := (hsplit j).1 hd
      exact ⟨body, hbody⟩

/-- From any place on, the nuggets that are found are what the rule takes. -/
theorem greedy_locate (a t : Text) :
    Greedy (a ++ t) a.length ((locate a.length (scan t)).map Located.span) := by
  induction t using scan_induction generalizing a with
  | nil =>
    refine .stop fun i j hle hd => ?_
    have hlen := hd.opens.length_le
    simp only [List.append_nil, List.length_drop, length_openMark] at hlen
    omega
  | plain c t hnone ih =>
    have hrest := ih (a ++ [c])
    rw [List.append_assoc, List.singleton_append, List.length_append, List.length_singleton]
      at hrest
    rw [scan_cons_of_none hnone, locate]
    refine hrest.of_succ fun j hd => ?_
    obtain ⟨body, hbody, -⟩ := delimits_iff_body?.1 hd
    rw [hnone] at hbody
    cases hbody
  | nugget body rest hbody ih =>
    have hfound := body?_eq_some_iff.2 ⟨hbody, rest, rfl⟩
    have hrest := ih (a ++ (openMark ++ body ++ closeMark))
    rw [List.append_assoc, List.length_append, ← raw_ofBody] at hrest
    have hstop : a.length + (ofBody body).raw.length = a.length + 3 + body.length + 3 := by
      rw [length_raw_ofBody]
      omega
    rw [scan_nugget_append hbody, locate, List.map_cons, Located.span, Located.stop, hstop]
    rw [hstop, raw_ofBody] at hrest
    exact .take (Nat.le_refl _) (delimits_iff_body?.2 ⟨body, hfound, rfl⟩)
      (fun i j hle hlt => absurd hle (Nat.not_le_of_lt hlt)) hrest

/-! ## The spans -/

theorem le_start_of_mem_locate {pos : Nat} {ps : List Piece} {l : Located}
    (h : l ∈ locate pos ps) : pos ≤ l.start := by
  induction ps generalizing pos with
  | nil => cases h
  | cons piece ps ih =>
    cases piece with
    | plain c => exact Nat.le_of_succ_le (ih h)
    | nugget n =>
      rw [locate] at h
      rcases List.mem_cons.1 h with rfl | h
      · exact Nat.le_refl pos
      · exact Nat.le_trans (Nat.le_add_right pos _) (ih h)

/-- Nuggets are found in order, and none begins inside another. -/
theorem pairwise_locate (pos : Nat) (ps : List Piece) :
    (locate pos ps).Pairwise fun l m => l.stop ≤ m.start := by
  induction ps generalizing pos with
  | nil => exact List.Pairwise.nil
  | cons piece ps ih =>
    cases piece with
    | plain c => exact ih (pos + 1)
    | nugget n => exact List.Pairwise.cons (fun _ hl => le_start_of_mem_locate hl) (ih _)

/-- The closing mark stands in a nugget at its end alone. -/
theorem standsAt_closeMark_raw_iff {body : Text} (h : IsBody body) {k : Nat} :
    StandsAt closeMark (ofBody body).raw k ↔ k + 3 = (ofBody body).raw.length := by
  have hclear : Clear closeMark (openMark ++ body) :=
    ((h.cons (c := CodePoint.ofChar '[') (by decide)).cons (c := CodePoint.ofChar '[')
      (by decide)).cons (c := CodePoint.ofChar '[') (by decide) |>.clear
  rw [raw_ofBody]
  constructor
  · intro hk
    have hlen := hk.length_le
    have hge : (openMark ++ body).length ≤ k :=
      Nat.le_of_not_lt fun hlt => hclear closeMark k hlt hk
    simp only [List.length_drop, List.length_append, length_openMark, length_closeMark]
      at hlen hge ⊢
    omega
  · intro hk
    obtain rfl : k = (openMark ++ body).length + 0 := by
      simp only [List.length_append, length_openMark, length_closeMark] at hk ⊢
      omega
    exact Text.standsAt_append_length_add.2 (List.prefix_refl closeMark)

/-- The parts of a nugget that is found, as slices of the text. -/
theorem extract_of_mem_nuggets {t : Text} {l : Located} (h : l ∈ nuggets t) :
    l.stop ≤ t.length ∧ l.nugget.raw = t.extract l.start l.stop ∧
      matched? (t.drop l.start) = some (l.nugget, t.drop l.stop) ∧
      ∀ k, StandsAt closeMark l.nugget.raw k ↔ k + 3 = l.nugget.raw.length := by
  obtain ⟨a, body, rest, rfl, hbody, rfl⟩ := exists_eq_append_of_mem_nuggets h
  have hraw : openMark ++ body ++ closeMark = (ofBody body).raw := (raw_ofBody body).symm
  refine ⟨?_, ?_, ?_, fun k => standsAt_closeMark_raw_iff hbody⟩
  · rw [hraw]
    simp only [Located.stop, List.length_append]
    omega
  · rw [hraw, List.extract_eq_take_drop, List.drop_left, Located.stop, Nat.add_sub_cancel_left,
      List.take_left]
  · have hfound := body?_eq_some_iff.2 ⟨hbody, rest, rfl⟩
    rw [List.drop_left, matched?_eq, hfound, Option.map_some, Located.stop,
      List.drop_length_add_append, length_raw_ofBody]

/-- **The nuggets of a text are those of the greedy rule.**  The rule takes their spans and no
others; the spans are in order and disjoint; each nugget is the slice of its span, with the parts
that the pattern reads there, and with the closing mark at its end and nowhere else.  The pattern
reads a nugget at the delimited stretches alone, and each of these begins inside a nugget that is
found, so nothing that stands before a nugget hides it. -/
theorem nuggets_follow_greedy_rule (t : Text) :
    (∀ spans, Greedy t 0 spans ↔ spans = (nuggets t).map Located.span) ∧
      ((nuggets t).Pairwise fun l m => l.stop ≤ m.start) ∧
      (∀ l ∈ nuggets t, l.stop ≤ t.length ∧ l.nugget.raw = t.extract l.start l.stop ∧
        matched? (t.drop l.start) = some (l.nugget, t.drop l.stop) ∧
        ∀ k, StandsAt closeMark l.nugget.raw k ↔ k + 3 = l.nugget.raw.length) ∧
      (∀ i, (matched? (t.drop i)).isSome ↔ ∃ j, Delimits t i j) ∧
      ∀ i j, Delimits t i j → ∃ l ∈ nuggets t, l.start ≤ i ∧ i < l.stop := by
  have hgreedy : Greedy t 0 ((nuggets t).map Located.span) := greedy_locate [] t
  refine ⟨fun spans => ⟨fun h => h.unique hgreedy, fun h => h ▸ hgreedy⟩, pairwise_locate 0 _,
    fun l hl => extract_of_mem_nuggets hl, isSome_matched?_iff t, fun i j hd => ?_⟩
  obtain ⟨s, hs, hcover⟩ := hgreedy.covers hd (Nat.zero_le i)
  obtain ⟨l, hl, rfl⟩ := List.mem_map.1 hs
  exact ⟨l, hl, hcover⟩

end Nugget
end Localize
