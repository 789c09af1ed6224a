import Localize.Proofs.Nugget.Comment
import Localize.Proofs.Nugget.Key
import Localize.Proofs.Nugget.Written

/-!
# The segments of a body

A body is a key, arguments and a comment, with a mark before each of them but the key.  Which marks
count can be said by positions alone.  A separator counts where something has been read since the
last one and something is left behind it; reading stops at the first that does, goes on behind it if
it announces an argument, and takes all that is left if it announces the comment.  `Reads` is this
rule as a relation between a body, a position and what is read from there.

The reader of `Localize.Nugget.Basic` goes through a body twice and keeps no arguments on its first
way.  `parts` is what it would have if it kept them.

* `segment_induction` — induction from one argument mark that counts to the next.
* `not_separatorAt_of_lt`, `firstSeparator_of_segment` — a segment ends at the first separator that
  counts.
* `reads_parts`, `Reads.unique` — the rule reads `parts`, and nothing else.
* `region_one_eq_parts` — the arguments that are passed over on the first way, marks included.
* `reading_of_mem_nuggets` — the key and the comment of a nugget that is found are those of the rule,
  and no code point of it is lost.
-/

set_option autoImplicit false

namespace Localize

namespace Text

/-- **Joining undoes cutting**, for a mark that repeats one code point. -/
theorem join_splitOn {m : CodePoint} {n : Nat} (hn : n ≠ 0) (t : Text) :
    join (List.replicate n m) (splitOn (List.replicate n m) t) = t := by
  induction hlen : t.length using Nat.strongRecOn generalizing t with
  | ind k ih =>
    subst hlen
    rw [splitOn_eq_breakOn hn]
    cases hbreak : breakOn (List.replicate n m) t with
    | none => rfl
    | some cut =>
      obtain ⟨a, b⟩ := cut
      have ht := breakOn_eq_some hbreak
      have hshort : b.length < t.length := by
        rw [ht]
        simp only [List.length_append, List.length_replicate]
        omega
      have hne : splitOn (List.replicate n m) b ≠ [] := splitFrom_ne_nil _ 0 [] b
      show join _ (a :: splitOn _ b) = t
      rw [join_cons_of_ne_nil a hne, ih b.length hshort b rfl, ← ht]

end Text

namespace Nugget

open Text (StandsAt)

/-! ## Segment by segment -/

/-- Behind a segment there is less than there was. -/
theorem length_lt_of_segment {t s rest : Text} {sep : Separator}
    (h : segment t = (s, some (sep, rest))) : rest.length < t.length := by
  obtain ⟨-, rfl, -⟩ := of_segment_eq_some h
  simp only [List.length_append, Separator.length_mark]
  omega

/-- A segment that no separator ends is all there is. -/
theorem eq_of_segment_eq_none {t s : Text} (h : segment t = (s, none)) : t = s := by
  induction t generalizing s with
  | nil => cases h; rfl
  | cons c t ih =>
    cases hsep : separator? t with
    | some cut =>
      rw [segment_cons_of_some hsep] at h
      cases h
    | none =>
      rw [segment_cons_of_none hsep] at h
      obtain ⟨rfl, hcut⟩ := Prod.mk.inj h
      exact congrArg (c :: ·) (ih (Prod.ext rfl hcut))

/-- **Induction along the segments of a text**: one that nothing ends, one that the comment ends, or
one that an argument ends, with the text behind its mark. -/
@[elab_as_elim]
theorem segment_induction {motive : Text → Prop} (t : Text)
    (last : ∀ t, segment t = (t, none) → motive t)
    (comment : ∀ t s c, segment t = (s, some (.comment, c)) → motive t)
    (argument : ∀ t s rest, segment t = (s, some (.argument, rest)) → motive rest → motive t) :
    motive t := by
  induction hlen : t.length using Nat.strongRecOn generalizing t with
  | ind k ih =>
    subst hlen
    cases hseg : segment t with
    | mk s cut =>
      rcases cut with _ | ⟨_ | _, rest⟩
      · obtain rfl := eq_of_segment_eq_none hseg
        exact last t hseg
      · exact argument t s rest hseg (ih rest.length (length_lt_of_segment hseg) rest rfl)
      · exact comment t s rest hseg

/-- The segments of a body, the key first, and the comment. -/
def parts (t : Text) : List Text × Option Text :=
  match _h : segment t with
  | (s, none) => ([s], none)
  | (s, some (.comment, c)) => ([s], some c)
  | (s, some (.argument, rest)) => Prod.map (s :: ·) id (parts rest)
termination_by t.length
decreasing_by exact length_lt_of_segment _h

/-- The arguments and the comment that a separator and the text behind it come to. -/
def behind : Option (Separator × Text) → List Text × Option Text
  | none => ([], none)
  | some (.argument, rest) => parts rest
  | some (.comment, c) => ([], some c)

theorem parts_eq (t : Text) :
    parts t = ((segment t).1 :: (behind (segment t).2).1, (behind (segment t).2).2) := by
  rw [parts]
  split <;> rename_i h <;> rw [h] <;> rfl

/-! ### The walk over the arguments -/

/-- The arguments, marks included, and the comment that a separator and the text behind it come
to. -/
def endOf : Option (Separator × Text) → Text × Option Text
  | none => ([], none)
  | some (.argument, t) => (argumentMark ++ (region 1 t).1, (region 1 t).2)
  | some (.comment, comment) => ([], some comment)

/-- The walk passes over a segment as it is, and over what its separator announces. -/
theorem region_one_eq (t : Text) :
    region 1 t = ((segment t).1 ++ (endOf (segment t).2).1, (endOf (segment t).2).2) := by
  induction t with
  | nil => rfl
  | cons c t ih =>
    rw [region_succ_cons]
    cases t with
    | nil => rfl
    | cons d t =>
      cases hsep : separator? (d :: t) with
      | none =>
        rw [segment_cons_of_none hsep, region_zero_cons_of_none hsep, ← region_succ_cons, ih]
        rfl
      | some cut =>
        obtain ⟨sep, rest⟩ := cut
        obtain ⟨hne, ht⟩ := separator?_eq_some_iff.1 hsep
        rw [segment_cons_of_some hsep, ht]
        cases sep with
        | argument => rw [Separator.mark, region_argumentMark_append hne]; rfl
        | comment => rw [Separator.mark, region_commentMark_append hne]; rfl

theorem parts_ne_nil (t : Text) : (parts t).1 ≠ [] := by
  rw [parts_eq]
  exact List.cons_ne_nil _ _

/-- **What the walk passes over is the segments**, joined by their mark. -/
theorem region_one_eq_parts (t : Text) :
    region 1 t = (Text.join argumentMark (parts t).1, (parts t).2) := by
  induction t using segment_induction with
  | last t hseg =>
    rw [region_one_eq, parts_eq, hseg]
    exact Prod.ext (List.append_nil t) rfl
  | comment t s c hseg =>
    rw [region_one_eq, parts_eq, hseg]
    exact Prod.ext (List.append_nil s) rfl
  | argument t s rest hseg ih =>
    rw [region_one_eq, parts_eq, hseg, endOf, behind, ih,
      Text.join_cons_of_ne_nil s (parts_ne_nil rest), List.append_assoc]

/-- Arguments that are written are joined by their mark, with one more in front. -/
theorem writtenArguments_eq_join {args : List Text} (h : args ≠ []) :
    writtenArguments args = argumentMark ++ Text.join argumentMark args := by
  induction args with
  | nil => exact absurd rfl h
  | cons a args ih =>
    rw [writtenArguments, List.flatMap_cons, ← writtenArguments]
    by_cases hargs : args = []
    · subst hargs
      exact List.append_nil _
    · rw [ih hargs, Text.join_cons_of_ne_nil a hargs, List.append_assoc, List.append_assoc]

/-- Behind a separator the arguments are passed over as they would be written. -/
theorem endOf_eq_behind (cut : Option (Separator × Text)) :
    endOf cut = Prod.map writtenArguments id (behind cut) := by
  rcases cut with _ | ⟨_ | _, rest⟩
  · rfl
  · rw [endOf, behind, region_one_eq_parts, Prod.map, writtenArguments_eq_join (parts_ne_nil rest)]
    rfl
  · rfl

/-- **Cut at every mark, written arguments are written as before.** -/
theorem writtenArguments_splitOn (t : Text) :
    writtenArguments (Text.splitOn argumentMark t) = argumentMark ++ t := by
  have hne : Text.splitOn argumentMark t ≠ [] := Text.splitFrom_ne_nil _ 0 [] t
  have hjoin : Text.join argumentMark (Text.splitOn argumentMark t) = t :=
    Text.join_splitOn (n := 3) (by decide) t
  rw [writtenArguments_eq_join hne, hjoin]

/-- The walk loses nothing. -/
theorem region_append_writtenComment (owed : Nat) (t : Text) :
    (region owed t).1 ++ writtenComment (region owed t).2 = t := by
  fun_induction region owed t with
  | case1 => rfl
  | case2 owed c t text comment heq ih => rw [heq] at ih; exact congrArg (c :: ·) ih
  | case3 c t comment hsep =>
    obtain ⟨-, ht⟩ := separator?_eq_some_iff.1 hsep
    exact ht.symm
  | case4 c t rest hsep text comment heq ih => rw [heq] at ih; exact congrArg (c :: ·) ih
  | case5 c t hsep text comment heq ih => rw [heq] at ih; exact congrArg (c :: ·) ih

/-- Neither does reading the key. -/
theorem segment_append_endOf (t : Text) :
    (segment t).1 ++ ((endOf (segment t).2).1 ++ writtenComment (endOf (segment t).2).2) = t := by
  cases hseg : segment t with
  | mk s cut =>
    rcases cut with _ | ⟨sep, rest⟩
    · rw [eq_of_segment_eq_none hseg]
      exact List.append_nil s
    · obtain ⟨-, ht, -⟩ := of_segment_eq_some hseg
      rw [ht]
      cases sep with
      | argument => rw [endOf, List.append_assoc, region_append_writtenComment, Separator.mark]
      | comment => rfl

/-! ## Positions -/

/-- A separator counts at `q` where reading has gone on from `s`. -/
structure SeparatorAt (b : Text) (s : Nat) (sep : Separator) (q : Nat) : Prop where
  /-- Something has been read. -/
  passed : s + 1 ≤ q
  stands : StandsAt sep.mark b q
  /-- Something is left. -/
  followed : q + 3 < b.length

/-- The first separator that counts. -/
structure FirstSeparator (b : Text) (s : Nat) (sep : Separator) (q : Nat) : Prop
    extends SeparatorAt b s sep q where
  least : ∀ sep' q', q' < q → ¬ SeparatorAt b s sep' q'

/-- Reading a body from a position on: the segments, and the comment. -/
inductive Reads (b : Text) : Nat → List Text → Option Text → Prop
  | last {s : Nat} (hnone : ∀ sep q, ¬ SeparatorAt b s sep q) : Reads b s [b.drop s] none
  | comment {s q : Nat} (h : FirstSeparator b s .comment q) :
      Reads b s [b.extract s q] (some (b.drop (q + 3)))
  | argument {s q : Nat} {segs : List Text} {c : Option Text}
      (h : FirstSeparator b s .argument q) (hrest : Reads b (q + 3) segs c) :
      Reads b s (b.extract s q :: segs) c

/-! ### The rule leaves no choice -/

/-- Two different marks do not stand in one place. -/
theorem mark_unique {t : Text} {sep sep' : Separator} (h : sep.mark <+: t) (h' : sep'.mark <+: t) :
    sep = sep' := by
  have hmark : sep.mark <+: sep'.mark := List.prefix_of_prefix_length_le h h' (by simp)
  cases sep <;> cases sep' <;> first | rfl | exact absurd hmark (by decide)

theorem FirstSeparator.unique {b : Text} {s q q' : Nat} {sep sep' : Separator}
    (h : FirstSeparator b s sep q) (h' : FirstSeparator b s sep' q') : sep = sep' ∧ q = q' := by
  rcases Nat.lt_trichotomy q q' with hlt | rfl | hgt
  · exact absurd h.toSeparatorAt (h'.least sep q hlt)
  · exact ⟨mark_unique h.stands h'.stands, rfl⟩
  · exact absurd h'.toSeparatorAt (h.least sep' q' hgt)

/-- **What is read is read in one way only.** -/
theorem Reads.unique {b : Text} {s : Nat} {segs segs' : List Text} {c c' : Option Text}
    (h : Reads b s segs c) (h' : Reads b s segs' c') : segs' = segs ∧ c' = c := by
  induction h generalizing segs' c' with
  | last hnone =>
    cases h' with
    | last => exact ⟨rfl, rfl⟩
    | comment h' => exact absurd h'.toSeparatorAt (hnone _ _)
    | argument h' => exact absurd h'.toSeparatorAt (hnone _ _)
  | comment h =>
    cases h' with
    | last hnone => exact absurd h.toSeparatorAt (hnone _ _)
    | comment h' =>
      obtain ⟨-, rfl⟩ := h.unique h'
      exact ⟨rfl, rfl⟩
    | argument h' => cases (h.unique h').1
  | argument h _ ih =>
    cases h' with
    | last hnone => exact absurd h.toSeparatorAt (hnone _ _)
    | comment h' => cases (h.unique h').1
    | argument h' hrest' =>
      obtain ⟨-, rfl⟩ := h.unique h'
      obtain ⟨rfl, rfl⟩ := ih hrest'
      exact ⟨rfl, rfl⟩

/-! ### The rule and the reader -/

/-- What a reader finds behind one code point is a separator that counts. -/
theorem separatorAt_cons_one_iff {c : CodePoint} {t : Text} {sep : Separator} :
    SeparatorAt (c :: t) 0 sep 1 ↔ ∃ rest, separator? t = some (sep, rest) := by
  constructor
  · rintro ⟨-, ⟨rest, hrest⟩, hfollowed⟩
    rw [List.drop_succ_cons, List.drop_zero] at hrest
    refine ⟨rest, separator?_eq_some_iff.2 ⟨?_, hrest.symm⟩⟩
    rintro rfl
    rw [← hrest] at hfollowed
    simp at hfollowed
  · rintro ⟨rest, hsep⟩
    obtain ⟨hne, rfl⟩ := separator?_eq_some_iff.1 hsep
    have hpos := List.length_pos_iff.2 hne
    refine ⟨Nat.le_refl 1, List.prefix_append sep.mark rest, ?_⟩
    simp only [List.length_cons, List.length_append, Separator.length_mark]
    omega

/-- Behind a stretch that has been read, separators stand where they stand in the rest. -/
theorem separatorAt_append_iff (a : Text) {t : Text} {s q : Nat} {sep : Separator} :
    SeparatorAt (a ++ t) (a.length + s) sep (a.length + q) ↔ SeparatorAt t s sep q := by
  constructor
  · rintro ⟨hpassed, hstands, hfollowed⟩
    rw [List.length_append] at hfollowed
    exact ⟨by omega, Text.standsAt_append_length_add.1 hstands, by omega⟩
  · rintro ⟨hpassed, hstands, hfollowed⟩
    refine ⟨by omega, Text.standsAt_append_length_add.2 hstands, ?_⟩
    rw [List.length_append]
    omega

theorem FirstSeparator.append {t : Text} {q : Nat} {sep : Separator}
    (h : FirstSeparator t 0 sep q) (a : Text) :
    FirstSeparator (a ++ t) a.length sep (a.length + q) where
  toSeparatorAt := (separatorAt_append_iff a).2 h.toSeparatorAt
  least := by
    intro sep' q' hlt h'
    obtain ⟨n, rfl⟩ : ∃ n, q' = a.length + n := ⟨q' - a.length, by have := h'.passed; omega⟩
    exact h.least sep' n (by omega) ((separatorAt_append_iff a (s := 0)).1 h')

/-- **No separator counts inside the first segment.** -/
theorem not_separatorAt_of_lt {t : Text} {q : Nat} (sep : Separator)
    (h : q < (segment t).1.length) : ¬ SeparatorAt t 0 sep q := by
  induction t generalizing q with
  | nil => exact absurd h (Nat.not_lt_zero q)
  | cons c t ih =>
    intro hat
    obtain ⟨n, rfl⟩ : ∃ n, q = n + 1 := ⟨q - 1, by have := hat.passed; omega⟩
    cases hsep : separator? t with
    | some cut =>
      rw [segment_cons_of_some hsep] at h
      exact absurd h (by simp)
    | none =>
      rw [segment_cons_of_none hsep, List.length_cons] at h
      cases n with
      | zero =>
        obtain ⟨rest, hrest⟩ := separatorAt_cons_one_iff.1 hat
        rw [hsep] at hrest
        cases hrest
      | succ n =>
        refine ih (q := n + 1) (by omega) ⟨by omega, hat.stands, ?_⟩
        have := hat.followed
        rw [List.length_cons] at this
        omega

/-- Where no separator ends the segment, none counts. -/
theorem not_separatorAt_of_segment {t s : Text} (h : segment t = (s, none)) (sep : Separator)
    (q : Nat) : ¬ SeparatorAt t 0 sep q := by
  intro hat
  refine not_separatorAt_of_lt sep ?_ hat
  rw [h, ← eq_of_segment_eq_none h]
  exact Nat.lt_of_le_of_lt (Nat.le_add_right q 3) hat.followed

/-- **A segment ends at the first separator that counts.** -/
theorem firstSeparator_of_segment {t s rest : Text} {sep : Separator}
    (h : segment t = (s, some (sep, rest))) : FirstSeparator t 0 sep s.length := by
  obtain ⟨hne, ht, -⟩ := of_segment_eq_some h
  have hs : s ≠ [] := by
    have ht' : t ≠ [] := ht ▸ List.append_ne_nil_of_right_ne_nil s
      (List.append_ne_nil_of_right_ne_nil sep.mark hne)
    have hsegment := segment_ne_nil ht'
    rwa [h] at hsegment
  have hpos := List.length_pos_iff.2 hs
  have hpos' := List.length_pos_iff.2 hne
  refine ⟨⟨by omega, ?_, ?_⟩, fun sep' q' hlt => not_separatorAt_of_lt sep' (by rwa [h])⟩
  · rw [ht]
    exact Text.standsAt_append_length_add (i := 0).2 (List.prefix_append sep.mark rest)
  · rw [ht]
    simp only [List.length_append, Separator.length_mark]
    omega

/-- Behind a stretch that has been read, the next segment lies between the positions where reading
goes on and where its separator counts. -/
theorem extract_segment (a : Text) {t s rest : Text} {sep : Separator}
    (h : segment t = (s, some (sep, rest))) :
    (a ++ t).extract a.length (a.length + s.length) = s := by
  obtain ⟨-, ht, -⟩ := of_segment_eq_some h
  rw [ht, ← List.append_assoc, Text.extract_append_append]

/-- **The rule reads the segments of a body and its comment.** -/
theorem reads_parts (a t : Text) : Reads (a ++ t) a.length (parts t).1 (parts t).2 := by
  induction t using segment_induction generalizing a with
  | last t hseg =>
    have hlast : Reads (a ++ t) a.length [(a ++ t).drop a.length] none := by
      refine .last fun sep q hat => ?_
      obtain ⟨n, rfl⟩ : ∃ n, q = a.length + n := ⟨q - a.length, by have := hat.passed; omega⟩
      exact not_separatorAt_of_segment hseg sep n ((separatorAt_append_iff a (s := 0)).1 hat)
    rw [parts_eq, hseg]
    rwa [List.drop_left] at hlast
  | comment t s c hseg =>
    obtain ⟨-, ht, -⟩ := of_segment_eq_some hseg
    have hcomment := Reads.comment ((firstSeparator_of_segment hseg).append a)
    have hdrop : (a ++ t).drop (a.length + s.length + 3) = c := by
      rw [ht, ← List.append_assoc, ← List.append_assoc]
      exact List.drop_left' (by simp [Nat.add_assoc])
    rw [parts_eq, hseg]
    rwa [extract_segment a hseg, hdrop] at hcomment
  | argument t s rest hseg ih =>
    obtain ⟨-, ht, -⟩ := of_segment_eq_some hseg
    have hrest := ih (a ++ (s ++ argumentMark))
    have hlength : (a ++ (s ++ argumentMark)).length = a.length + s.length + 3 := by
      simp [argumentMark, Text.ofChars]
      omega
    have hsource : a ++ (s ++ argumentMark) ++ rest = a ++ t := by
      rw [ht, List.append_assoc, List.append_assoc]
      rfl
    rw [hlength, hsource] at hrest
    have hargument := Reads.argument ((firstSeparator_of_segment hseg).append a) hrest
    rw [parts_eq, hseg]
    rwa [extract_segment a hseg] at hargument

/-! ## Nuggets -/

/-- The text between the two outer marks. -/
def body (n : Nugget) : Text := n.raw.extract 3 (n.raw.length - 3)

theorem body_ofBody (b : Text) : (ofBody b).body = b := by
  have hlength : (openMark ++ b ++ closeMark).length - 3 = openMark.length + b.length := by
    simp only [List.length_append, length_closeMark]
    omega
  rw [body, raw_ofBody, hlength]
  exact Text.extract_append_append openMark b closeMark

/-- The arguments in what was read as arguments, marks included. -/
def argumentsOf (written : Text) : List Text :=
  (Text.after? argumentMark written).elim [] (Text.splitOn argumentMark)

/-- The nugget of a body, by what ends its key. -/
theorem ofBody_eq (body : Text) :
    ofBody body = ⟨openMark ++ body ++ closeMark, (segment body).1, keyOf (segment body).1,
      argumentsOf (endOf (segment body).2).1, (endOf (segment body).2).2⟩ := by
  rw [ofBody]
  rcases segment body with ⟨text, _ | ⟨_ | _, rest⟩⟩ <;> rfl

/-- The arguments of a nugget, written, are what the walk passed over. -/
theorem writtenArguments_ofBody (body : Text) :
    writtenArguments (ofBody body).args = (endOf (segment body).2).1 := by
  rw [ofBody_eq]
  rcases (segment body).2 with _ | ⟨_ | _, rest⟩
  · rfl
  · rw [endOf, argumentsOf, Text.after?_append]
    exact writtenArguments_splitOn _
  · rfl

/-- The comment of a nugget is what the rule reads behind its key. -/
theorem comment_ofBody (body : Text) :
    (ofBody body).comment = (behind (segment body).2).2 := by
  rw [ofBody_eq, endOf_eq_behind]
  rfl

/-- **A nugget is written as its parts.** -/
theorem raw_ofBody_eq_written (body : Text) :
    (ofBody body).raw
      = written (ofBody body).text (ofBody body).args (ofBody body).comment := by
  rw [raw_ofBody, written, writtenBody, writtenArguments_ofBody, ofBody_eq]
  dsimp only
  rw [segment_append_endOf]

/-- **The rule reads the text of a nugget and its comment.** -/
theorem reads_ofBody_iff (body : Text) (segs : List Text) (c : Option Text) :
    Reads body 0 segs c ↔ segs = (ofBody body).text :: (behind (segment body).2).1
      ∧ c = (ofBody body).comment := by
  have hreads : Reads body 0 (parts body).1 (parts body).2 := reads_parts [] body
  rw [parts_eq] at hreads
  rw [(text_key_ofBody body).1, comment_ofBody]
  constructor
  · exact hreads.unique
  · rintro ⟨rfl, rfl⟩
    exact hreads

/-- A comment is not empty. -/
theorem comment_ofBody_ne_nil (body : Text) : (ofBody body).comment ≠ some [] := by
  rw [ofBody_eq]
  cases hseg : segment body with
  | mk s cut =>
    rcases cut with _ | ⟨_ | _, rest⟩
    · exact nofun
    · exact fun h => (of_region_eq_some (Prod.ext rfl h)).1 rfl
    · exact fun h => (of_segment_eq_some hseg).1 (Option.some.inj h)

/-- **The key and the comment of a nugget.**  Of the body of a nugget that is found, the rule reads
the text of the nugget first and its comment at the end, and it reads it in no other way.  The key
is the text with single line feeds for line ends.  Nothing is lost: the nugget is its text, its
arguments and its comment with their marks, and neither the text nor the comment is empty. -/
theorem reading_of_mem_nuggets {t : Text} {l : Located} (h : l ∈ nuggets t) :
    l.nugget.raw = openMark ++ l.nugget.body ++ closeMark ∧
      (∃ args, ∀ segs c, Reads l.nugget.body 0 segs c ↔
        segs = l.nugget.text :: args ∧ c = l.nugget.comment) ∧
      l.nugget.key = Text.replace lineEnd [CodePoint.ofChar '\n'] l.nugget.text ∧
      l.nugget.raw = written l.nugget.text l.nugget.args l.nugget.comment ∧
      l.nugget.text ≠ [] ∧ l.nugget.comment ≠ some [] := by
  obtain ⟨a, body, rest, -, hbody, rfl⟩ := exists_eq_append_of_mem_nuggets h
  obtain ⟨htext, hkey⟩ := text_key_ofBody body
  dsimp only
  refine ⟨?_, ⟨(behind (segment body).2).1, fun segs c => ?_⟩, ?_, raw_ofBody_eq_written body, ?_,
    comment_ofBody_ne_nil body⟩
  · rw [body_ofBody, raw_ofBody]
  · rw [body_ofBody]
    exact reads_ofBody_iff body segs c
  · rw [hkey, htext, keyOf_eq_replace]
  · rw [htext]
    exact segment_ne_nil hbody.ne_nil

/-- A line end in the key, bars that are shared out between marks and an argument, and an argument
mark in the comment. -/
theorem reading_of_mem_nuggets_among_bars :
    ∃ l ∈ nuggets (Text.ofChars ['x', '[', '[', '[', 'a', '\r', '\n', '|', '|', '|', '|', '|', '|',
        '|', 'b', '/', '/', '/', 'c', '|', '|', '|', ']', ']', ']']),
      l.nugget.key = Text.ofChars ['a', '\n'] ∧
      l.nugget.comment = some (Text.ofChars ['c', '|', '|', '|']) ∧
      ∃ args, Reads l.nugget.body 0 (Text.ofChars ['a', '\r', '\n'] :: args)
        (some (Text.ofChars ['c', '|', '|', '|'])) := by
  have hmem : ⟨ofBody (Text.ofChars ['a', '\r', '\n', '|', '|', '|', '|', '|', '|', '|', 'b', '/',
      '/', '/', 'c', '|', '|', '|']), 1⟩ ∈ nuggets (Text.ofChars ['x', '[', '[', '[', 'a', '\r', '\n',
        '|', '|', '|', '|', '|', '|', '|', 'b', '/', '/', '/', 'c', '|', '|', '|', ']', ']', ']']) :=
    List.mem_cons_self
  obtain ⟨-, ⟨args, hreads⟩, hkey, -⟩ := reading_of_mem_nuggets hmem
  exact ⟨_, hmem, hkey, rfl, args, (hreads _ _).2 ⟨rfl, rfl⟩⟩

end Nugget
end Localize
