import Localize.Proofs.Nugget.Greedy

/-!
# Arguments that are cut and arguments that are read

The arguments of a nugget come from the second way through its body: what was passed over between
the key and the comment is cut at every argument mark.  The first way, which finds where the
arguments end, takes at least one code point for each of them, as the pattern does.  So where marks
crowd each other the two ways part.  In `a|||b|||` the pattern reads one argument, `b|||`, since
nothing is left behind the second mark; the cut gives `b` and the empty text.

They part only so: unless the cut gives an empty argument, it gives the arguments that are read
(`splitOn_join_parts`).

* `nil_not_mem_behind` — no argument that is read is empty.
* `arguments_of_mem_nuggets` — the arguments of a nugget that is found, by those of the pattern.
* `not_forall_arguments_read` — that they are the same is not so.
-/

set_option autoImplicit false

namespace Localize
namespace Nugget

open Text (StandsAt)

/-! ## What is read is not empty -/

/-- No segment is empty. -/
theorem nil_not_mem_parts {t : Text} (h : t ≠ []) : [] ∉ (parts t).1 := by
  have hne := segment_ne_nil h
  induction t using segment_induction with
  | last t hseg =>
    rw [parts_eq, hseg]
    exact fun hmem => h (List.mem_singleton.1 hmem).symm
  | comment t s c hseg =>
    rw [hseg] at hne
    rw [parts_eq, hseg]
    exact fun hmem => hne (List.mem_singleton.1 hmem).symm
  | argument t s rest hseg ih =>
    obtain ⟨hrest, -⟩ := of_segment_eq_some hseg
    rw [hseg] at hne
    rw [parts_eq, hseg, List.mem_cons, not_or]
    exact ⟨Ne.symm hne, ih hrest (segment_ne_nil hrest)⟩

/-- No argument behind the key is. -/
theorem nil_not_mem_behind (t : Text) : [] ∉ (behind (segment t).2).1 := by
  cases hseg : segment t with
  | mk s cut =>
    rcases cut with _ | ⟨_ | _, rest⟩
    · exact List.not_mem_nil
    · exact nil_not_mem_parts (of_segment_eq_some hseg).1
    · exact List.not_mem_nil

/-! ## The cut and the segments -/

/-- Cutting at the argument mark, by its first occurrence. -/
theorem splitOn_argumentMark (t : Text) :
    Text.splitOn argumentMark t = match Text.breakOn argumentMark t with
      | none => [t]
      | some (a, b) => a :: Text.splitOn argumentMark b :=
  Text.splitOn_eq_breakOn (n := 3) (by decide) t

/-- **Inside a segment an argument mark stands at the start, or nothing is left behind it.** -/
theorem length_le_of_standsAt {t : Text} {q : Nat} (hstands : StandsAt argumentMark t q)
    (hpos : 0 < q) (hlt : q < (segment t).1.length) : t.length ≤ q + 3 :=
  Nat.le_of_not_lt fun hfollowed =>
    not_separatorAt_of_lt .argument hlt ⟨hpos, hstands, hfollowed⟩

/-- A stretch before a mark that is cut off is not empty, and neither is the rest. -/
theorem ne_nil_of_breakOn {t a b : Text} (hbreak : Text.breakOn argumentMark t = some (a, b))
    (h : [] ∉ Text.splitOn argumentMark t) : a ≠ [] ∧ b ≠ [] := by
  rw [splitOn_argumentMark, hbreak, List.mem_cons, not_or] at h
  refine ⟨Ne.symm h.1, ?_⟩
  rintro rfl
  exact h.2 List.mem_cons_self

/-- The last segment is not cut, unless an empty one is cut off. -/
theorem splitOn_of_last {s w : Text} (hseg : (segment (s ++ w)).1 = s)
    (h : [] ∉ Text.splitOn argumentMark s) : Text.splitOn argumentMark s = [s] := by
  cases hbreak : Text.breakOn argumentMark s with
  | none => rw [splitOn_argumentMark, hbreak]
  | some cut =>
    obtain ⟨a, b⟩ := cut
    obtain ⟨ha, hb⟩ := ne_nil_of_breakOn hbreak h
    have hpos := List.length_pos_iff.2 ha
    have hpos' := List.length_pos_iff.2 hb
    have hs := Text.breakOn_eq_some hbreak
    have hlength : s.length = a.length + 3 + b.length := by
      rw [hs, List.length_append, List.length_append]
      rfl
    have hstands : StandsAt argumentMark (s ++ w) a.length := by
      rw [hs, List.append_assoc, List.append_assoc]
      exact Text.standsAt_append_length_add (i := 0).2 (List.prefix_append argumentMark _)
    have hle := length_le_of_standsAt hstands hpos (by rw [hseg]; omega)
    rw [List.length_append] at hle
    omega

/-- A segment before an argument is cut off at its mark, unless an empty one is. -/
theorem splitOn_of_argument {t s rest v : Text} (hseg : segment t = (s, some (.argument, rest)))
    (h : [] ∉ Text.splitOn argumentMark (s ++ argumentMark ++ v)) :
    Text.splitOn argumentMark (s ++ argumentMark ++ v) = s :: Text.splitOn argumentMark v := by
  obtain ⟨hrest, ht : t = s ++ (argumentMark ++ rest), -⟩ := of_segment_eq_some hseg
  have hat : StandsAt argumentMark (s ++ argumentMark ++ v) s.length := by
    rw [List.append_assoc]
    exact Text.standsAt_append_length_add (i := 0).2 (List.prefix_append argumentMark v)
  cases hbreak : Text.breakOn argumentMark (s ++ argumentMark ++ v) with
  | none => exact absurd ⟨s, v, rfl⟩ (Text.breakOn_eq_none_iff.1 hbreak)
  | some cut =>
    obtain ⟨a, b⟩ := cut
    obtain ⟨ha, -⟩ := ne_nil_of_breakOn hbreak h
    obtain ⟨hcut, hfirst⟩ := Text.breakOn_eq_some_iff.1 hbreak
    have hle : a.length ≤ s.length := Nat.le_of_not_lt fun hlt => hfirst _ hlt hat
    have hlength : (s ++ argumentMark).length = s.length + 3 := List.length_append
    -- A mark that stands before the end of the segment would have ended it.
    have hge : s.length ≤ a.length := by
      refine Nat.le_of_not_lt fun hlt => ?_
      have hstands : StandsAt argumentMark (s ++ argumentMark ++ v) a.length := by
        rw [hcut, List.append_assoc]
        exact Text.standsAt_append_length_add (i := 0).2 (List.prefix_append argumentMark b)
      have hfits : a.length + argumentMark.length ≤ (s ++ argumentMark).length := by
        rw [hlength]
        exact Nat.add_le_add_right hle 3
      rw [Text.standsAt_append_iff_of_le hfits, ← Text.standsAt_append_iff_of_le hfits rest,
        List.append_assoc, ← ht] at hstands
      have hshort := length_le_of_standsAt hstands (List.length_pos_iff.2 ha) (by rwa [hseg])
      have hpos := List.length_pos_iff.2 hrest
      rw [ht, ← List.append_assoc, List.length_append, hlength] at hshort
      omega
    rw [List.append_assoc, List.append_assoc] at hcut
    obtain ⟨rfl, hbehind⟩ := List.append_inj hcut (Nat.le_antisymm hge hle)
    rw [splitOn_argumentMark, hbreak, List.append_cancel_left hbehind]

/-- **A cut without empty arguments gives the segments.** -/
theorem splitOn_join_parts {t : Text}
    (h : [] ∉ Text.splitOn argumentMark (Text.join argumentMark (parts t).1)) :
    Text.splitOn argumentMark (Text.join argumentMark (parts t).1) = (parts t).1 := by
  induction t using segment_induction with
  | last t hseg =>
    rw [parts_eq, hseg] at h ⊢
    refine splitOn_of_last (w := []) ?_ h
    show (segment (t ++ [])).1 = t
    rw [List.append_nil, hseg]
  | comment t s c hseg =>
    obtain ⟨-, ht, -⟩ := of_segment_eq_some hseg
    rw [parts_eq, hseg] at h ⊢
    refine splitOn_of_last (w := Separator.comment.mark ++ c) ?_ h
    show (segment (s ++ (Separator.comment.mark ++ c))).1 = s
    rw [← ht, hseg]
  | argument t s rest hseg ih =>
    have hjoin : Text.join argumentMark (s :: (parts rest).1)
        = s ++ argumentMark ++ Text.join argumentMark (parts rest).1 :=
      Text.join_cons_of_ne_nil s (parts_ne_nil rest)
    rw [parts_eq, hseg, behind, hjoin] at h ⊢
    have hcut := splitOn_of_argument hseg h
    rw [hcut, List.mem_cons, not_or] at h
    rw [hcut, ih h.2]

/-- **The cut gives the arguments that are read** exactly if it gives no empty one. -/
theorem argumentsOf_writtenArguments_eq_iff (t : Text) :
    argumentsOf (writtenArguments (behind (segment t).2).1) = (behind (segment t).2).1 ↔
      [] ∉ argumentsOf (writtenArguments (behind (segment t).2).1) := by
  refine ⟨fun heq => by rw [heq]; exact nil_not_mem_behind t, ?_⟩
  cases hseg : segment t with
  | mk s cut =>
    rcases cut with _ | ⟨_ | _, rest⟩
    · exact fun _ => rfl
    · have hcut : argumentsOf (writtenArguments (parts rest).1)
          = Text.splitOn argumentMark (Text.join argumentMark (parts rest).1) := by
        rw [writtenArguments_eq_join (parts_ne_nil rest), argumentsOf, Text.after?_append]
        rfl
      show [] ∉ argumentsOf (writtenArguments (parts rest).1) →
        argumentsOf (writtenArguments (parts rest).1) = (parts rest).1
      rw [hcut]
      exact splitOn_join_parts
    · exact fun _ => rfl

/-! ## Nuggets -/

/-- **The arguments of a nugget** that is found, by the arguments that are read.  These are the
segments behind the text of the nugget that the rule reads, and that the pattern reads in the first
way that works; none of them is empty.  The nugget has what is cut out of them at every argument
mark.  That is the same unless the cut gives an empty argument. -/
theorem arguments_of_mem_nuggets {t : Text} {l : Located} (h : l ∈ nuggets t) :
    ∃ args, (∀ segs c, Reads l.nugget.body 0 segs c ↔
        segs = l.nugget.text :: args ∧ c = l.nugget.comment) ∧
      (parses (t.drop l.start)).head?
        = some (l.nugget.text, args, l.nugget.comment, t.drop l.stop) ∧
      [] ∉ args ∧ l.nugget.args = argumentsOf (writtenArguments args) ∧
      (l.nugget.args = args ↔ [] ∉ l.nugget.args) := by
  obtain ⟨a, body, rest, rfl, hbody, rfl⟩ := exists_eq_append_of_mem_nuggets h
  have hargs : (ofBody body).args
      = argumentsOf (writtenArguments (behind (segment body).2).1) := by
    rw [ofBody_eq, endOf_eq_behind]
    rfl
  refine ⟨(behind (segment body).2).1, fun segs c => ?_, ?_, nil_not_mem_behind body, hargs, ?_⟩
  · dsimp only
    rw [body_ofBody]
    exact reads_ofBody_iff body segs c
  · dsimp only [Located.stop]
    rw [List.drop_left, head?_parses hbody, (text_key_ofBody body).1, comment_ofBody,
      List.drop_length_add_append, length_raw_ofBody, drop_marks_append]
    rfl
  · dsimp only
    rw [hargs]
    exact argumentsOf_writtenArguments_eq_iff body

/-- Seven bars: the pattern reads the arguments `|` and `b`, and the nugget has the empty text and
`|b`. -/
theorem arguments_of_mem_nuggets_seven_bars :
    ∃ l ∈ nuggets (Text.ofChars ['[', '[', '[', 'a', '|', '|', '|', '|', '|', '|', '|', 'b', ']',
        ']', ']']),
      Reads l.nugget.body 0
        [Text.ofChars ['a'], Text.ofChars ['|'], Text.ofChars ['b']] none ∧
      l.nugget.args = [[], Text.ofChars ['|', 'b']] := by
  have hmem : ⟨ofBody (Text.ofChars ['a', '|', '|', '|', '|', '|', '|', '|', 'b']), 0⟩
      ∈ nuggets (Text.ofChars ['[', '[', '[', 'a', '|', '|', '|', '|', '|', '|', '|', 'b', ']', ']',
        ']']) := List.mem_cons_self
  obtain ⟨args, hreads, hparse, -, hargs, -⟩ := arguments_of_mem_nuggets hmem
  have hread : args = [Text.ofChars ['|'], Text.ofChars ['b']] := by
    have hfirst : (parses (Text.ofChars ['[', '[', '[', 'a', '|', '|', '|', '|', '|', '|', '|', 'b',
        ']', ']', ']'])).head?
          = some (Text.ofChars ['a'], [Text.ofChars ['|'], Text.ofChars ['b']], none, []) := by
      decide +kernel
    exact congrArg (·.2.1) (Option.some.inj (hparse.symm.trans hfirst))
  subst hread
  exact ⟨_, hmem, (hreads _ _).2 ⟨rfl, rfl⟩, hargs⟩

/-- Arguments that the rule reads are not always those of the nugget: nothing is left behind the
second mark of `[[[a|||b|||]]]`, so the argument is `b|||`, and the nugget has `b` and an empty
one. -/
theorem not_forall_arguments_read :
    ¬ ∀ (t : Text) (l : Located), l ∈ nuggets t →
      ∀ args c, Reads l.nugget.body 0 (l.nugget.text :: args) c → l.nugget.args = args := by
  intro h
  have hmem : ⟨ofBody (Text.ofChars ['a', '|', '|', '|', 'b', '|', '|', '|']), 0⟩
      ∈ nuggets (Text.ofChars ['[', '[', '[', 'a', '|', '|', '|', 'b', '|', '|', '|', ']', ']',
        ']']) := List.mem_cons_self
  have heq := h _ _ hmem _ _ ((reads_ofBody_iff _ _ _).2 ⟨rfl, rfl⟩)
  have hempty : [] ∈ (ofBody (Text.ofChars ['a', '|', '|', '|', 'b', '|', '|', '|'])).args := by
    decide +kernel
  exact nil_not_mem_behind _ (heq ▸ hempty)

end Nugget
end Localize
