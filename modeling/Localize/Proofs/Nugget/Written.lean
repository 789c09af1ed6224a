import Localize.Proofs.Nugget.Body
import Localize.Proofs.Nugget.Settled

/-!
# Nuggets written into a text

A nugget is written as its key, each argument behind an argument mark and the comment behind a
comment mark, all between the two outer marks (`written`).  Reading is the inverse as long as the
marks in the written text are those that were put there.  The conditions are on the parts alone:
the key and the arguments are nonempty, hold no separator mark and do not end in a code point of
one (`IsSegment`), so that no mark is completed across a boundary; the body holds no closing mark
and does not end in a closing bracket; and the text before the nugget neither holds an opening mark
nor ends in an opening bracket.  The comment may hold anything, and so may the text behind.

`nuggets_written` is the statement about a nugget in its surroundings, and `ofBody_writtenBody` the
one about a body.
-/

set_option autoImplicit false

namespace Localize
namespace Nugget

open Text (Clear)

/-! ## Writing -/

/-- The arguments as they are written, each behind its mark. -/
def writtenArguments (args : List Text) : Text := args.flatMap (argumentMark ++ ·)

/-- The comment as it is written. -/
def writtenComment : Option Text → Text
  | some comment => commentMark ++ comment
  | none => []

/-- The body of a nugget as it is written. -/
def writtenBody (key : Text) (args : List Text) (comment : Option Text) : Text :=
  key ++ (writtenArguments args ++ writtenComment comment)

/-- A nugget as it is written. -/
def written (key : Text) (args : List Text) (comment : Option Text) : Text :=
  openMark ++ writtenBody key args comment ++ closeMark

/-- A text that can be written as a key or as an argument. -/
structure IsSegment (s : Text) : Prop where
  ne_nil : s ≠ []
  no_argumentMark : ¬ argumentMark <:+: s
  no_commentMark : ¬ commentMark <:+: s
  no_bar : s.getLast? ≠ some (CodePoint.ofChar '|')
  no_slash : s.getLast? ≠ some (CodePoint.ofChar '/')

/-- No separator mark begins in a segment, whatever is written behind it. -/
theorem IsSegment.unmarked {s : Text} (h : IsSegment s) : Unmarked s :=
  unmarked_of_absent h.no_argumentMark h.no_commentMark h.no_bar h.no_slash

/-! ## Reading back -/

/-- What is written behind the last argument is read as the comment. -/
theorem region_writtenComment {comment : Option Text} (h : comment ≠ some []) :
    region 0 (writtenComment comment) = ([], comment) := by
  cases comment with
  | none => rfl
  | some c => exact region_commentMark_append fun hc => h (congrArg some hc)

/-- **The walk over written arguments** gives them joined by their mark, and the comment. -/
theorem region_writtenArguments {a : Text} {args : List Text} {comment : Option Text}
    (ha : IsSegment a) (hargs : ∀ b ∈ args, IsSegment b) (hcomment : comment ≠ some []) :
    region 1 (a ++ (writtenArguments args ++ writtenComment comment))
      = (Text.join argumentMark (a :: args), comment) := by
  induction args generalizing a with
  | nil =>
    rw [region_one_append ha.ne_nil ha.unmarked]
    show (a ++ (region 0 (writtenComment comment)).1, (region 0 (writtenComment comment)).2) = _
    rw [region_writtenComment hcomment, List.append_nil]
    rfl
  | cons b args ih =>
    have hb : IsSegment b := hargs b List.mem_cons_self
    have hrest := ih hb fun c hc => hargs c (List.mem_cons_of_mem b hc)
    have hwritten : writtenArguments (b :: args) ++ writtenComment comment
        = argumentMark ++ (b ++ (writtenArguments args ++ writtenComment comment)) := by
      rw [writtenArguments, List.flatMap_cons, ← writtenArguments, List.append_assoc,
        List.append_assoc]
    have hne : b ++ (writtenArguments args ++ writtenComment comment) ≠ [] :=
      List.append_ne_nil_of_left_ne_nil hb.ne_nil _
    rw [region_one_append ha.ne_nil ha.unmarked, hwritten, region_argumentMark_append hne, hrest,
      Text.join_cons_cons, List.append_assoc]

/-- **A written body is read as its parts.** -/
theorem ofBody_writtenBody {key : Text} {args : List Text} {comment : Option Text}
    (hkey : IsSegment key) (hargs : ∀ a ∈ args, IsSegment a) (hcomment : comment ≠ some []) :
    ofBody (writtenBody key args comment)
      = ⟨written key args comment, key, keyOf key, args, comment⟩ := by
  cases args with
  | nil =>
    cases comment with
    | none =>
      have hbody : writtenBody key [] none = key := List.append_nil key
      rw [written, hbody]
      exact ofBody_of_none (segment_of_unmarked hkey.unmarked)
    | some c =>
      have hcut : separator? (commentMark ++ c) = some (.comment, c) :=
        separator?_commentMark_append fun hc => hcomment (congrArg some hc)
      exact ofBody_of_comment (segment_append hkey.ne_nil hkey.unmarked hcut)
  | cons a args =>
    have ha : IsSegment a := hargs a List.mem_cons_self
    have hargs' : ∀ b ∈ args, IsSegment b := fun b hb => hargs b (List.mem_cons_of_mem a hb)
    have hne : a ++ (writtenArguments args ++ writtenComment comment) ≠ [] :=
      List.append_ne_nil_of_left_ne_nil ha.ne_nil _
    have hcut := separator?_argumentMark_append hne
    have hbody : writtenBody key (a :: args) comment
        = key ++ (argumentMark ++ (a ++ (writtenArguments args ++ writtenComment comment))) := by
      rw [writtenBody, writtenArguments, List.flatMap_cons, ← writtenArguments, List.append_assoc,
        List.append_assoc]
    rw [written, hbody, ofBody_of_argument (segment_append hkey.ne_nil hkey.unmarked hcut),
      region_writtenArguments ha hargs' hcomment,
      Text.splitOn_join (by decide) (List.cons_ne_nil a args) fun b hb =>
        (hargs b hb).unmarked.argument]

/-- **Scanning undoes writing a nugget into a text.**  The nugget is found where the text before
it ends, with the parts that were written, and the others are those of the text behind it. -/
theorem nuggets_written {key : Text} {args : List Text} {comment : Option Text}
    {before behind : Text} (hkey : IsSegment key) (hargs : ∀ a ∈ args, IsSegment a)
    (hcomment : comment ≠ some []) (hclose : ¬ closeMark <:+: writtenBody key args comment)
    (hend : (writtenBody key args comment).getLast? ≠ some (CodePoint.ofChar ']'))
    (hopen : ¬ openMark <:+: before)
    (hbefore : before.getLast? ≠ some (CodePoint.ofChar '[')) :
    nuggets (before ++ written key args comment ++ behind)
      = ⟨⟨written key args comment, key, keyOf key, args, comment⟩, before.length⟩ ::
        (nuggets behind).map
          (Located.shift (before.length + (written key args comment).length)) := by
  have hne : writtenBody key args comment ≠ [] :=
    List.append_ne_nil_of_left_ne_nil hkey.ne_nil _
  have hbody : IsBody (writtenBody key args comment) :=
    ⟨hne, (Text.clear_replicate_iff (n := 3) (by decide)).2 ⟨hclose, hend⟩⟩
  have hclear : Clear openMark before :=
    (Text.clear_replicate_iff (n := 3) (by decide)).2 ⟨hopen, hbefore⟩
  rw [nuggets, List.append_assoc, scan_append_of_clear hclear, written, scan_nugget_append hbody,
    locate_map_plain_append, locate, locate_scan, ofBody_writtenBody hkey hargs hcomment, written,
    Nat.zero_add]

/-- Brackets before a nugget, in its key and behind it, and code points of separators inside an
argument and a comment. -/
theorem nuggets_written_among_brackets :
    nuggets (Text.ofChars [']', '[', '[', 'a'] ++ written (Text.ofChars ['[', '%', '0'])
        [Text.ofChars ['|', '/', 'b'], Text.ofChars ['[']]
        (some (Text.ofChars ['/', '|', '|', '|', '[']))
        ++ Text.ofChars [']', '[', '[', '[', 'c', ']', ']', ']'])
      = [⟨⟨Text.ofChars ['[', '[', '[', '[', '%', '0', '|', '|', '|', '|', '/', 'b', '|', '|', '|',
            '[', '/', '/', '/', '/', '|', '|', '|', '[', ']', ']', ']'],
          Text.ofChars ['[', '%', '0'], Text.ofChars ['[', '%', '0'],
          [Text.ofChars ['|', '/', 'b'], Text.ofChars ['[']],
          some (Text.ofChars ['/', '|', '|', '|', '['])⟩, 4⟩,
        ⟨ofBody (Text.ofChars ['c']), 32⟩] := by
  have hkey : IsSegment (Text.ofChars ['[', '%', '0']) :=
    ⟨by decide, by decide, by decide, by decide, by decide⟩
  have hargs : ∀ a ∈ [Text.ofChars ['|', '/', 'b'], Text.ofChars ['[']], IsSegment a := by
    intro a ha
    simp only [List.mem_cons, List.not_mem_nil, or_false] at ha
    rcases ha with rfl | rfl
    · exact ⟨by decide, by decide, by decide, by decide, by decide⟩
    · exact ⟨by decide, by decide, by decide, by decide, by decide⟩
  rw [nuggets_written hkey hargs (by decide) (by decide) (by decide) (by decide) (by decide)]
  rfl

end Nugget
end Localize
