import Localize.Text.Basic

/-!
# Nuggets

A *nugget* is a translatable unit written into the text of a built asset:

    [[[ key ||| argument ||| argument /// comment ]]]

without the blanks.  The key is what is looked up, the arguments are put into its wording, and
the comment is for translators alone.  This file holds the marks, the parts of a nugget, and the
reading of a *body*, the text between the two outer marks.  Where bodies stand in a larger text is
the business of `Localize.Nugget.Scan`.

## How a body is read

A separator mark counts only with something on both sides: at least one code point since the last
cut, and at least one code point left after it.  `segment` reads up to the first separator that
counts, so the key is the shortest one possible and never empty.

What follows the key is read twice.  `region` walks from separator to separator to find the
comment, and the text it passed over is then cut at *every* argument mark.  The two disagree where
marks crowd each other: in `a|||||||b` the walk sees the arguments `|` and `b`, and the cut the
empty text and `|b`.  The arguments are those of the cut.
-/

set_option autoImplicit false

namespace Localize

/-- One translatable unit.  `key` is what a table is asked for, and `raw` is the whole nugget as
written, outer marks included. -/
structure Nugget where
  raw : Text
  /-- The first segment, exactly as written. -/
  text : Text
  key : Text
  args : List Text
  comment : Option Text
deriving DecidableEq, Repr, Inhabited

namespace Nugget

/-! ## Marks -/

/-- Opens a nugget. -/
def openMark : Text := Text.ofChars ['[', '[', '[']

/-- Closes a nugget. -/
def closeMark : Text := Text.ofChars [']', ']', ']']

/-- Stands before each argument. -/
def argumentMark : Text := Text.ofChars ['|', '|', '|']

/-- Stands before the comment. -/
def commentMark : Text := Text.ofChars ['/', '/', '/']

/-! ## Keys -/

/-- The key of a text: line ends are single line feeds, as catalogs write them. -/
def keyOf : Text → Text
  | 0x0D :: 0x0A :: t => 0x0A :: keyOf t
  | c :: t => c :: keyOf t
  | [] => []

/-! ## Bodies -/

/-- What a separator announces. -/
inductive Separator
  | argument
  | comment
deriving DecidableEq, Repr

/-- The separator at the start of a text, and the text after it.  Nothing after it, no separator. -/
def separator? (t : Text) : Option (Separator × Text) :=
  match Text.after? argumentMark t, Text.after? commentMark t with
  | some (c :: rest), _ => some (.argument, c :: rest)
  | _, some (c :: rest) => some (.comment, c :: rest)
  | _, _ => none

/-- The shortest nonempty segment a text starts with, and the separator that ends it. -/
def segment : Text → Text × Option (Separator × Text)
  | [] => ([], none)
  | c :: t =>
    match separator? t with
    | some cut => ([c], some cut)
    | none => let (text, cut) := segment t; (c :: text, cut)

/-- Walks over arguments until the comment begins: the text passed over, argument marks included,
and the comment.  `owed` counts the code points to pass before the next separator may count: one
at the start of a segment, and those of the mark besides where a mark is being passed. -/
def region : Nat → Text → Text × Option Text
  | _, [] => ([], none)
  | owed + 1, c :: t => let (text, comment) := region owed t; (c :: text, comment)
  | 0, c :: t =>
    match separator? (c :: t) with
    | some (.comment, comment) => ([], some comment)
    | some (.argument, _) => let (text, comment) := region 3 t; (c :: text, comment)
    | none => let (text, comment) := region 0 t; (c :: text, comment)

/-- The nugget with a given body. -/
def ofBody (body : Text) : Nugget :=
  let raw := openMark ++ body ++ closeMark
  match segment body with
  | (text, none) => ⟨raw, text, keyOf text, [], none⟩
  | (text, some (.comment, comment)) => ⟨raw, text, keyOf text, [], some comment⟩
  | (text, some (.argument, rest)) =>
    let (args, comment) := region 1 rest
    ⟨raw, text, keyOf text, Text.splitOn argumentMark args, comment⟩

end Nugget

end Localize
