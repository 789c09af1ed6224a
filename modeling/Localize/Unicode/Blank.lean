import Localize.Text.Basic

/-!
# White space and line ends

Two classes of code points that stay small: the white space that trimming and cutting into words
go by, and the code points that end a line.  Both are wider than ASCII; the control separators
`U+001C` to `U+001F` are white space, and all but the last of them end a line.
-/

set_option autoImplicit false

namespace Localize

namespace CodePoint

/-- White space: the Unicode property, and the four control separators. -/
def isBlank (c : CodePoint) : Bool :=
  let n := c.val
  (0x09 ≤ n && n ≤ 0x0D) || (0x1C ≤ n && n ≤ 0x20) || n == 0x85 || n == 0xA0 || n == 0x1680 ||
    (0x2000 ≤ n && n ≤ 0x200A) || n == 0x2028 || n == 0x2029 || n == 0x202F || n == 0x205F ||
    n == 0x3000

/-- A code point that ends a line. -/
def isLineEnd (c : CodePoint) : Bool :=
  let n := c.val
  (0x0A ≤ n && n ≤ 0x0D) || (0x1C ≤ n && n ≤ 0x1E) || n == 0x85 || n == 0x2028 || n == 0x2029

/-- Ending a line is one of the things white space does. -/
theorem isBlank_of_isLineEnd {c : CodePoint} (h : c.isLineEnd = true) : c.isBlank = true := by
  simp only [isLineEnd, isBlank, Bool.or_eq_true, Bool.and_eq_true, decide_eq_true_eq,
    beq_iff_eq] at h ⊢
  omega

end CodePoint

namespace Text

/-- Drops white space from both ends. -/
def strip (t : Text) : Text := trim CodePoint.isBlank t

/-- Drops white space at the start. -/
def stripLeft (t : Text) : Text := t.dropWhile CodePoint.isBlank

/-- The lines of a text, without what ends them; a carriage return and a line feed end one line
together, and a text that ends in a line end has no empty line after it.  `acc` is the line read
so far, backwards. -/
def linesFrom : Text → Text → List Text
  | acc, [] => if acc.isEmpty then [] else [acc.reverse]
  | acc, 0x0D :: 0x0A :: t => acc.reverse :: linesFrom [] t
  | acc, c :: t => if c.isLineEnd then acc.reverse :: linesFrom [] t else linesFrom (c :: acc) t

/-- Cuts a text into lines at every code point that ends one. -/
def lines (t : Text) : List Text := linesFrom [] t

/-- Cuts a text into lines at line feeds, carriage returns and the two together. -/
def plainLinesFrom : Text → Text → List Text
  | acc, [] => if acc.isEmpty then [] else [acc.reverse]
  | acc, 0x0D :: 0x0A :: t => acc.reverse :: plainLinesFrom [] t
  | acc, 0x0D :: t => acc.reverse :: plainLinesFrom [] t
  | acc, 0x0A :: t => acc.reverse :: plainLinesFrom [] t
  | acc, c :: t => plainLinesFrom (c :: acc) t

/-- Cuts a text into lines at line feeds, carriage returns and the two together. -/
def plainLines (t : Text) : List Text := plainLinesFrom [] t

/-- The lines of the beginning of a text that has more to come: a carriage return at the end may be
half of a line end, and the line before it is not over yet. -/
def completeLines (t : Text) : List Text :=
  let settled := if t.getLast? = some 0x0D then t.dropLast else t
  plainLines (settled.reverse.dropWhile fun c => c ≠ 0x0A && c ≠ 0x0D).reverse

/-- The word a text starts with, white space before it left out, and what follows the word. -/
def word (t : Text) : Text × Text := (stripLeft t).span fun c => !c.isBlank

/-- At most the first two words of a text, and what is left after them without the white space in
front. -/
def twoWords (t : Text) : List Text :=
  match word t with
  | ([], _) => []
  | (first, rest) =>
    match word rest with
    | ([], _) => [first]
    | (second, rest) =>
      match stripLeft rest with
      | [] => [first, second]
      | rest => [first, second, rest]

/-- All the words of a text, with `fuel` bounding their number. -/
def wordsWithin : Nat → Text → List Text
  | 0, _ => []
  | fuel + 1, t =>
    match word t with
    | ([], _) => []
    | (first, rest) => first :: wordsWithin fuel rest

/-- All the words of a text. -/
def words (t : Text) : List Text := wordsWithin (t.length + 1) t

end Text

end Localize
