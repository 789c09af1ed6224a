/-!
# Texts as lists of code points

A text is a list of *code points*: the numbers below `0x110000`, surrogates included.  Core's
`Char` leaves the surrogates out, and they cannot be left out here: decoding the escape of half a
surrogate pair is allowed to make one, and only writing the text as bytes refuses it.  Positions
and lengths of a text count code points, so they are positions and lengths of the list.

## What is here

* `CodePoint`, `Text` and the way in from `Char` and `String` literals.
* `Text.breakOn` — the first occurrence of a mark, with what stands on either side of it
  (`Text.breakOn_eq_some`: the two sides and the mark make up the text again).
* `Text.splitOn` — all the stretches between occurrences of a mark, and `Text.replace`, which joins
  them again with something else in between.
* `Text.compare` — the order of texts by code point, the only order this library sorts by.
-/

set_option autoImplicit false

namespace Localize

/-- A Unicode code point; surrogates are code points too. -/
abbrev CodePoint := Fin 0x110000

/-- A text is a list of code points. -/
abbrev Text := List CodePoint

/-! ## Instances

Literals of code points, and tests for membership in texts and in lists of texts, rest on these
three facts.  They are named here so that every definition refers to the same ones. -/

/-- There are code points. -/
instance CodePoint.neZero : @NeZero Nat Zero.ofOfNat0 0x110000 := ⟨by decide⟩

/-- Code points that test equal are equal. -/
instance CodePoint.lawfulBEq : LawfulBEq CodePoint := inferInstance

/-- Texts that test equal are equal. -/
instance Text.lawfulBEq : LawfulBEq Text := inferInstance

namespace CodePoint

/-- The code point of a character. -/
def ofChar (c : Char) : CodePoint :=
  ⟨c.toNat, by
    have h : c.toNat < 0xD800 ∨ (0xDFFF < c.toNat ∧ c.toNat < 0x110000) := c.valid
    omega⟩

instance : Coe Char CodePoint := ⟨ofChar⟩

/-- The code point with a given number; numbers past the last code point wrap around. -/
def ofNat (n : Nat) : CodePoint := Fin.ofNat 0x110000 n

/-- The character of a code point, if it is not a surrogate. -/
def toChar? (c : CodePoint) : Option Char :=
  if h : c.val.isValidChar then some (Char.ofNatAux c.val h) else none

/-- The first half of a surrogate pair. -/
def isHighSurrogate (c : CodePoint) : Bool := 0xD800 ≤ c.val && c.val ≤ 0xDBFF

/-- The second half of a surrogate pair. -/
def isLowSurrogate (c : CodePoint) : Bool := 0xDC00 ≤ c.val && c.val ≤ 0xDFFF

/-- Half of a surrogate pair: a code point that no byte sequence stands for. -/
def isSurrogate (c : CodePoint) : Bool := 0xD800 ≤ c.val && c.val ≤ 0xDFFF

/-- The value of an ASCII digit. -/
def digit? (c : CodePoint) : Option Nat :=
  if 0x30 ≤ c.val ∧ c.val ≤ 0x39 then some (c.val - 0x30) else none

/-- The value of a hexadecimal digit of either case. -/
def hexDigit? (c : CodePoint) : Option Nat :=
  if 0x30 ≤ c.val ∧ c.val ≤ 0x39 then some (c.val - 0x30)
  else if 0x61 ≤ c.val ∧ c.val ≤ 0x66 then some (c.val - 0x57)
  else if 0x41 ≤ c.val ∧ c.val ≤ 0x46 then some (c.val - 0x37)
  else none

/-- The lower-case hexadecimal digit of a number below sixteen. -/
def ofHexDigit (n : Nat) : CodePoint :=
  if n < 10 then ofNat (0x30 + n) else ofNat (0x57 + n)

/-- A decimal digit of ASCII. -/
def isDigit (c : CodePoint) : Bool := c.digit?.isSome

/-- A hexadecimal digit of either case. -/
def isHexDigit (c : CodePoint) : Bool := c.hexDigit?.isSome

/-- A letter of ASCII. -/
def isLetter (c : CodePoint) : Bool :=
  (0x41 ≤ c.val && c.val ≤ 0x5A) || (0x61 ≤ c.val && c.val ≤ 0x7A)

end CodePoint

namespace Text

/-- The text of characters given one by one. -/
def ofChars (cs : List Char) : Text := cs.map CodePoint.ofChar

/-- The text of a string. -/
def ofString (s : String) : Text := ofChars s.toList

instance : Coe String Text := ⟨ofString⟩

/-- The string of a text; surrogates, which no string holds, are shown as replacement marks. -/
def toString (t : Text) : String :=
  String.ofList (t.map fun c => c.toChar?.getD '\uFFFD')

/-! ## Finding and cutting -/

/-- What follows `mark` at the start of a text. -/
def after? : Text → Text → Option Text
  | [], t => some t
  | _ :: _, [] => none
  | m :: mark, c :: t => if m = c then after? mark t else none

/-- The text starts with `mark`. -/
def startsWith (mark t : Text) : Bool := (after? mark t).isSome

/-- The text before the first occurrence of `mark` and the text after it. -/
def breakOn (mark : Text) : Text → Option (Text × Text)
  | [] => if mark = [] then some ([], []) else none
  | c :: t =>
    match after? mark (c :: t) with
    | some rest => some ([], rest)
    | none => (breakOn mark t).map fun (before, after) => (c :: before, after)

/-- The mark stands somewhere in the text. -/
def contains (mark t : Text) : Bool := (breakOn mark t).isSome

/-- The stretches of a text between occurrences of `mark`; `skip` code points of a mark already
found are still to be passed over, and `acc` is the stretch read so far, backwards. -/
def splitFrom (mark : Text) : Nat → Text → Text → List Text
  | _, acc, [] => [acc.reverse]
  | skip + 1, acc, _ :: t => splitFrom mark skip acc t
  | 0, acc, c :: t =>
    if startsWith mark (c :: t) then acc.reverse :: splitFrom mark (mark.length - 1) [] t
    else splitFrom mark 0 (c :: acc) t

/-- Cuts a text at every occurrence of a nonempty mark, from left to right.  There is always one
stretch more than there are marks. -/
def splitOn (mark t : Text) : List Text := splitFrom mark 0 [] t

/-- Joins texts with a separator in between. -/
def join (sep : Text) : List Text → Text
  | [] => []
  | [t] => t
  | t :: ts => t ++ sep ++ join sep ts

/-- Replaces every occurrence of a nonempty mark, from left to right. -/
def replace (mark by' t : Text) : Text := join by' (splitOn mark t)

/-- Drops the code points of a class from both ends. -/
def trim (drop : CodePoint → Bool) (t : Text) : Text :=
  ((t.dropWhile drop).reverse.dropWhile drop).reverse

/-- Pads a text with blanks on the right up to a width. -/
def padRight (width : Nat) (t : Text) : Text :=
  t ++ List.replicate (width - t.length) (CodePoint.ofChar ' ')

/-- Pads a text on the left up to a width. -/
def padLeft (fill : CodePoint) (width : Nat) (t : Text) : Text :=
  List.replicate (width - t.length) fill ++ t

/-- The text ends in `tail`. -/
def endsWith (tail t : Text) : Bool := startsWith tail.reverse t.reverse

/-- Lower case in ASCII alone. -/
def asciiLower (t : Text) : Text :=
  t.map fun c => if 0x41 ≤ c.val ∧ c.val ≤ 0x5A then CodePoint.ofNat (c.val + 0x20) else c

/-! ## Numbers -/

/-- The decimal digits of a natural number. -/
def ofNat (n : Nat) : Text := (Nat.toDigits 10 n).map CodePoint.ofChar

/-- An integer in decimal, with a sign when it is negative. -/
def ofInt (i : Int) : Text :=
  if i < 0 then CodePoint.ofChar '-' :: ofNat i.natAbs else ofNat i.natAbs

/-- The number a list of digits stands for in a base. -/
def numeral (base : Nat) (digits : List Nat) : Nat := digits.foldl (fun n d => n * base + d) 0

/-- The number that ASCII digits stand for; other code points count as zero. -/
def decimalOf (t : Text) : Nat := numeral 10 (t.map fun c => c.digit?.getD 0)

/-- A number of fixed width in hexadecimal. -/
def hex (width n : Nat) : Text :=
  padLeft (CodePoint.ofChar '0') width ((Nat.toDigits 16 n).map CodePoint.ofChar)

/-! ## Order -/

/-- Texts are ordered by their code points, a shorter text before its extensions. -/
def compare : Text → Text → Ordering
  | [], [] => .eq
  | [], _ :: _ => .lt
  | _ :: _, [] => .gt
  | a :: s, b :: t => if a < b then .lt else if b < a then .gt else compare s t

/-- The order of texts as a test for sorting. -/
def le (s t : Text) : Bool := (compare s t).isLE

/-- Lists of texts are ordered text by text. -/
def compareList : List Text → List Text → Ordering
  | [], [] => .eq
  | [], _ :: _ => .lt
  | _ :: _, [] => .gt
  | a :: s, b :: t => (compare a b).then (compareList s t)

/-! ## Laws -/

/-- Finding a mark at the start of a text is reading the text as the mark and a rest. -/
theorem after?_eq_some_iff {mark t rest : Text} : after? mark t = some rest ↔ t = mark ++ rest := by
  induction mark generalizing t with
  | nil => simp [after?]
  | cons m mark ih =>
    cases t with
    | nil => simp [after?]
    | cons c t =>
      by_cases h : m = c
      · subst h; simp [after?, ih]
      · simp only [after?, if_neg h, List.cons_append, List.cons.injEq, reduceCtorEq, false_iff]
        exact fun he => h he.1.symm

/-- A mark that is found cuts the text in two: nothing is lost. -/
theorem breakOn_eq_some {mark t before after : Text} (h : breakOn mark t = some (before, after)) :
    t = before ++ mark ++ after := by
  induction t generalizing before with
  | nil =>
    simp only [breakOn] at h
    split at h
    · rename_i hm; cases h; simp [hm]
    · cases h
  | cons c t ih =>
    simp only [breakOn] at h
    split at h
    · rename_i rest hp
      cases h
      exact after?_eq_some_iff.mp hp
    · cases hb : breakOn mark t with
      | none => simp [hb] at h
      | some p =>
        simp only [hb, Option.map_some, Option.some.injEq, Prod.mk.injEq] at h
        obtain ⟨rfl, rfl⟩ := h
        rw [ih hb]; rfl

end Text

end Localize
