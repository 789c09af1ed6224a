import Localize.Charset.Fault
import Localize.Text.Quoted

/-!
# A place in a YAML stream

YAML counts columns, so a reader of it carries its line and column along with the text that is left
(`Cursor`).  The end of the stream is no code point; tests on "the code point here" therefore take
an option, and the end counts as white space.

A stream need not be there as a whole when it is read, and then it matters how far a reader has
looked.  It has looked at the place where it stands, and at times further ahead (`Cursor.see`); how
far that is at most is the reach of the place (`Cursor.reach`), and whatever stops the reader tells
it (`Stop`).

This file also says what can be wrong with a stream: it may break the grammar, or it may say
clearly what it means and mean nothing, such as a thirtieth of February.  It may be no text at all,
and its collections may stand too deep inside one another.
-/

set_option autoImplicit false

namespace Localize

namespace Yaml

/-- What a scalar can say that means nothing. -/
inductive Nonsense
  /-- An escape of a number that is past the last code point. -/
  | codePoint
  /-- An escape of a number that is far past the last code point. -/
  | codePointSize
  /-- A text that should be a number and has nothing in it. -/
  | empty
  | integer (base : Nat) (text : Text)
  | digits (count : Nat)
  | decimal (text : Text)
  /-- A number of sixtieths so high that no binary number is near to it. -/
  | sixtieths
  | switch (text : Text)
  /-- A text that should be a moment and is none. -/
  | moment
  /-- A mapping that should be a moment. -/
  | mappedMoment
  | year (year : Nat)
  | month
  | day
  | hour
  | minute
  | second
  | zone (minutes : Int)
deriving DecidableEq, Repr

namespace Nonsense

/-- The nonsense is a value out of its range or not readable, and no mere accident of reading. -/
def isBadValue : Nonsense → Bool
  | codePointSize | empty | sixtieths | switch _ | moment | mappedMoment => false
  | _ => true

/-- A distance in minutes, in days and seconds. -/
def durationText (minutes : Int) : Text :=
  let days := minutes.fdiv 1440
  let seconds := minutes.fmod 1440 * 60
  let dayPart : List Text := if days = 0 then [] else ["days=" ++ Text.ofInt days]
  let secondPart : List Text := if seconds = 0 then [] else ["seconds=" ++ Text.ofInt seconds]
  "datetime.timedelta(" ++ Text.join ", " (dayPart ++ secondPart) ++ ")"

/-- What is said of nonsense. -/
def message : Nonsense → Text
  | .codePoint => "chr() arg not in range(0x110000)"
  | .codePointSize => "Python int too large to convert to C int"
  | .empty => "string index out of range"
  | .integer base written =>
    "invalid literal for int() with base " ++ Text.ofNat base ++ ": " ++ written.quoted
  | .digits count =>
    "Exceeds the limit (4300 digits) for integer string conversion: value has " ++
      Text.ofNat count ++ " digits; use sys.set_int_max_str_digits() to increase the limit"
  | .decimal written => "could not convert string to float: " ++ written.quoted
  | .sixtieths => "int too large to convert to float"
  | .switch written => written.quoted
  | .moment => "'NoneType' object has no attribute 'groupdict'"
  | .mappedMoment => "expected string or bytes-like object, got 'list'"
  | .year n => "year " ++ Text.ofNat n ++ " is out of range"
  | .month => "month must be in 1..12"
  | .day => "day is out of range for month"
  | .hour => "hour must be in 0..23"
  | .minute => "minute must be in 0..59"
  | .second => "second must be in 0..59"
  | .zone minutes =>
    "offset must be a timedelta strictly between -timedelta(hours=24) and timedelta(hours=24), not "
      ++ durationText minutes ++ "."

end Nonsense

/-- What can be wrong with a stream. -/
inductive Fault
  | malformed
  | nonsense (n : Nonsense)
  /-- The bytes that come next are no text. -/
  | undecodable (cause : Charset.Fault)
  /-- So many things stand inside one another that a reader gives up. -/
  | deep
deriving DecidableEq, Repr

namespace Fault

/-- The fault is in a value: it is out of its range, or not readable. -/
def isBadValue : Fault → Bool
  | nonsense n => n.isBadValue
  | undecodable _ => true
  | malformed | deep => false

/-- What is said of a fault.  Nothing is said here of a stream that breaks the grammar. -/
def message : Fault → Text
  | malformed => []
  | nonsense n => n.message
  | undecodable cause => cause.message
  | deep => "maximum recursion depth exceeded"

end Fault

/-- A place in a stream. -/
structure Cursor where
  rest : Text
  line : Nat
  column : Nat
  /-- How many code points stand before. -/
  index : Nat
  /-- How many code points the whole stream has. -/
  size : Nat
  /-- The index of the furthest place ahead that was looked at. -/
  seen : Nat := 0
deriving Repr

/-- The beginning of a stream. -/
def Cursor.start (t : Text) : Cursor := ⟨t, 0, 0, 0, t.length, 0⟩

/-- Why a reader stops. -/
structure Stop where
  fault : Fault
  /-- The index of the furthest place that the reader has looked at. -/
  reach : Nat
deriving DecidableEq, Repr

/-! ## Classes -/

/-- Ends a line. -/
def isBreak (c : CodePoint) : Bool :=
  let n := c.val
  n = 0x0A || n = 0x0D || n = 0x85 || n = 0x2028 || n = 0x2029

/-- A blank. -/
def isSpace (c : CodePoint) : Bool := c.val = 0x20

/-- A blank or a tab. -/
def isBlank (c : CodePoint) : Bool := c.val = 0x20 || c.val = 0x09

/-- Nothing, or what ends a line. -/
def endsLine : Option CodePoint → Bool
  | none => true
  | some c => isBreak c

/-- Nothing, a blank, or what ends a line. -/
def endsWord : Option CodePoint → Bool
  | none => true
  | some c => isSpace c || isBreak c

/-- Nothing, a blank, a tab, or what ends a line. -/
def isGap : Option CodePoint → Bool
  | none => true
  | some c => isBlank c || isBreak c

/-- May stand in the name of an anchor, a directive or a tag handle. -/
def isNameMark (c : CodePoint) : Bool :=
  c.isDigit || c.isLetter || c = '-' || c = '_'

/-- One of the characters of a string. -/
def oneOf (chars : String) (c : CodePoint) : Bool := (Text.ofString chars).elem c

/-- A stream may hold the code point at all. -/
def isAllowed (c : CodePoint) : Bool :=
  let n := c.val
  n = 0x09 || n = 0x0A || n = 0x0D || (0x20 ≤ n && n ≤ 0x7E) || n = 0x85 ||
    (0xA0 ≤ n && n ≤ 0xD7FF) || (0xE000 ≤ n && n ≤ 0xFFFD) || 0x10000 ≤ n

/-! ## Moving -/

namespace Cursor

/-- How many code points are left. -/
def left (c : Cursor) : Nat := c.size - c.index

/-- The code point here. -/
def peek (c : Cursor) : Option CodePoint := c.rest.head?

/-- The code point a number of places ahead. -/
def ahead (c : Cursor) (n : Nat) : Option CodePoint := c.rest[n]?

/-- The code point here is a given one. -/
def sees (c : Cursor) (ch : Char) : Bool := c.peek = some (CodePoint.ofChar ch)

/-- Looks at what stands a number of places ahead. -/
def see (n : Nat) (c : Cursor) : Cursor := { c with seen := max c.seen (c.index + n) }

/-- The index of the furthest place that was looked at. -/
def reach (c : Cursor) : Nat := max c.seen c.index

/-- Stops here. -/
def stop {α : Type} (c : Cursor) (f : Fault) : Except Stop α := .error ⟨f, c.reach⟩

/-- Moves over one code point.  The byte order mark takes no column, and a carriage return ends the
line only together with what follows. -/
def step (c : Cursor) : Cursor :=
  match c.rest with
  | [] => c
  | ch :: rest =>
    let c := { c with rest, index := c.index + 1 }
    if isBreak ch ∧ ¬(ch.val = 0x0D ∧ rest.head? = some (0x0A : CodePoint)) then
      { c with line := c.line + 1, column := 0 }
    else if ch.val = 0xFEFF then c
    else { c with column := c.column + 1 }

/-- Moves over a number of code points. -/
def forward : Nat → Cursor → Cursor
  | 0, c => c
  | n + 1, c => forward n c.step

/-- Moves over the code points of a class: what was passed, and the place after it. -/
def span (p : CodePoint → Bool) (c : Cursor) : Text × Cursor :=
  let passed := c.rest.takeWhile p
  (passed, c.forward passed.length)

/-- Moves over the code points of a class. -/
def skip (p : CodePoint → Bool) (c : Cursor) : Cursor := (c.span p).2

/-- Moves over the end of a line, if one is here: the text it counts as, and the place after it. -/
def lineBreak (c : Cursor) : Text × Cursor :=
  match c.rest with
  | 0x0D :: 0x0A :: _ => ([0x0A], c.forward 2)
  | ch :: _ =>
    if ch.val = 0x2028 ∨ ch.val = 0x2029 then ([ch], c.step)
    else if isBreak ch then ([0x0A], c.step)
    else ([], c)
  | [] => ([], c)

/-- Three marks of one kind stand here. -/
def seesTriple (c : Cursor) (mark : Char) : Bool :=
  let m := some (CodePoint.ofChar mark)
  c.ahead 0 = m && c.ahead 1 = m && c.ahead 2 = m

/-- Three marks of one kind stand here, and nothing right behind them. -/
def seesThree (c : Cursor) (mark : Char) : Bool := c.seesTriple mark && isGap (c.ahead 3)

/-- Looks whether a document begins or ends here.  What stands behind three marks is looked at if
there are three. -/
def documentMark (c : Cursor) : Bool × Cursor :=
  (c.seesThree '-' || c.seesThree '.',
    c.see (if c.seesTriple '-' || c.seesTriple '.' then 3 else 2))

/-- Moves over a byte order mark at the beginning of the stream. -/
def skipMark (c : Cursor) : Cursor :=
  if c.index = 0 ∧ c.peek = some (0xFEFF : CodePoint) then c.step else c

/-- Moves over a comment up to the end of its line. -/
def skipComment (c : Cursor) : Cursor := if c.sees '#' then c.skip (!isBreak ·) else c

/-- Moves over blanks, a comment and the end of the line; anything else there is wrong. -/
def restOfLine (c : Cursor) : Except Stop Cursor :=
  let c := (c.skip isSpace).skipComment
  if endsLine c.peek then .ok c.lineBreak.2 else c.stop .malformed

end Cursor

end Yaml

end Localize
