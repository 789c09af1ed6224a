import Localize.Value.Basic

/-!
# Writing JSON

Two layouts of one format.  `line` writes a value on one line, for logs; `pretty` writes one item
or member to a line, two blanks deeper at each level, for files that people read.  An empty list
and an empty object are written without a line break in either.

Inside a string only what has to be escaped is escaped: the quote, the backslash and the controls
below `U+0020`.  A log line goes further and escapes everything outside ASCII, in units of UTF-16.
-/

set_option autoImplicit false

namespace Localize

namespace Json

/-! ## Strings and numbers -/

/-- A code point by its number, in units of UTF-16. -/
def escapeUnits (c : CodePoint) : Text :=
  if c.val < 0x10000 then "\\u" ++ Text.hex 4 c.val
  else
    let n := c.val - 0x10000
    "\\u" ++ Text.hex 4 (0xD800 + n / 0x400) ++ "\\u" ++ Text.hex 4 (0xDC00 + n % 0x400)

/-- How a string shows one code point. -/
def stringOne (ascii : Bool) (c : CodePoint) : Text :=
  if c = '"' then "\\\""
  else if c = '\\' then "\\\\"
  else if c = '\n' then "\\n"
  else if c = '\r' then "\\r"
  else if c = '\t' then "\\t"
  else if c.val = 0x08 then "\\b"
  else if c.val = 0x0C then "\\f"
  else if c.val < 0x20 ∨ (ascii ∧ 0x7F ≤ c.val) then escapeUnits c
  else [c]

/-- A string between its quotes. -/
def string (ascii : Bool) (t : Text) : Text :=
  "\"" ++ t.flatMap (stringOne ascii) ++ "\""

/-- A number; those that are not finite have names. -/
def number (x : Binary64) : Text :=
  match x with
  | .nan => "NaN"
  | .infinite negative => if negative then "-Infinity" else "Infinity"
  | x => x.toText

/-- A value that is neither a list nor a mapping. -/
def scalar (ascii : Bool) : Value → Text
  | .null => "null"
  | .bool b => if b then "true" else "false"
  | .int i => Text.ofInt i
  | .float x => number x
  | .date d => string ascii d.iso
  | .moment m => string ascii (m.iso " ")
  | .text t => string ascii t
  | v => string ascii v.shown

/-- A key of an object; what is not a text is written as a text. -/
def key (ascii : Bool) : Value → Text
  | .text t => string ascii t
  | v => string ascii (scalar ascii v)

/-! ## One line -/

mutual

/-- A value on one line. -/
def lineWith (ascii : Bool) : Value → Text
  | .list items => "[" ++ Text.join ", " (lineItems ascii items) ++ "]"
  | .map entries => "\x7b" ++ Text.join ", " (lineEntries ascii entries) ++ "\x7d"
  | v => scalar ascii v

/-- The items of a list, on one line each. -/
def lineItems (ascii : Bool) : List Value → List Text
  | [] => []
  | v :: rest => lineWith ascii v :: lineItems ascii rest

/-- The members of an object, on one line each. -/
def lineEntries (ascii : Bool) : List (Value × Value) → List Text
  | [] => []
  | (k, v) :: rest => (key ascii k ++ ": " ++ lineWith ascii v) :: lineEntries ascii rest

end

/-- A value on one line, in ASCII. -/
def line (v : Value) : Text := lineWith true v

/-! ## Indented -/

/-- A new line at a depth. -/
def newline (depth : Nat) : Text :=
  CodePoint.ofChar '\n' :: List.replicate (2 * depth) (CodePoint.ofChar ' ')

mutual

/-- A value with its items and members on lines of their own. -/
def prettyAt (depth : Nat) : Value → Text
  | .list [] => "[]"
  | .list (v :: rest) =>
    "[" ++ newline (depth + 1)
      ++ Text.join ("," ++ newline (depth + 1)) (prettyItems (depth + 1) (v :: rest))
      ++ newline depth ++ "]"
  | .map [] => "\x7b\x7d"
  | .map (e :: rest) =>
    "\x7b" ++ newline (depth + 1)
      ++ Text.join ("," ++ newline (depth + 1)) (prettyEntries (depth + 1) (e :: rest))
      ++ newline depth ++ "\x7d"
  | v => scalar false v

/-- The items of a list at a depth. -/
def prettyItems (depth : Nat) : List Value → List Text
  | [] => []
  | v :: rest => prettyAt depth v :: prettyItems depth rest

/-- The members of an object at a depth. -/
def prettyEntries (depth : Nat) : List (Value × Value) → List Text
  | [] => []
  | (k, v) :: rest => (key false k ++ ": " ++ prettyAt depth v) :: prettyEntries depth rest

end

/-- A value with its items and members on lines of their own. -/
def pretty (v : Value) : Text := prettyAt 0 v

end Json

end Localize
