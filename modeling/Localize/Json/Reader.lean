import Localize.Value.Basic

/-!
# Reading JSON

The grammar of JSON, with white space between tokens.  What a text says is a `Node`: numbers stay
as they are written, and the members of an object stay as they come (`node?`).  Two `\u` escapes that
are the halves of a surrogate pair make one code point, and half a pair alone is kept.

`read?` goes on to the value.  A number with a fraction or an exponent is a binary number, any other
an integer of any size; the numbers that are not finite have words.  Of two members of an object with
one key the later gives the value and the earlier the place.

Each step of the reader takes at least one code point, so the length of the text bounds how deep it
goes; that bound is what `fuel` counts.
-/

set_option autoImplicit false

namespace Localize

namespace Json

/-- White space between tokens. -/
def isSpace (c : CodePoint) : Bool :=
  c.val = 0x20 || c.val = 0x0A || c.val = 0x0D || c.val = 0x09

/-- Drops white space. -/
def skipSpace (t : Text) : Text := t.dropWhile isSpace

/-! ## Strings -/

/-- The value of four hexadecimal digits. -/
def unit? (digits : Text) : Option Nat :=
  (digits.mapM CodePoint.hexDigit?).map (Text.numeral 16)

/-- A code point in front of a string read so far. -/
def consTo (c : CodePoint) (r : Text × Text) : Text × Text := (c :: r.1, r.2)

/-- The rest of a string after its opening quote, and what follows the closing one.  `fuel` bounds
the number of code points. -/
def stringTail : Nat → Text → Option (Text × Text)
  | 0, _ => none
  | _, [] => none
  | fuel + 1, 0x5C :: t =>
    match t with
    | 0x75 :: a :: b :: c :: d :: rest => do
      let unit ← unit? [a, b, c, d]
      let low? : Option (Nat × Text) :=
        match rest with
        | 0x5C :: 0x75 :: e :: f :: g :: h :: rest => do
          let low ← unit? [e, f, g, h]
          if 0xD800 ≤ unit ∧ unit ≤ 0xDBFF ∧ 0xDC00 ≤ low ∧ low ≤ 0xDFFF then
            some (0x10000 + (unit - 0xD800) * 0x400 + (low - 0xDC00), rest)
          else none
        | _ => none
      match low? with
      | some (code, rest) => consTo (CodePoint.ofNat code) <$> stringTail fuel rest
      | none => consTo (CodePoint.ofNat unit) <$> stringTail fuel rest
    | 0x22 :: rest => consTo 0x22 <$> stringTail fuel rest
    | 0x5C :: rest => consTo 0x5C <$> stringTail fuel rest
    | 0x2F :: rest => consTo 0x2F <$> stringTail fuel rest
    | 0x62 :: rest => consTo 0x08 <$> stringTail fuel rest
    | 0x66 :: rest => consTo 0x0C <$> stringTail fuel rest
    | 0x6E :: rest => consTo 0x0A <$> stringTail fuel rest
    | 0x72 :: rest => consTo 0x0D <$> stringTail fuel rest
    | 0x74 :: rest => consTo 0x09 <$> stringTail fuel rest
    | _ => none
  | _ + 1, 0x22 :: rest => some ([], rest)
  | fuel + 1, c :: rest => if c.val < 0x20 then none else consTo c <$> stringTail fuel rest

/-! ## Numbers -/

/-- A number by its parts. -/
structure Numeral where
  negative : Bool
  /-- The digits before the point. -/
  whole : Text
  /-- The digits behind the point; without any there is no point. -/
  part : Text := []
  /-- The letter of the exponent with its sign, and its digits. -/
  exponent : Option (Text × Text) := none
deriving DecidableEq, Repr

namespace Numeral

/-- The number as it is written. -/
def text (n : Numeral) : Text :=
  (if n.negative then ("-" : Text) else []) ++ n.whole
    ++ (if n.part = [] then [] else ("." : Text) ++ n.part)
    ++ (match n.exponent with
        | some (mark, digits) => mark ++ digits
        | none => [])

/-- The value of the number. -/
def value (n : Numeral) : Value :=
  let digits := n.whole ++ n.part
  match n.part, n.exponent with
  | [], none =>
    let i : Int := (Text.decimalOf n.whole : Nat)
    .int (if n.negative then -i else i)
  | _, exponent =>
    let e : Int :=
      match exponent with
      | none => 0
      | some (mark, digits) =>
        let e : Int := (Text.decimalOf digits : Nat)
        if CodePoint.ofChar '-' ∈ mark then -e else e
    .float (Binary64.ofDecimal n.negative (Text.decimalOf digits) digits.length
      (e - n.part.length))

end Numeral

/-- The digits behind a point, and what follows them. -/
def partTail (t : Text) : Text × Text :=
  match t with
  | 0x2E :: rest =>
    let (part, after) := rest.span CodePoint.isDigit
    if part = [] then ([], t) else (part, after)
  | _ => ([], t)

/-- The sign of an exponent. -/
def exponentSign (t : Text) : Text :=
  if Text.startsWith "-" t ∨ Text.startsWith "+" t then t.take 1 else []

/-- An exponent, and what follows it. -/
def exponentTail (t : Text) : Option (Text × Text) × Text :=
  match t with
  | [] => (none, [])
  | e :: rest =>
    if e = 0x65 ∨ e = 0x45 then
      let sign := exponentSign rest
      let (digits, after) := (rest.drop sign.length).span CodePoint.isDigit
      if digits = [] then (none, t) else (some (e :: sign, digits), after)
    else (none, t)

/-- A number and what follows it. -/
def numeral? (t : Text) : Option (Numeral × Text) :=
  let negative := Text.startsWith "-" t
  let (whole, t) := (if negative then t.drop 1 else t).span CodePoint.isDigit
  if whole = [] ∨ (whole.length > 1 ∧ whole.head? = some (0x30 : CodePoint)) then none
  else
    let (part, t) := partTail t
    let (exponent, t) := exponentTail t
    some (⟨negative, whole, part, exponent⟩, t)

/-! ## Nodes -/

/-- What a JSON text says. -/
inductive Node
  | null
  | bool (b : Bool)
  /-- A number as it is written. -/
  | number (written : Text)
  | string (t : Text)
  | array (items : List Node)
  | object (members : List (Text × Node))
deriving Repr, Inhabited

/-- The numbers that are not finite. -/
def notFinite : List (Text × Binary64) := [
  ("NaN", .nan), ("Infinity", .infinite false), ("-Infinity", .infinite true)]

/-- The words. -/
def words : List (Text × Node) := [
  ("null", .null), ("true", .bool true), ("false", .bool false), ("NaN", .number "NaN"),
  ("Infinity", .number "Infinity"), ("-Infinity", .number "-Infinity")]

/-- A word or a number, and what follows it. -/
def bare? (t : Text) : Option (Node × Text) :=
  (words.findSome? fun (word, node) => (Text.after? word t).map (node, ·)).or
    ((numeral? t).map fun (n, rest) => (.number n.text, rest))

mutual

/-- A node and what follows it. -/
def nodeTail : Nat → Text → Option (Node × Text)
  | 0, _ => none
  | fuel + 1, t =>
    match skipSpace t with
    | 0x22 :: rest => do
      let (s, rest) ← stringTail rest.length rest
      return (.string s, rest)
    | 0x5B :: rest =>
      match skipSpace rest with
      | 0x5D :: rest => some (.array [], rest)
      | rest => do
        let (items, rest) ← itemsTail fuel rest
        return (.array items, rest)
    | 0x7B :: rest =>
      match skipSpace rest with
      | 0x7D :: rest => some (.object [], rest)
      | rest => do
        let (members, rest) ← membersTail fuel rest
        return (.object members, rest)
    | t => bare? t

/-- The items of a list that is not empty, up to and with its closing bracket. -/
def itemsTail : Nat → Text → Option (List Node × Text)
  | 0, _ => none
  | fuel + 1, t => do
    let (v, rest) ← nodeTail fuel t
    match skipSpace rest with
    | 0x2C :: rest =>
      let (items, rest) ← itemsTail fuel rest
      return (v :: items, rest)
    | 0x5D :: rest => return ([v], rest)
    | _ => none

/-- The members of an object that is not empty, up to and with its closing brace. -/
def membersTail : Nat → Text → Option (List (Text × Node) × Text)
  | 0, _ => none
  | fuel + 1, t =>
    match skipSpace t with
    | 0x22 :: rest => do
      let (k, rest) ← stringTail rest.length rest
      match skipSpace rest with
      | 0x3A :: rest =>
        let (v, rest) ← nodeTail fuel rest
        match skipSpace rest with
        | 0x2C :: rest =>
          let (members, rest) ← membersTail fuel rest
          return ((k, v) :: members, rest)
        | 0x7D :: rest => return ([(k, v)], rest)
        | _ => none
      | _ => none
    | _ => none

end

/-- What a text says, white space around it left out. -/
def node? (t : Text) : Option Node := do
  let (v, rest) ← nodeTail (t.length + 1) t
  if skipSpace rest = [] then some v else none

/-! ## Values -/

/-- The value of a number as it is written. -/
def numberValue (written : Text) : Value :=
  match notFinite.lookup written with
  | some x => .float x
  | none =>
    match numeral? written with
    | some (n, _) => n.value
    | none => .null

namespace Node

mutual

/-- The value that a node stands for. -/
def toValue : Node → Value
  | null => .null
  | bool b => .bool b
  | number written => numberValue written
  | string t => .text t
  | array items => .list (toValues items)
  | object members => .map (toEntries [] members)

/-- The values that nodes stand for. -/
def toValues : List Node → List Value
  | [] => []
  | v :: rest => toValue v :: toValues rest

/-- Members put to the entries before them. -/
def toEntries (entries : List (Value × Value)) : List (Text × Node) → List (Value × Value)
  | [] => entries
  | (k, v) :: rest => toEntries (Value.put (.text k) (toValue v) entries) rest

end

end Node

/-- The value a text writes, white space around it left out. -/
def read? (t : Text) : Option Value := (node? t).map Node.toValue

end Json

end Localize
