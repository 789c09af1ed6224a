import Localize.Number.Significant
import Localize.Value.Basic

/-!
# Messages with places for arguments

A message may have places such as `%s` or `%5.1f`, which arguments fill from left to right, or
places such as `%(name)s`, which the entries of one mapping fill.  Two percent signs stand for one.
A message that does not fit its arguments has no text at all (`Message.text?`): an argument may be
of the wrong kind, missing, or left over.
-/

set_option autoImplicit false

namespace Localize

namespace Message

/-- A width or a number of digits: none, a number, or the next argument. -/
inductive Size
  | none
  | fixed (n : Nat)
  | argument
deriving DecidableEq, Repr

/-- A place for an argument. -/
structure Slot where
  key : Option Text := none
  left : Bool := false
  plus : Bool := false
  space : Bool := false
  zero : Bool := false
  marked : Bool := false
  width : Size := .none
  digits : Size := .none
  conversion : CodePoint
deriving Repr

/-- The arguments of a message. -/
inductive Source
  | inOrder (rest : List Value)
  /-- The entries of a mapping, and the value that fills the next place: the mapping as a whole to
  begin with, and later the entry that was named last, until a place takes it. -/
  | byName (entries : List (Value × Value)) (next : Option Value)

/-- What fills a place. -/
structure Filling where
  sign : Text := []
  /-- The mark of a base. -/
  mark : Text := []
  body : Text
  numeric : Bool := false

/-! ## Reading a place -/

/-- A text up to the parenthesis that closes it, and what follows.  Inside there may be pairs of
parentheses; `depth` of them are open. -/
def closed? (depth : Nat) : Text → Option (Text × Text)
  | [] => none
  | c :: rest =>
    if c = ')' then
      match depth with
      | 0 => some ([], rest)
      | depth + 1 => (closed? depth rest).map fun (key, rest) => (c :: key, rest)
    else
      (closed? (if c = '(' then depth + 1 else depth) rest).map fun (key, rest) => (c :: key, rest)

/-- The name of an argument, if one is given. -/
def keyOf? (t : Text) : Option (Option Text × Text) :=
  match Text.after? "(" t with
  | none => some (none, t)
  | some rest => (closed? 0 rest).map fun (key, rest) => (some key, rest)

/-- A size at the start of a text. -/
def sizeOf (t : Text) : Size × Text :=
  match Text.after? "*" t with
  | some rest => (.argument, rest)
  | none =>
    let digits := t.takeWhile CodePoint.isDigit
    (if digits = [] then .none else .fixed (Text.decimalOf digits), t.drop digits.length)

/-- Letters that stand before a conversion and say nothing. -/
def lengthLetters : Text := "hlL"

/-- Letters that say how a place is filled up and signed. -/
def flagLetters : Text := "-+ 0#"

/-- A place, after its percent sign, and what follows. -/
def slot? (t : Text) : Option (Slot × Text) := do
  let (key, t) ← keyOf? t
  let flags := t.takeWhile fun c => c ∈ flagLetters
  let has (c : Char) : Bool := CodePoint.ofChar c ∈ flags
  let (width, t) := sizeOf (t.drop flags.length)
  let (digits, t) :=
    match Text.after? "." t with
    | some rest =>
      match sizeOf rest with
      | (.none, rest) => (Size.fixed 0, rest)
      | found => found
    | none => (Size.none, t)
  let t := if t.head?.any (· ∈ lengthLetters) then t.drop 1 else t
  match t with
  | [] => none
  | conversion :: rest =>
    some ({ key, left := has '-', plus := has '+', space := has ' ', zero := has '0',
            marked := has '#', width, digits, conversion }, rest)

/-! ## Filling a place -/

/-- The next argument. -/
def next? : Source → Option (Value × Source)
  | .inOrder (v :: rest) => some (v, .inOrder rest)
  | .inOrder [] => none
  | .byName entries (some v) => some (v, .byName entries none)
  | .byName _ none => none

/-- Names the argument of a place. -/
def named? (key : Option Text) (source : Source) : Option Source :=
  match key, source with
  | none, source => some source
  | some key, .byName entries _ =>
    (Value.field? key entries).map fun v => .byName entries (some v)
  | some _, .inOrder _ => none

/-- The integer of a value that is one. -/
def integral? : Value → Option Int
  | .bool b => some (if b then 1 else 0)
  | .int i => some i
  | _ => none

/-- The bound of sizes. -/
def sizeBound : Nat := 0x80000000

/-- A size within its bound. -/
def bounded? (i : Int) : Option Int := if i.natAbs < sizeBound then some i else none

/-- A size by the arguments: none, or a number that may be negative. -/
def sizeIn? (source : Source) : Size → Option (Option Int × Source)
  | .none => some (none, source)
  | .fixed n => (bounded? n).map fun i => (some i, source)
  | .argument => do
    let (v, source) ← next? source
    return (some (← bounded? (← integral? v)), source)

/-- The whole number of a value, what comes after the point left out. -/
def whole? : Value → Option Int
  | .bool b => some (if b then 1 else 0)
  | .int i => some i
  | .float x => x.ratio?.map fun (num, den) =>
    let n : Int := (num / den : Nat)
    if x.isNegative then -n else n
  | _ => none

/-- A number of a value that is one.  An integer may be too large for it. -/
def number? : Value → Option Binary64
  | .float x => some x
  | v => ((integral? v).map Binary64.ofInt).filter fun x => x.ratio?.isSome

/-- The digits of a number in a base. -/
def digitsIn (base n : Nat) (capital : Bool) : Text :=
  (Nat.toDigits base n).map fun c => CodePoint.ofChar (if capital then c.toUpper else c)

/-- The sign of a number. -/
def signOf (s : Slot) (negative : Bool) : Text :=
  if negative then "-" else if s.plus then "+" else if s.space then " " else []

/-- What fills a place, filled up to a width; zeros go behind the sign and the mark of a base. -/
def padded (s : Slot) (width : Option Int) (f : Filling) : Text :=
  let front := f.sign ++ f.mark
  let left := s.left || width.any (· < 0)
  let room := (width.getD 0).natAbs - (front ++ f.body).length
  if left then front ++ f.body ++ List.replicate room (CodePoint.ofChar ' ')
  else if s.zero ∧ f.numeric then front ++ List.replicate room (CodePoint.ofChar '0') ++ f.body
  else List.replicate room (CodePoint.ofChar ' ') ++ front ++ f.body

/-- An integer in a place, given the mark and the digits of its base, with a least number of
digits. -/
def integer (s : Slot) (i : Int) (mark digits : Text) (least : Option Int) : Filling where
  sign := signOf s (i < 0)
  mark := mark
  body := Text.padLeft '0' (least.getD 0).toNat digits
  numeric := true

/-- Letters as capitals. -/
def capitals (t : Text) : Text :=
  t.map fun c => if 0x61 ≤ c.val ∧ c.val ≤ 0x7A then CodePoint.ofNat (c.val - 0x20) else c

/-- A number in a place, by one of the layouts of numbers. -/
def laidOut (s : Slot) (capital : Bool) (layout : Bool → Nat → Binary64 → Text)
    (digits : Option Int) (v : Value) : Option Filling :=
  (number? v).map fun x =>
    let shown := layout s.marked ((digits.getD 6).toNat) x
    { sign := signOf s x.isNegative, body := if capital then capitals shown else shown,
      numeric := true }

/-- A text in ASCII: any other code point is written by its number. -/
def asciiOnly (t : Text) : Text :=
  t.flatMap fun c =>
    if c.val < 0x80 then [c]
    else if c.val < 0x100 then "\\x" ++ Text.hex 2 c.val
    else if c.val < 0x10000 then "\\u" ++ Text.hex 4 c.val
    else "\\U" ++ Text.hex 8 c.val

/-- What a value fills a place with. -/
def converted? (s : Slot) (digits : Option Int) (v : Value) : Option Filling :=
  let cut (t : Text) : Filling :=
    { body := match digits with
        | some n => t.take n.toNat
        | none => t }
  let based (base : Nat) (mark : Text) (capital : Bool) : Option Filling :=
    (integral? v).map fun i =>
      integer s i (if s.marked then mark else []) (digitsIn base i.natAbs capital) digits
  match s.conversion.toChar? with
  | some 's' => some (cut v.shown)
  | some 'r' => some (cut v.quoted)
  | some 'a' => some (cut (asciiOnly v.quoted))
  | some 'd' | some 'i' | some 'u' =>
    (whole? v).map fun i => integer s i [] (Text.ofNat i.natAbs) digits
  | some 'o' => based 8 "0o" false
  | some 'x' => based 16 "0x" false
  | some 'X' => based 16 "0X" true
  | some 'f' => laidOut s false Binary64.positionalText digits v
  | some 'F' => laidOut s true Binary64.positionalText digits v
  | some 'e' => laidOut s false Binary64.scientific digits v
  | some 'E' => laidOut s true Binary64.scientific digits v
  | some 'g' => laidOut s false Binary64.general digits v
  | some 'G' => laidOut s true Binary64.general digits v
  | some 'c' =>
    match v, integral? v with
    | .text [c], _ => some { body := [c] }
    | _, some i =>
      if 0 ≤ i ∧ i < 0x110000 then some { body := [CodePoint.ofNat i.toNat] } else none
    | _, none => none
  | _ => none

/-- A place filled from the arguments. -/
def filled? (s : Slot) (source : Source) : Option (Text × Source) := do
  let source ← named? s.key source
  let (width, source) ← sizeIn? source s.width
  let (digits, source) ← sizeIn? source s.digits
  let (v, source) ← next? source
  let filling ← converted? s digits v
  return (padded s width filling, source)

/-! ## Messages -/

/-- Fills the places of a message; `fuel` is more than its length. -/
def fill? : Nat → Text → Source → Option Text
  | 0, _, _ => none
  | _ + 1, [], .inOrder (_ :: _) => none
  | _ + 1, [], _ => some []
  | fuel + 1, c :: rest, source =>
    if c ≠ '%' then (fill? fuel rest source).map (c :: ·)
    else
      match Text.after? "%" rest with
      | some rest => (fill? fuel rest source).map (c :: ·)
      | none => do
        let (s, rest) ← slot? rest
        let (shown, source) ← filled? s source
        (fill? fuel rest source).map (shown ++ ·)

/-- The text of a message.  Without arguments it is taken as it is; a single mapping fills places
by name. -/
def text? (message : Text) (args : List Value) : Option Text :=
  match args with
  | [] => some message
  | [.map (e :: entries)] =>
    let entries := e :: entries
    fill? (message.length + 1) message (.byName entries (some (.map entries)))
  | args => fill? (message.length + 1) message (.inOrder args)

end Message

end Localize
