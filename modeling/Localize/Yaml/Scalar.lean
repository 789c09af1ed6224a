import Localize.Number.Written
import Localize.Text.Base64
import Localize.Unicode.LowerCase
import Localize.Value.Basic
import Localize.Yaml.Cursor

/-!
# Scalars of YAML

A scalar has a tag, which says what kind of value its text stands for.  A plain scalar without a
tag gets one from its form (`Tag.ofPlain`): `no` is a switch, `010` an integer in base eight, and
`1e3` a text, because an exponent needs a sign and a point before it.  `Scalar.value` reads the
text by its tag.  The tags of collections are here too, since any node may be given any tag.
-/

set_option autoImplicit false

namespace Localize

namespace Yaml

/-- What kind of value a node stands for. -/
inductive Tag
  | null
  | switch
  | integer
  | decimal
  | moment
  | text
  | bytes
  | list
  | map
  | set
  /-- A list of pairs, each written as a mapping with one entry. -/
  | pairs
  /-- The key that merges other mappings into its own. -/
  | merge
  /-- The key of a mapping's own value. -/
  | own
  | unknown
deriving DecidableEq, Repr

namespace Tag

/-- Where the names of the common tags begin. -/
def common : Text := "tag:yaml.org,2002:"

/-- The common tags by name. -/
def names : List (Text × Tag) := [
  ("null", null), ("bool", switch), ("int", integer), ("float", decimal), ("timestamp", moment),
  ("str", text), ("binary", bytes), ("seq", list), ("map", map), ("set", set), ("omap", pairs),
  ("pairs", pairs), ("merge", merge), ("value", own)]

/-- The tag of a full name. -/
def ofName (name : Text) : Tag :=
  match Text.after? common name with
  | some short => (names.lookup short).getD unknown
  | none => unknown

end Tag

namespace Scalar

/-! ## Forms of plain scalars -/

/-- The words for truth values, each also capitalized and in capitals. -/
def switchWords : List Text := [
  "yes", "Yes", "YES", "no", "No", "NO", "true", "True", "TRUE", "false", "False", "FALSE",
  "on", "On", "ON", "off", "Off", "OFF"]

/-- The words for nothing. -/
def nullWords : List Text := ["", "~", "null", "Null", "NULL"]

/-- The marks that mean something to YAML and stand for no value. -/
def reserved : List Text := ["!", "&", "*"]

/-- A digit or an underscore. -/
def isDigitMark (c : CodePoint) : Bool := c.isDigit || c = '_'

/-- A digit, and then digits and underscores. -/
def isDigits (t : Text) : Bool :=
  match t with
  | c :: rest => c.isDigit && rest.all isDigitMark
  | [] => false

/-- Digits and underscores that do not begin with a zero. -/
def isPositive (t : Text) : Bool := isDigits t && t.head? ≠ some (CodePoint.ofChar '0')

/-- One or two digits of a number below sixty. -/
def isSixtieth (t : Text) : Bool :=
  match t with
  | [d] => d.isDigit
  | [d, e] => (d.digit?.getD 9) < 6 && e.isDigit
  | _ => false

/-- Whole numbers: binary, octal, decimal, hexadecimal, and in sixtieths. -/
def isInteger (t : Text) : Bool :=
  let (_, t) := Text.unsigned t
  match Text.after? "0b" t, Text.after? "0x" t, Text.after? "0" t, Text.splitOn ":" t with
  | some digits, _, _, _ => digits ≠ [] && digits.all (oneOf "01_")
  | _, some digits, _, _ => digits ≠ [] && digits.all fun c => c.isHexDigit || c = '_'
  | _, _, some digits, _ => digits.all (oneOf "01234567_")
  | _, _, _, whole :: sixtieths => isPositive whole && sixtieths.all isSixtieth
  | _, _, _, [] => false

/-- An exponent, sign included, or nothing. -/
def isExponent (t : Option Text) : Bool :=
  match t with
  | none => true
  | some (sign :: digits) => oneOf "+-" sign && digits ≠ [] && digits.all CodePoint.isDigit
  | some [] => false

/-- Numbers with a point. -/
def isDecimal (t : Text) : Bool :=
  let (_, body) := Text.unsigned t
  let infinity : List Text := [".inf", ".Inf", ".INF"]
  let undefined : List Text := [".nan", ".NaN", ".NAN"]
  if infinity.elem body || undefined.elem t then true
  else
    match Text.breakOn "." body with
    | none => false
    | some ([], part) =>
      let (part, exponent) := Text.breakExponent part
      body = t && isDigits part && isExponent exponent
    | some (whole, part) =>
      match Text.splitOn ":" whole with
      | [whole] =>
        let (part, exponent) := Text.breakExponent part
        isDigits whole && part.all isDigitMark && isExponent exponent
      | whole :: sixtieths =>
        isDigits whole && sixtieths.all isSixtieth && part.all isDigitMark
      | [] => false

/-! ## Moments -/

/-- A moment as it is written: the texts of its parts. -/
structure MomentText where
  year : Text
  month : Text
  day : Text
  /-- Hour, minute, second and the digits of a fraction. -/
  clock : Option (Text × Text × Text × Text)
  /-- Whether the zone is west, and its hours and minutes. -/
  zone : Option (Bool × Text × Text)

/-- Digits at the start of a text, of a least and a greatest number, and what follows. -/
def digitRun? (least most : Nat) (t : Text) : Option (Text × Text) :=
  let digits := (t.take most).takeWhile CodePoint.isDigit
  if digits.length < least then none else some (digits, t.drop digits.length)

/-- The zone at the end of a moment. -/
def zoneOf? (t : Text) : Option (Option (Bool × Text × Text)) :=
  let zone := t.dropWhile isBlank
  if t = [] then some none
  else if zone = ("Z" : Text) then some (some (false, [], []))
  else
    match zone with
    | sign :: zone =>
      if oneOf "+-" sign then do
        let (hours, rest) ← digitRun? 1 2 zone
        let west := sign = CodePoint.ofChar '-'
        if rest = [] then return some (west, hours, [])
        else
          let (minutes, rest) ← digitRun? 2 2 (← Text.after? ":" rest)
          if rest = [] then return some (west, hours, minutes) else none
      else none
    | [] => none

/-- The parts of a moment, if a text has the form of one. -/
def momentText? (t : Text) : Option MomentText := do
  let (year, t) ← digitRun? 4 4 t
  let (month, t) ← digitRun? 1 2 (← Text.after? "-" t)
  let (day, t) ← digitRun? 1 2 (← Text.after? "-" t)
  if t = [] then return ⟨year, month, day, none, none⟩
  else
    let blanks := t.takeWhile isBlank
    let t ←
      if blanks ≠ [] then some (t.drop blanks.length)
      else (Text.after? "T" t) <|> (Text.after? "t" t)
    let (hour, t) ← digitRun? 1 2 t
    let (minute, t) ← digitRun? 2 2 (← Text.after? ":" t)
    let (second, t) ← digitRun? 2 2 (← Text.after? ":" t)
    let (fraction, t) :=
      match Text.after? "." t with
      | some t => (t.takeWhile CodePoint.isDigit, t.dropWhile CodePoint.isDigit)
      | none => ([], t)
    let zone ← zoneOf? t
    return ⟨year, month, day, some (hour, minute, second, fraction), zone⟩

/-- A text without a line end at its end. -/
def withoutEnd (t : Text) : Text := if t.getLast? = some 0x0A then t.dropLast else t

/-- Moments, and dates whose month and day have two digits. -/
def isMoment (t : Text) : Bool :=
  match momentText? t with
  | some m => m.clock.isSome || (m.month.length = 2 && m.day.length = 2)
  | none => false

/-! ## Values -/

/-- Reads a part of an integer. -/
def integerPart (base : Nat) (t : Text) : Except Nonsense Int :=
  match Text.integer base t with
  | .ok i => .ok i
  | .error .unreadable => .error (.integer base t)
  | .error (.digits count) => .error (.digits count)

/-- Reads sixtieths, each part worth sixty of the next. -/
def sixtieths (parts : List Int) : Int := parts.foldl (fun n part => n * 60 + part) 0

/-- Reads an integer. -/
def integer (t : Text) : Except Nonsense Int := do
  let t := t.filter (· ≠ CodePoint.ofChar '_')
  if t = [] then throw .empty
  else
    let (negative, t) := Text.unsigned t
    let n ←
      if t = ("0" : Text) then pure 0
      else
        match Text.after? "0b" t, Text.after? "0x" t with
        | some digits, _ => integerPart 2 digits
        | _, some digits => integerPart 16 digits
        | none, none =>
          match t with
          | [] => throw .empty
          | c :: _ =>
            if c = '0' then integerPart 8 t
            else if c ∈ t ∧ CodePoint.ofChar ':' ∈ t then
              sixtieths <$> (Text.splitOn ":" t).mapM (integerPart 10)
            else integerPart 10 t
    return if negative then -n else n

/-- Reads a part of a number. -/
def decimalPart (t : Text) : Except Nonsense Binary64 :=
  match Text.fraction? t with
  | some x => .ok x
  | none => .error (.decimal t)

/-- The sum of parts, the first worth a number of units and each other sixty times as many as the
one before. -/
def sumSixtieths (units : Nat) (sum : Binary64) : List Binary64 → Except Nonsense Binary64
  | [] => .ok sum
  | x :: rest =>
    match Binary64.ofInt units with
    | .finite s m e => sumSixtieths (units * 60) (sum.add (x.mul (.finite s m e))) rest
    | _ => .error .sixtieths

/-- Reads a number with a point. -/
def decimal (t : Text) : Except Nonsense Binary64 := do
  let t := Text.lower (t.filter (· ≠ CodePoint.ofChar '_'))
  if t = [] then throw .empty
  else
    let (negative, t) := Text.unsigned t
    let x ←
      if t = (".inf" : Text) then pure (.infinite false)
      else if t = (".nan" : Text) then pure .nan
      else if CodePoint.ofChar ':' ∈ t then do
        let parts ← (Text.splitOn ":" t).mapM decimalPart
        sumSixtieths 1 (.zero false) parts.reverse
      else decimalPart t
    return if negative then x.neg else x

/-- The year has a day more. -/
def isLeap (year : Nat) : Bool := year % 4 = 0 && (year % 100 ≠ 0 || year % 400 = 0)

/-- The number of days of a month. -/
def daysIn (year month : Nat) : Nat :=
  if month = 2 then (if isLeap year then 29 else 28)
  else if month ∈ [4, 6, 9, 11] then 30 else 31

/-- A day that the calendar has. -/
def date (year month day : Nat) : Except Nonsense Date :=
  if year = 0 then .error (.year year)
  else if month < 1 ∨ 12 < month then .error .month
  else if day < 1 ∨ daysIn year month < day then .error .day
  else .ok ⟨year, month, day⟩

/-- Reads a date or a moment. -/
def moment (t : Text) : Except Nonsense Value := do
  match momentText? (withoutEnd t) with
  | none => throw .moment
  | some m =>
    let year := Text.decimalOf m.year
    let month := Text.decimalOf m.month
    let day := Text.decimalOf m.day
    match m.clock with
    | none => return .date (← date year month day)
    | some (hour, minute, second, fraction) =>
      let zone ←
        match m.zone with
        | none => pure none
        | some (west, hours, minutes) =>
          let distance : Int := Text.decimalOf hours * 60 + Text.decimalOf minutes
          let distance := if west then -distance else distance
          if 1440 ≤ distance.natAbs then throw (.zone distance) else pure (some distance)
      let day ← date year month day
      let hour := Text.decimalOf hour
      let minute := Text.decimalOf minute
      let second := Text.decimalOf second
      if 23 < hour then throw .hour
      else if 59 < minute then throw .minute
      else if 59 < second then throw .second
      else
        let digits := fraction.take 6
        let microsecond := Text.decimalOf digits * Nat.pow 10 (6 - digits.length)
        return .moment ⟨day, hour, minute, second, microsecond, zone⟩

/-- Reads a truth value. -/
def switch (t : Text) : Except Nonsense Bool :=
  let word := t.lower
  let on : List Text := ["yes", "true", "on"]
  let off : List Text := ["no", "false", "off"]
  if on.elem word then .ok true else if off.elem word then .ok false else .error (.switch word)

/-- Nonsense is a fault of the stream. -/
def faulty {α : Type} : Except Nonsense α → Except Fault α
  | .ok a => .ok a
  | .error n => .error (.nonsense n)

/-- The value of a scalar by its tag. -/
def value (tag : Tag) (t : Text) : Except Fault Value :=
  match tag with
  | .null => .ok .null
  | .switch => faulty (.bool <$> switch t)
  | .integer => faulty (.int <$> integer t)
  | .decimal => faulty (.float <$> decimal t)
  | .moment => faulty (moment t)
  | .text => .ok (.text t)
  | .bytes => ((Base64.decode? t).map Value.bytes).getDM (.error .malformed)
  | .list | .map | .set | .pairs | .merge | .own | .unknown => .error .malformed

end Scalar

/-- The tag of a plain scalar by its form.  A line end at the end of the text is no part of the
form, but there has to be something before it. -/
def Tag.ofPlain (t : Text) : Tag :=
  let form := if t = [0x0A] then t else Scalar.withoutEnd t
  if Scalar.nullWords.elem form then .null
  else if Scalar.switchWords.elem form then .switch
  else if Scalar.isDecimal form then .decimal
  else if Scalar.isInteger form then .integer
  else if Scalar.isMoment form then .moment
  else if form = ("<<" : Text) then .merge
  else if form = ("=" : Text) then .own
  else if Scalar.reserved.elem form then .unknown
  else .text

end Yaml

end Localize
