import Localize.Charset.Multibyte

/-!
# Charsets with escape sequences

These charsets use seven bits.  A sequence of bytes of its own says in which table the bytes behind
it are numbers, and so what is read depends on what stands before it.

* In HZ a tilde and a brace switch between ASCII and GB 2312.
* In ISO 2022 an escape sequence *designates* a table to one of three places.  The first is in use,
  the second after a shift, and a code point at a time can be taken from the third.  The variants
  differ in the tables that can be designated.
-/

set_option autoImplicit false

namespace Localize

namespace Charset

/-! ## HZ -/

/-- What bytes in HZ begin with, in GB 2312 or in ASCII. -/
def hzStep (chinese : Bool) (b : UInt8) (rest : Bytes) : Step × Bool :=
  if b = 0x7E then
    match rest, chinese with
    | [], _ => (.cut, chinese)
    | 0x7E :: _, false => (.read ['~'] 2, false)
    | 0x7B :: _, false => (.read [] 2, true)
    | 0x0A :: _, false => (.read [] 2, false)
    | 0x7D :: _, true => (.read [] 2, false)
    | _, _ => (.meaningless 1, chinese)
  else if 0x80 ≤ b.toNat then (.meaningless 1, chinese)
  else if !chinese then (.read [CodePoint.ofNat b.toNat] 1, chinese)
  else
    match rest with
    | [] => (.cut, chinese)
    | c :: _ =>
      let code := do Table.gb2312.get? (← index94? (b.toNat + 0x80) (c.toNat + 0x80))
      (.ofText? 2 (code.map fun c => [c]), chinese)

/-! ## ISO 2022 -/

namespace Iso2022

/-- A table that can be designated. -/
inductive Designated
  | ascii
  | roman
  | halfWidth
  | jis0208
  | jis0212
  | jis0213 (second : Bool)
  | jis0213Second (second : Bool)
  | ksx1001
  | gb2312
  | latin
  | greek
deriving DecidableEq, Repr

/-- A variant of ISO 2022. -/
inductive Variant
  | jp
  | jp1
  | jp2
  | jp3
  | jp2004
  | jpExt
  | kr
deriving DecidableEq, Repr

namespace Variant

/-- The name that a variant has in messages. -/
def name : Variant → Text
  | jp => "iso2022_jp"
  | jp1 => "iso2022_jp_1"
  | jp2 => "iso2022_jp_2"
  | jp3 => "iso2022_jp_3"
  | jp2004 => "iso2022_jp_2004"
  | jpExt => "iso2022_jp_ext"
  | kr => "iso2022_kr"

/-- A table by the last letter of its escape sequence; `wide` tables have two bytes. -/
def designated? (v : Variant) (wide : Bool) (letter : UInt8) : Option Designated :=
  let isJapanese := v ≠ kr
  let isPlain := v = jp || v = jp1 || v = jp2 || v = jpExt
  match wide, (CodePoint.ofNat letter.toNat).toChar? with
  | false, some 'B' => some .ascii
  | false, some 'J' => if isPlain then some .roman else none
  | false, some 'I' => if v = jpExt then some .halfWidth else none
  | false, some 'A' => if v = jp2 then some .latin else none
  | false, some 'F' => if v = jp2 then some .greek else none
  | true, some 'B' => if isJapanese then some .jis0208 else none
  | true, some '@' => if isPlain then some .jis0208 else none
  | true, some 'D' => if v = jp1 ∨ v = jp2 ∨ v = jpExt then some .jis0212 else none
  | true, some 'C' => if v = jp2 ∨ v = kr then some .ksx1001 else none
  | true, some 'A' => if v = jp2 then some .gb2312 else none
  | true, some 'O' => if v = jp3 then some (.jis0213 false) else none
  | true, some 'Q' => if v = jp2004 then some (.jis0213 true) else none
  | true, some 'P' =>
    if v = jp3 then some (.jis0213Second false)
    else if v = jp2004 then some (.jis0213Second true)
    else none
  | _, _ => none

/-- A code point can be taken from a third table. -/
def hasThird (v : Variant) : Bool := v = jp2

/-- A shift puts the second table into use. -/
def hasShift (v : Variant) : Bool := v = kr

end Variant

/-- What has been designated. -/
structure State where
  first : Designated := .ascii
  second : Designated := .ascii
  third : Designated := .ascii
  /-- The second table is in use. -/
  shifted : Bool := false
  /-- The bytes of an escape sequence that designates nothing go through as they are. -/
  passing : Bool := false
deriving DecidableEq, Repr

/-- A byte ends an escape sequence. -/
def isEnd (b : UInt8) : Bool := (0x41 ≤ b.toNat && b.toNat ≤ 0x5A) || b = 0x40

/-- The length of an escape sequence by the bytes after its first, as far as it can be known, or
zero if it has no end.  In some variants the bytes of an ampersand and an at sign do not end one. -/
def escapeLength (skips : Bool) : Nat → Nat → Bytes → Option Nat
  | 0, _, _ => some 0
  | _ + 1, _, [] => none
  | fuel + 1, i, b :: rest =>
    if isEnd b then some (i + 1)
    else
      match skips, b, rest with
      | true, 0x26, 0x40 :: _ :: rest =>
        if fuel < 3 then some 0 else escapeLength skips (fuel - 2) (i + 3) rest
      | true, 0x26, [0x40] => if fuel < 3 then some 0 else none
      | _, _, rest => escapeLength skips fuel (i + 1) rest

/-- The state after a table has been designated to a place. -/
def designate (s : State) (place : UInt8) (d : Designated) : State :=
  if place = 0x29 then { s with second := d }
  else if place = 0x2E then { s with third := d }
  else { s with first := d }

/-- What an escape sequence does, which is given by the bytes after its first. -/
def escape (v : Variant) (s : State) (bytes : Bytes) : Step × State :=
  let designation (wide : Bool) (place letter : UInt8) (length : Nat) : Step × State :=
    match v.designated? wide letter with
    | some d => (.read [] length, designate s place d)
    | none => (.meaningless length, s)
  match escapeLength (v ≠ .kr) 15 1 bytes with
  | none => (.cut, s)
  | some 0 => (.meaningless 1, s)
  | some length =>
    match bytes.take (length - 1) with
    | [0x24, letter] => designation true 0x28 letter length
    | [0x2E, letter] =>
      if v.hasThird then designation false 0x2E letter length else (.meaningless length, s)
    | [place, letter] =>
      if place = 0x28 ∨ place = 0x29 then designation false place letter length
      else (.meaningless length, s)
    | [0x24, place, letter] =>
      if place = 0x28 ∨ place = 0x29 then designation true place letter length
      else (.meaningless length, s)
    | [_, _, 0x1B, 0x24, 0x42] =>
      if v = .kr then (.meaningless length, s) else designation true 0x28 0x42 length
    | _ => (.meaningless length, s)

/-- The upper half of the Greek code page. -/
def greek? (n : Nat) : Option CodePoint :=
  if n < 0xA0 ∨ n ∈ [0xA0, 0xA3, 0xA6, 0xA7, 0xA8, 0xA9, 0xAB, 0xAC, 0xAD, 0xB0, 0xB1, 0xB2, 0xB3,
      0xB7, 0xBB, 0xBD] then some (CodePoint.ofNat n)
  else if 0xB4 ≤ n ∧ n ≤ 0xFE ∧ n ∉ [0xB7, 0xBB, 0xBD, 0xD2] then
    some (CodePoint.ofNat (0x2D0 + n))
  else if n = 0xA1 then some 0x2018
  else if n = 0xA2 then some 0x2019
  else if n = 0xAF then some 0x2015
  else none

/-- A code point of the third table, after the two bytes that ask for it. -/
def third (s : State) (b : UInt8) : Step :=
  let n := b.toNat
  let code : Option CodePoint :=
    match s.third with
    | .latin => if n < 0x80 then some (CodePoint.ofNat (n + 0x80)) else none
    | .greek => greek? (if n < 0x80 then n + 0x80 else n - 0x80)
    | _ => if n < 0x80 then some (CodePoint.ofNat n) else none
  match code with
  | some c => .read [c] 3
  | none => .meaningless 3

/-- What two bytes stand for in a table. -/
def double? (d : Designated) (a b : Nat) : Option Text := do
  let one (c : Option CodePoint) : Option Text := c.map fun c => [c]
  let i ← index94? (a + 0x80) (b + 0x80)
  match d with
  | .jis0208 => one (Table.jis0208.get? i)
  | .jis0212 => one (Table.jis0212.get? i)
  | .jis0213 second => jis0213? second i
  | .jis0213Second second => one (jis0213Second? second i)
  | .ksx1001 => one (Table.ksx1001.get? i)
  | .gb2312 => one (Table.gb2312.get? i)
  | _ => none

/-- What bytes begin with that are numbers in a table. -/
def numbered (d : Designated) (b : UInt8) (rest : Bytes) : Step :=
  let n := b.toNat
  match d with
  | .ascii => .read [CodePoint.ofNat n] 1
  | .roman => .read [Charset.roman n] 1
  | .halfWidth =>
    match halfWidth? (n + 0x80) with
    | some c => .read [c] 1
    | none => .meaningless 1
  | .latin | .greek => .meaningless 1
  | d =>
    match rest with
    | [] => .cut
    | c :: _ =>
      match double? d n c.toNat with
      | some t => .read t 2
      | none => .meaningless 2

/-- A byte that an escape sequence which designates something may have after its first. -/
def isIntroduction (b : UInt8) : Bool :=
  b = 0x28 || b = 0x29 || b = 0x24 || b = 0x2E || b = 0x26

/-- What bytes begin with. -/
def step (v : Variant) (s : State) (b : UInt8) (rest : Bytes) : Step × State :=
  let one : Step := .read [CodePoint.ofNat b.toNat] 1
  if s.passing then (one, { s with passing := !isEnd b })
  else if b = 0x1B then
    match rest with
    | [] => (.cut, s)
    | second :: more =>
      if isIntroduction second then escape v s rest
      else if v.hasThird ∧ second = 0x4E then
        match more with
        | [] => (.cut, s)
        | c :: _ => (third s c, s)
      else (one, { s with passing := true })
  else if v.hasShift ∧ (b = 0x0E ∨ b = 0x0F) then (.read [] 1, { s with shifted := b = 0x0E })
  else if b = 0x0A then (one, { s with shifted := false })
  else if b.toNat < 0x20 then (one, s)
  else if 0x80 ≤ b.toNat then (.meaningless 1, s)
  else (numbered (if s.shifted then s.second else s.first) b rest, s)

end Iso2022

end Charset

end Localize
