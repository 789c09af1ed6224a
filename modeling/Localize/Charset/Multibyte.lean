import Localize.Charset.Step
import Localize.Charset.Table.Chinese
import Localize.Charset.Table.Japanese
import Localize.Charset.Table.Korean

/-!
# Charsets of one, two and more bytes

The charsets of China, Japan and Korea write ASCII in one byte and most other code points in two.
The numbers of two bytes are numbers in the tables of national standards; which table, and how the
bytes are counted, is what the charsets differ in (`Multibyte.double?`).

A first byte that needs another one is an error if the bytes end after it, and one that has no
meaning with the bytes behind it is an error alone.
-/

set_option autoImplicit false

namespace Localize

namespace Charset

/-! ## Numbers of two bytes -/

/-- The number of two bytes in a table with 94 rows and columns, both counted from 0xA1 on. -/
def index94? (a b : Nat) : Option Nat :=
  if 0xA1 ≤ a ∧ a ≤ 0xFE ∧ 0xA1 ≤ b ∧ b ≤ 0xFE then some ((a - 0xA1) * 94 + (b - 0xA1)) else none

/-- The place of a second byte among 157. -/
def place157? (b : Nat) : Option Nat :=
  if 0x40 ≤ b ∧ b ≤ 0x7E then some (b - 0x40)
  else if 0xA1 ≤ b ∧ b ≤ 0xFE then some (b - 0xA1 + 63)
  else none

/-- The place of a second byte among 188. -/
def place188? (b : Nat) : Option Nat :=
  if 0x40 ≤ b ∧ b ≤ 0x7E then some (b - 0x40)
  else if 0x80 ≤ b ∧ b ≤ 0xFC then some (b - 0x41)
  else none

/-- The place of a second byte among 190. -/
def place190? (b : Nat) : Option Nat :=
  if 0x40 ≤ b ∧ b ≤ 0x7E then some (b - 0x40)
  else if 0x80 ≤ b ∧ b ≤ 0xFE then some (b - 0x41)
  else none

/-! ## China -/

/-- The ideographs of Unicode that GB 2312 has not. -/
def ideographs : Array CodePoint := missing Table.gb2312.codes 0x4E00 0x9FA5

/-- How many ideographs of GBK stand before its rows of GB 2312. -/
def ideographsBefore : Nat := 6080

/-- An ideograph of GBK that GB 2312 has not. -/
def ideograph? (a b : Nat) : Option CodePoint := do
  let place ← place190? b
  if 0x81 ≤ a ∧ a ≤ 0xA0 then ideographs[(a - 0x81) * 190 + place]?
  else if 0xAA ≤ a ∧ b < 0xA1 then ideographs[ideographsBefore + (a - 0xAA) * 96 + place]?
  else none

/-- GBK. -/
def gbk? (a b : Nat) : Option CodePoint :=
  let extended := do Table.extendedGbk.get? ((a - 0x81) * 190 + (← place190? b))
  let standard := do Table.gb2312.get? (← index94? a b)
  if a = 0x80 then none else extended <|> standard <|> ideograph? a b

/-- The areas of GB 18030 for private use. -/
def privateGb18030? (a b : Nat) : Option CodePoint := do
  let place ← place190? b
  if 0xAA ≤ a ∧ a ≤ 0xAF ∧ 0xA1 ≤ b then
    return CodePoint.ofNat (0xE000 + (a - 0xAA) * 94 + (b - 0xA1))
  else if 0xF8 ≤ a ∧ a ≤ 0xFE ∧ 0xA1 ≤ b then
    return CodePoint.ofNat (0xE234 + (a - 0xF8) * 94 + (b - 0xA1))
  else if 0xA1 ≤ a ∧ a ≤ 0xA7 ∧ b < 0xA1 then
    return CodePoint.ofNat (0xE4C6 + (a - 0xA1) * 96 + place)
  else none

/-- What GB 18030 writes in two bytes. -/
def gb18030? (a b : Nat) : Option CodePoint :=
  let extended := do Table.extendedGb18030.get? ((a - 0x81) * 190 + (← place190? b))
  if a = 0x80 ∨ a = 0xFF then none else gbk? a b <|> extended <|> privateGb18030? a b

/-- The code points below 65536 that GB 18030 writes in four bytes. -/
def fourBytes : Array CodePoint :=
  let pairs := (List.range 126).flatMap fun a => (List.range 256).filterMap fun b =>
    gb18030? (a + 0x81) b
  (missing pairs 0x80 0xFFFF).filter (!·.isSurrogate)

/-- What GB 18030 writes in four bytes. -/
def fourBytes? (a b c d : Nat) : Option CodePoint :=
  if a < 0x81 ∨ 0xFE < a ∨ c < 0x81 ∨ 0xFE < c ∨ d < 0x30 ∨ 0x39 < d then none
  else
    let number (a : Nat) : Nat := ((a * 10 + (b - 0x30)) * 126 + (c - 0x81)) * 10 + (d - 0x30)
    if a < 0x85 then fourBytes[number (a - 0x81)]?
    else if a < 0x90 then none
    else
      let n := 0x10000 + number (a - 0x90)
      if n < 0x110000 then some (CodePoint.ofNat n) else none

/-! ## Taiwan and Hong Kong -/

/-- Big5. -/
def big5? (a b : Nat) : Option CodePoint := do
  let place ← place157? b
  if a < 0xA1 then none else Table.big5.get? ((a - 0xA1) * 157 + place)

/-- Code page 950. -/
def codepage950? (a b : Nat) : Option CodePoint := do
  let place ← place157? b
  if a < 0xA1 then none
  else Table.extended950.get? ((a - 0xA1) * 157 + place) <|> big5? a b

/-- The letters of the Hong Kong supplement that are two code points. -/
def hkscsPairs : List ((Nat × Nat) × Text) := [
  ((0x88, 0x62), [0xCA, 0x304]), ((0x88, 0x64), [0xCA, 0x30C]), ((0x88, 0xA3), [0xEA, 0x304]),
  ((0x88, 0xA5), [0xEA, 0x30C])]

/-- Two bytes that the Hong Kong supplement does not leave to Big5. -/
def isSupplement (a b : Nat) : Bool :=
  (a = 0xC6 && 0xA1 ≤ b) || a = 0xC7 || a = 0xC8

/-- Big5 with the Hong Kong supplement. -/
def hkscs? (a b : Nat) : Option Text :=
  let supplement : Option CodePoint := do
    if a < 0x87 then none else Table.hkscs.get? ((a - 0x87) * 157 + (← place157? b))
  let standard := if isSupplement a b then none else big5? a b
  ((supplement <|> standard).map fun c => [c]) <|> hkscsPairs.lookup (a, b)

/-! ## Japan -/

/-- The letters of JIS X 0213 that are two code points, by their numbers. -/
def jis0213Pairs : List (Nat × Text) := [
  (368, [0x304B, 0x309A]), (369, [0x304D, 0x309A]), (370, [0x304F, 0x309A]),
  (371, [0x3051, 0x309A]), (372, [0x3053, 0x309A]), (462, [0x30AB, 0x309A]),
  (463, [0x30AD, 0x309A]), (464, [0x30AF, 0x309A]), (465, [0x30B1, 0x309A]),
  (466, [0x30B3, 0x309A]), (467, [0x30BB, 0x309A]), (468, [0x30C4, 0x309A]),
  (469, [0x30C8, 0x309A]), (557, [0x31F7, 0x309A]), (975, [0xE6, 0x300]), (979, [0x254, 0x300]),
  (980, [0x254, 0x301]), (981, [0x28C, 0x300]), (982, [0x28C, 0x301]), (983, [0x259, 0x300]),
  (984, [0x259, 0x301]), (985, [0x25A, 0x300]), (986, [0x25A, 0x301]), (1008, [0x2E9, 0x2E5]),
  (1009, [0x2E5, 0x2E9])]

/-- The cells of the first plane of JIS X 0213 that were added in its second edition. -/
def addedCells : List Nat :=
  [1222, 1409, 4375, 4417, 7808, 8831, 8832, 8833, 8834, 8835]

/-- A cell of the second plane of JIS X 0213 that the second edition changed. -/
def changedCell : Nat := 8674

/-- The first plane of JIS X 0213, in its second edition or the first. -/
def jis0213? (second : Bool) (i : Nat) : Option Text :=
  if !second ∧ i ∈ addedCells then none
  else
    ((Table.jis0213.get? i <|> Table.jis0208.get? i).map fun c => [c]) <|> jis0213Pairs.lookup i

/-- The second plane of JIS X 0213. -/
def jis0213Second? (second : Bool) (i : Nat) : Option CodePoint :=
  if !second ∧ i = changedCell then some 0x9B1D else Table.jis0213Second.get? i

/-- The cell of the tilde in the first plane of JIS X 0213. -/
def tildeCell : Nat := 111

/-- The cell of the backslash in the first plane of JIS X 0213. -/
def backslashCell : Nat := 31

/-- The place of the first byte of two, counted without the gap for half-width letters. -/
def leadPlace (a : Nat) : Nat := if a < 0xE0 then a - 0x81 else a - 0xC1

/-- The row of the second plane of JIS X 0213 that comes at a place behind the first plane. -/
def secondRow (place : Nat) : Nat :=
  let row := place + 94
  if 0x67 ≤ row then row - 0x1A
  else if 0x63 ≤ row ∨ row = 0x5F then row - 0x58
  else row - 0x5E

/-- JIS X 0213 by two bytes that are counted in 188 places. -/
def shifted0213? (second : Bool) (a b : Nat) : Option Text := do
  let place ← place188? b
  let i := leadPlace a * 188 + place
  if i = backslashCell then return [0x5C]
  else if i < 94 * 94 then jis0213? second i
  else
    let behind := i - 94 * 94
    (jis0213Second? second (secondRow (behind / 94) * 94 + behind % 94)).map fun c => [c]

/-- Code page 932. -/
def codepage932? (a b : Nat) : Option CodePoint := do
  let place ← place188? b
  let extended := Table.extended932.get? ((a - 0x81) * 188 + place)
  if 0xF0 ≤ a ∧ a ≤ 0xF9 then return CodePoint.ofNat (0xE000 + 188 * (a - 0xF0) + place)
  else extended <|> Table.jis0208.get? (leadPlace a * 188 + place)

/-- A half-width letter of Japanese. -/
def halfWidth? (b : Nat) : Option CodePoint :=
  if 0xA1 ≤ b ∧ b ≤ 0xDF then some (CodePoint.ofNat (0xFEC0 + b)) else none

/-- The Japanese variant of ASCII. -/
def roman (b : Nat) : CodePoint :=
  if b = 0x5C then 0xA5 else if b = 0x7E then 0x203E else CodePoint.ofNat b

/-! ## Korea -/

/-- The syllables of Unicode that KS X 1001 has not. -/
def syllables : Array CodePoint := missing Table.ksx1001.codes 0xAC00 0xD7A3

/-- KS X 1001. -/
def ksx1001? (a b : Nat) : Option CodePoint := do Table.ksx1001.get? (← index94? a b)

/-- The place of a second byte among 178. -/
def place178? (b : Nat) : Option Nat :=
  if 0x41 ≤ b ∧ b ≤ 0x5A then some (b - 0x41)
  else if 0x61 ≤ b ∧ b ≤ 0x7A then some (b - 0x61 + 26)
  else if 0x81 ≤ b ∧ b ≤ 0xFE then some (b - 0x81 + 52)
  else none

/-- A syllable of code page 949 that KS X 1001 has not. -/
def syllable? (a b : Nat) : Option CodePoint := do
  let place ← place178? b
  if 0x81 ≤ a ∧ a ≤ 0xA0 then syllables[(a - 0x81) * 178 + place]?
  else if 0xA1 ≤ a ∧ a ≤ 0xC6 ∧ place < 84 then
    syllables[32 * 178 + (a - 0xA1) * 84 + place]?
  else none

/-- The consonants a syllable can begin with, as letters of their own. -/
def initials : Text := "ㄱㄲㄴㄷㄸㄹㅁㅂㅃㅅㅆㅇㅈㅉㅊㅋㅌㅍㅎ"

/-- The consonants a syllable can end with, as letters of their own. -/
def finals : Text := "ㄱㄲㄳㄴㄵㄶㄷㄹㄺㄻㄼㄽㄾㄿㅀㅁㅂㅄㅅㅆㅇㅈㅊㅋㅌㅍㅎ"

/-- The vowels, as letters of their own. -/
def vowels : Text := "ㅏㅐㅑㅒㅓㅔㅕㅖㅗㅘㅙㅚㅛㅜㅝㅞㅟㅠㅡㅢㅣ"

/-- The syllable of an initial, a vowel and a final, the latter counted from one on. -/
def syllable (first middle last : Nat) : CodePoint :=
  CodePoint.ofNat (0xAC00 + (first * 21 + middle) * 28 + last)

/-- What five bits say about a part of a syllable: it is missing, or the part of a number. -/
abbrev SyllablePart := Option (Option Nat)

/-- The initial of five bits. -/
def initialBits (n : Nat) : SyllablePart :=
  if n = 1 then some none else if 2 ≤ n ∧ n ≤ 20 then some (some (n - 2)) else none

/-- The vowel of five bits. -/
def vowelBits (n : Nat) : SyllablePart :=
  if n = 2 then some none
  else if n < 3 ∨ 29 < n ∨ n % 8 < 2 then none
  else some (some (n - 3 - n / 8 * 2))

/-- The final of five bits. -/
def finalBits (n : Nat) : SyllablePart :=
  if n = 1 then some none
  else if n < 1 ∨ n = 18 ∨ 29 < n then none
  else some (some (if n < 18 then n - 2 else n - 3))

/-- A syllable, or a letter of one, in sixteen bits. -/
def johabSyllable? (a b : Nat) : Option CodePoint := do
  let first ← initialBits (a / 4 % 32)
  let middle ← vowelBits ((a * 8 + b / 32) % 32)
  let last ← finalBits (b % 32)
  match first, middle, last with
  | none, none, none => return 0x3000
  | none, none, some k => finals[k]?
  | none, some v, none => vowels[v]?
  | some i, none, none => initials[i]?
  | some i, some v, none => return syllable i v 0
  | some i, some v, some k => return syllable i v (k + 1)
  | _, _, _ => none

/-- A code point of Johab that is no syllable. -/
def johabSymbol? (a b : Nat) : Option CodePoint :=
  if a = 0xDF ∨ 0xF9 < a ∨ b < 0x31 ∨ (0x80 ≤ b ∧ b < 0x91) ∨ b % 0x80 = 0x7F then none
  else if a = 0xDA ∧ 0xA1 ≤ b ∧ b ≤ 0xD3 then none
  else
    let row := if a < 0xE0 then 2 * (a - 0xD9) else 2 * a - 0x197
    let place := if b < 0x91 then b - 0x31 else b - 0x43
    if a = 0xD8 then none else Table.ksx1001.get? (row * 94 + place)

/-- Johab. -/
def johab? (a b : Nat) : Option CodePoint :=
  if a < 0xD8 then johabSyllable? a b else johabSymbol? a b

/-- The number of a letter among those of a syllable. -/
def letterIn? (letters : Text) (b : Nat) : Option Nat :=
  if 0xA1 ≤ b ∧ b ≤ 0xD3 then letters.idxOf? (CodePoint.ofNat (0x3131 + (b - 0xA1))) else none

/-- A syllable that is spelled out: four letters of two bytes each, the first of which only says so.
Given are the bytes behind it. -/
def spelled? (bytes : List Nat) : Option CodePoint :=
  match bytes with
  | [0xA4, i, 0xA4, v, 0xA4, k] => do
    let first ← letterIn? initials i
    let middle ← letterIn? vowels v
    if k = 0xD4 then return syllable first middle 0
    else return syllable first middle ((← letterIn? finals k) + 1)
  | _ => none

/-! ## The charsets -/

/-- A charset of one, two and more bytes. -/
inductive Multibyte
  | gb2312
  | gbk
  | gb18030
  | big5
  | cp950
  | big5hkscs
  | shiftJis
  | cp932
  /-- Shift JIS with JIS X 0213, in its second edition or the first. -/
  | shiftJis0213 (second : Bool)
  | eucJp
  | eucJis0213 (second : Bool)
  | eucKr
  | cp949
  | johab
deriving DecidableEq, Repr

namespace Multibyte

/-- The name that a charset has in messages. -/
def name : Multibyte → Text
  | gb2312 => "gb2312"
  | gbk => "gbk"
  | gb18030 => "gb18030"
  | big5 => "big5"
  | cp950 => "cp950"
  | big5hkscs => "big5hkscs"
  | shiftJis => "shift_jis"
  | cp932 => "cp932"
  | shiftJis0213 second => if second then "shift_jis_2004" else "shift_jisx0213"
  | eucJp => "euc_jp"
  | eucJis0213 second => if second then "euc_jis_2004" else "euc_jisx0213"
  | eucKr => "euc_kr"
  | cp949 => "cp949"
  | johab => "johab"

/-- What one byte stands for. -/
def single? (m : Multibyte) (b : Nat) : Option CodePoint :=
  match m with
  | shiftJis0213 _ => if b < 0x80 then some (roman b) else halfWidth? b
  | shiftJis => if b < 0x80 then some (CodePoint.ofNat b) else halfWidth? b
  | cp932 =>
    if b ≤ 0x80 then some (CodePoint.ofNat b)
    else if b = 0xA0 then some 0xF8F0
    else if 0xFD ≤ b then some (CodePoint.ofNat (0xF8F1 + (b - 0xFD)))
    else halfWidth? b
  | _ => if b < 0x80 then some (CodePoint.ofNat b) else none

/-- A byte that stands for nothing alone asks for another one. -/
def isLead (m : Multibyte) (b : Nat) : Bool :=
  match m with
  | shiftJis => b ≠ 0x80 && b ≠ 0xA0 && b < 0xEB
  | shiftJis0213 _ => b ≠ 0x80 && b ≠ 0xA0 && b < 0xFD
  | _ => true

/-- What two bytes stand for. -/
def double? (m : Multibyte) (a b : Nat) : Option Text :=
  let one (c : Option CodePoint) : Option Text := c.map fun c => [c]
  match m with
  | gb2312 => one do Table.gb2312.get? (← index94? a b)
  | gbk => one (gbk? a b)
  | gb18030 => one (gb18030? a b)
  | big5 => one (big5? a b)
  | cp950 => one (codepage950? a b)
  | big5hkscs => hkscs? a b
  | shiftJis => one do Table.jis0208.get? (leadPlace a * 188 + (← place188? b))
  | cp932 => one (codepage932? a b)
  | shiftJis0213 second => shifted0213? second a b
  | eucJp => if a = 0x8E then one (halfWidth? b) else one do Table.jis0208.get? (← index94? a b)
  | eucJis0213 second =>
    if a = 0x8E then one (halfWidth? b)
    else do
      let i ← index94? a b
      if i = tildeCell then return [0xFF5E] else jis0213? second i
  | eucKr => one (ksx1001? a b)
  | cp949 => one (ksx1001? a b <|> syllable? a b)
  | johab => one (johab? a b)

/-- What two bytes after a mark for a third table stand for. -/
def third? (m : Multibyte) (a b : Nat) : Option CodePoint := do
  let i ← index94? a b
  match m with
  | eucJis0213 second => jis0213Second? second i <|> Table.jis0212.get? i
  | _ => Table.jis0212.get? i

/-- Two bytes are the number of what the edition of JIS X 0213 does not have yet. -/
def isLater (m : Multibyte) (a b : Nat) : Bool :=
  let cell : Option Nat :=
    match m with
    | eucJis0213 false => index94? a b
    | shiftJis0213 false => (place188? b).map (leadPlace a * 188 + ·)
    | _ => none
  cell.any (· ∈ addedCells)

/-- What bytes begin with that begin with two that belong together. -/
def pair (m : Multibyte) (a b : Nat) (rest : Bytes) : Step :=
  let one (c : Option CodePoint) : Option Text := c.map fun c => [c]
  match m, a, b with
  | gb18030, a, b =>
    if 0x30 ≤ b ∧ b ≤ 0x39 then
      match rest with
      | c :: d :: _ => Step.ofText? 4 (one (fourBytes? a b c.toNat d.toNat))
      | _ => Step.cut
    else Step.ofText? 2 (m.double? a b)
  | eucJp, 0x8F, b | eucJis0213 _, 0x8F, b =>
    match rest with
    | c :: _ => Step.ofText? 3 (one (m.third? b c.toNat))
    | [] => Step.cut
  | eucKr, 0xA4, 0xD4 =>
    if rest.length < 6 then Step.cut
    else Step.ofText? 8 (one (spelled? ((rest.take 6).map (·.toNat))))
  | m, a, b => if m.isLater a b then Step.meaningless 2 else Step.ofText? 2 (m.double? a b)

/-- What bytes begin with. -/
def step (m : Multibyte) (b : UInt8) (rest : Bytes) : Step :=
  match m.single? b.toNat with
  | some c => .read [c] 1
  | none =>
    if !m.isLead b.toNat then Step.meaningless 1
    else
      match rest with
      | [] => Step.cut
      | second :: rest => m.pair b.toNat second.toNat rest

/-- Reads bytes in a charset of one, two and more. -/
def read (m : Multibyte) (final : Bool) (data : Bytes) : Part :=
  readPlainSteps m.name final m.step data

end Multibyte

end Charset

end Localize
