import Localize.Charset.Escaped
import Localize.Charset.Name
import Localize.Charset.Punycode
import Localize.Charset.Utf7
import Localize.Charset.Wide

/-!
# Reading bytes in a charset

Bytes come in pieces of a fixed size, and each is read as a whole (`Charset.readPiece`): what a
piece leaves over is put before the next one, and positions in messages count from the first of the
bytes that are read together.  So a piece with a fault in it gives no text at all, while the text of
the pieces before it is there (`Charset.Decoded`).
-/

set_option autoImplicit false

namespace Localize

namespace Charset

/-- Reads bytes each of which is a code point, from a position on. -/
def readEach (charset reason : Text) (codeOf : UInt8 → Option CodePoint) : Nat → Bytes → Part
  | _, [] => .ok ([], [])
  | pos, b :: rest =>
    match codeOf b with
    | some c => Part.cons c (readEach charset reason codeOf (pos + 1) rest)
    | none => .error ⟨charset, pos, b, 1, reason⟩

/-- The code points of a code page. -/
def codeIn (codes : Array Char) (b : UInt8) : Option CodePoint :=
  match codes[b.toNat]? with
  | some c => if c = unassigned then none else some (CodePoint.ofChar c)
  | none => none

/-- Reads UTF-8. -/
def readUtf8 (final : Bool) (data : Bytes) : Part :=
  match Utf8.decode data with
  | .ok t => .ok (t, [])
  | .error e =>
    if e.fault = .truncated ∧ !final then
      match Utf8.decode (data.take e.start) with
      | .ok t => .ok (t, data.drop e.start)
      | .error e => .error (DecodeError.ofUtf8 e)
    else .error (DecodeError.ofUtf8 e)

/-- What a piece of bytes comes to. -/
structure Piece where
  text : Text
  /-- The bytes that are left over. -/
  rest : Bytes
  /-- The charset that the rest is in. -/
  charset : Charset

/-- The piece of a text and the bytes left over. -/
def Piece.ofPart (charset : Charset) (p : Part) : Except Fault Piece :=
  match p with
  | .ok (text, rest) => .ok ⟨text, rest, charset⟩
  | .error e => .error (.bytes e)

/-- The piece of what steps with a state have read; the state goes on with the rest. -/
def Piece.ofSteps {σ : Type} (charset : σ → Charset)
    (result : Except DecodeError (Text × Bytes × σ)) : Except Fault Piece :=
  match result with
  | .ok (text, rest, s) => .ok ⟨text, rest, charset s⟩
  | .error e => .error (.bytes e)

/-- The piece of bytes that should begin with a byte order mark of a size and do not. -/
def Piece.unmarked (charset : Charset) (name : Text) (size : Nat) (data : Bytes) (p : Part) :
    Except Fault Piece := do
  let piece ← Piece.ofPart charset p
  if size ≤ data.length - piece.rest.length then throw (.unmarked name) else return piece

/-- Reads a piece of bytes, the last one or another. -/
def readPiece (charset : Charset) (final : Bool) (data : Bytes) : Except Fault Piece :=
  match charset with
  | .ascii =>
    let codeOf (b : UInt8) := if isAsciiByte b then some (CodePoint.ofNat b.toNat) else none
    Piece.ofPart charset (readEach "ascii" "ordinal not in range(128)" codeOf 0 data)
  | .latin1 => .ok ⟨data.map fun b => CodePoint.ofNat b.toNat, [], charset⟩
  | .codepage codes =>
    let codeOf := codeIn codes.toList.toArray
    Piece.ofPart charset (readEach "charmap" "character maps to <undefined>" codeOf 0 data)
  | .utf8 => Piece.ofPart charset (readUtf8 final data)
  | .utf8Marked =>
    if Utf8.mark.isPrefixOf data then
      Piece.ofPart .utf8 (readUtf8 final (data.drop Utf8.mark.length))
    else if data.isPrefixOf Utf8.mark then .ok ⟨[], data, charset⟩
    else Piece.ofPart .utf8 (readUtf8 final data)
  | .utf7 => Piece.ofPart charset (readUtf7 final 0 none data)
  | .utf16 (some order) => Piece.ofPart charset (readUtf16 order final 0 data)
  | .utf16 none =>
    match data with
    | 0xFF :: 0xFE :: rest =>
      Piece.ofPart (.utf16 (some .little)) (readUtf16 .little final 2 rest)
    | 0xFE :: 0xFF :: rest => Piece.ofPart (.utf16 (some .big)) (readUtf16 .big final 2 rest)
    | _ => Piece.unmarked charset "UTF-16" 2 data (readUtf16 .little final 0 data)
  | .utf32 (some order) => Piece.ofPart charset (readUtf32 order final 0 data)
  | .utf32 none =>
    match data with
    | 0xFF :: 0xFE :: 0 :: 0 :: rest =>
      Piece.ofPart (.utf32 (some .little)) (readUtf32 .little final 4 rest)
    | 0 :: 0 :: 0xFE :: 0xFF :: rest =>
      Piece.ofPart (.utf32 (some .big)) (readUtf32 .big final 4 rest)
    | _ => Piece.unmarked charset "UTF-32" 4 data (readUtf32 .little final 0 data)
  | .multibyte m => Piece.ofPart charset (m.read final data)
  | .hz chinese => Piece.ofSteps .hz (readSteps "hz" final hzStep 0 chinese 0 data)
  | .iso2022 v state =>
    Piece.ofSteps (.iso2022 v) (readSteps v.name final (Iso2022.step v) 0 state 0 data)
  | .escaped raw => Piece.ofPart charset (Escaped.read raw final data)
  | .punycode => do return ⟨← Punycode.read data, [], charset⟩
  | .domain => Piece.ofPart charset (Punycode.readLabels final data)
  | .undefined => .error .undefined

/-- What bytes come to: the text before what is wrong with them, if something is. -/
structure Decoded where
  text : Text
  fault : Option Fault

/-- Reads pieces, with bytes left over from before. -/
def readPieces : Charset → Bytes → List Bytes → Decoded
  | charset, kept, [] =>
    match readPiece charset true kept with
    | .ok piece => ⟨piece.text, none⟩
    | .error fault => ⟨[], some fault⟩
  | charset, kept, data :: pieces =>
    match readPiece charset false (kept ++ data) with
    | .ok piece =>
      let rest := readPieces piece.charset piece.rest pieces
      ⟨piece.text ++ rest.text, rest.fault⟩
    | .error fault => ⟨[], some fault⟩

/-- How many bytes a piece has. -/
def pieceSize : Nat := 8192

/-- Cuts bytes into pieces; `room` is how many more bytes the piece takes that is begun, and `acc`
is what it has so far, backwards. -/
def piecesFrom : Nat → Bytes → Bytes → List Bytes
  | _, acc, [] => if acc.isEmpty then [] else [acc.reverse]
  | 0, acc, b :: rest => acc.reverse :: piecesFrom (pieceSize - 1) [b] rest
  | room + 1, acc, b :: rest => piecesFrom room (b :: acc) rest

/-- Cuts bytes into pieces. -/
def pieces (data : Bytes) : List Bytes := piecesFrom pieceSize [] data

/-- Reads bytes as far as nothing is wrong with them. -/
def read (charset : Charset) (data : Bytes) : Decoded := readPieces charset [] (pieces data)

end Charset

end Localize
