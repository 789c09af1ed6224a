import Localize.Charset.Stream
import Localize.Number.Binary

/-!
# Reading a file as text, portion by portion

Whoever reads a file as text asks for so many code points at a time (`TextReader.portion`).  The
file gives its bytes in pieces meanwhile, and each as late as it can: a piece is taken when the code
points of the pieces before do not suffice, and what is wrong with its bytes is not noticed until
then.  How large a piece is follows from how much is asked for, and from how many bytes the latest
code points took.

Every end of a line becomes a line feed.  A carriage return at the end of a piece waits for the next
one, which may begin with the line feed that belongs to it.
-/

set_option autoImplicit false

namespace Localize

namespace Charset

/-- Ends of lines as line feeds. -/
def unifyLineEnds : Text → Text
  | [] => []
  | 0x0D :: 0x0A :: rest => 0x0A :: unifyLineEnds rest
  | c :: rest => (if c = 0x0D then 0x0A else c) :: unifyLineEnds rest

/-- A file that is read as text, between two portions. -/
structure TextReader where
  /-- The charset of the bytes that come next. -/
  charset : Charset
  /-- The bytes that are not taken. -/
  bytes : Bytes
  /-- Bytes of the pieces before that are left over. -/
  kept : Bytes := []
  /-- A carriage return of the pieces before, which waits for what follows it. -/
  owesReturn : Bool := false
  /-- Code points of the pieces before that nobody has asked for. -/
  ready : Text := []
  /-- How many bytes the latest piece had for each code point. -/
  density : Binary64 := .zero false

namespace TextReader

/-- The greatest size of the next piece, when a number of code points is missing. -/
def nextSize (r : TextReader) (missing : Nat) : Nat :=
  match (r.density.mul (Binary64.ofInt missing)).ratio? with
  | some (num, den) => max pieceSize (num / den)
  | none => pieceSize

/-- The code points of a piece with a carriage return in front that waited, if one did, and whether
one at their end has to wait. -/
def release (final owesReturn : Bool) (piece : Text) : Text × Bool :=
  let text := if owesReturn then 0x0D :: piece else piece
  if !final && text.getLast? = some 0x0D then (text.dropLast, true) else (text, false)

/-- Takes a piece.  It says whether there is anything in it, a carriage return of the pieces before
included. -/
def refill (r : TextReader) (missing : Nat) : Except Fault (Bool × TextReader) := do
  let size := r.nextSize missing
  let data := r.bytes.take size
  let final := data.isEmpty
  let piece ← readPiece r.charset final (r.kept ++ data)
  let (text, owesReturn) := release final r.owesReturn piece.text
  let text := unifyLineEnds text
  let density : Binary64 :=
    if text = [] then .zero false else .ofRatio false data.length text.length
  return (!final || text ≠ [],
    { charset := piece.charset, bytes := r.bytes.drop size, kept := piece.rest, owesReturn,
      ready := text, density })

/-- Reads so many code points, or what is left; `fuel` is more than the number of pieces. -/
def portion : Nat → Nat → TextReader → Except Fault (Text × TextReader)
  | 0, _, r => .ok ([], r)
  | fuel + 1, count, r =>
    let text := r.ready.take count
    let r := { r with ready := r.ready.drop count }
    let missing := count - text.length
    if missing = 0 then .ok (text, r)
    else do
      let (more, r) ← r.refill missing
      if more then
        let (rest, r) ← portion fuel missing r
        return (text ++ rest, r)
      else return (text, r)

/-- Reads portions of so many code points up to the end of the file or to what is wrong with it;
`fuel` is more than the number of portions. -/
def portions (count : Nat) : Nat → TextReader → List Text × Option Fault
  | 0, _ => ([], none)
  | fuel + 1, r =>
    match r.portion (r.bytes.length + 3) count with
    | .error fault => ([], some fault)
    | .ok ([], _) => ([], none)
    | .ok (text, r) =>
      let (rest, fault) := portions count fuel r
      (text :: rest, fault)

end TextReader

/-- The portions of a file, and what is wrong with the bytes behind them. -/
def portions (charset : Charset) (count : Nat) (bytes : Bytes) : List Text × Option Fault :=
  TextReader.portions count (bytes.length + 3) { charset, bytes }

end Charset

end Localize
