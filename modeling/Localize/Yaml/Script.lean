import Localize.Charset.Portions
import Localize.Yaml.Cursor

/-!
# The text of a YAML stream

A file is not read before it is parsed, but while it is: a portion of it is read when the parser
looks at a place that is not there yet.  A portion may have bytes in it that are no text, or a code
point that a stream must not hold, and neither shows before the portion is read.  A fault of the
parser that comes earlier is therefore the one that counts.

What there is to be read is a script: the text up to the first portion that is at fault, and the
fault, which is met by looking past the end of the text (`Script.ofFile`).
-/

set_option autoImplicit false

namespace Localize

namespace Yaml

/-- What there is to be read of a stream. -/
structure Script where
  text : Text
  /-- What is wrong behind the text, if it is not the end. -/
  behind : Option Fault := none
deriving DecidableEq, Repr

namespace Script

/-- A portion in front of a script.  It is looked at when it comes: a code point that a stream must
not hold is a fault of the whole portion. -/
def add (portion : Text) (rest : Script) : Script :=
  if portion.all isAllowed then { rest with text := portion ++ rest.text }
  else ⟨[], some .malformed⟩

/-- The script of portions, with what is wrong behind them.  The first two are read together. -/
def ofPortions : List Text → Option Charset.Fault → Script
  | [], fault => ⟨[], fault.map .undecodable⟩
  | [first], none => add first ⟨[], none⟩
  | [_], some fault => ⟨[], some (.undecodable fault)⟩
  | first :: second :: rest, fault =>
    add (first ++ second) (rest.foldr add ⟨[], fault.map .undecodable⟩)

/-- How many code points a portion has. -/
def portionSize : Nat := 4096

/-- The script of a file. -/
def ofFile (bytes : Bytes) : Script :=
  let (texts, fault) := Charset.portions .utf8 portionSize bytes
  ofPortions texts fault

end Script

end Yaml

end Localize
