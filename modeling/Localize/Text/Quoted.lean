import Localize.Unicode.Printable

/-!
# Quoted texts

How a text is shown inside a message when its ends have to be visible: between single quotes, or
between double quotes when it holds a single quote and no double one.  Backslashes, the quote in
use and everything that is not printable are escaped.
-/

set_option autoImplicit false

namespace Localize

namespace Text

/-- The quote a text is put between. -/
def quoteFor (t : Text) : CodePoint :=
  if CodePoint.ofChar '\'' ∈ t ∧ CodePoint.ofChar '"' ∉ t then '"' else '\''

/-- How a quoted text shows one code point. -/
def quotedOne (quote c : CodePoint) : Text :=
  if c = quote ∨ c = '\\' then ['\\', c]
  else if c = '\n' then "\\n"
  else if c = '\r' then "\\r"
  else if c = '\t' then "\\t"
  else if c.isPrintable then [c]
  else if c.val < 0x100 then "\\x" ++ hex 2 c.val
  else if c.val < 0x10000 then "\\u" ++ hex 4 c.val
  else "\\U" ++ hex 8 c.val

/-- A text between quotes. -/
def quoted (t : Text) : Text :=
  let quote := quoteFor t
  [quote] ++ t.flatMap (quotedOne quote) ++ [quote]

end Text

end Localize
