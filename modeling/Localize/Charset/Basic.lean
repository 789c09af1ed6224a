import Localize.Charset.Multibyte
import Localize.Charset.Shifted

/-!
# Charsets

This file holds the charsets there are.  Reading bytes in one is `Localize.Charset.Stream`, and the
names of charsets are `Localize.Charset.Name`.
-/

set_option autoImplicit false

namespace Localize

/-- A way to write a text as bytes. -/
inductive Charset
  | ascii
  /-- Each byte is the code point of its number. -/
  | latin1
  /-- Each byte is one of 256 code points; where there is none stands `Charset.unassigned`. -/
  | codepage (codes : String)
  | utf8
  /-- UTF-8 that may begin with a byte order mark. -/
  | utf8Marked
  | utf7
  /-- UTF-16 in a byte order, or in the one that its byte order mark gives. -/
  | utf16 (order : Option ByteOrder)
  /-- UTF-32 in a byte order, or in the one that its byte order mark gives. -/
  | utf32 (order : Option ByteOrder)
  | multibyte (m : Charset.Multibyte)
  /-- HZ, in GB 2312 or in ASCII. -/
  | hz (chinese : Bool)
  | iso2022 (variant : Charset.Iso2022.Variant) (state : Charset.Iso2022.State)
  /-- Latin 1 with escapes, all of them or those of the raw form alone. -/
  | escaped (raw : Bool)
  | punycode
  /-- Names of domains. -/
  | domain
  /-- No bytes are a text. -/
  | undefined
deriving DecidableEq, Repr

namespace Charset

/-- What stands in a code page for a byte that stands for nothing. -/
def unassigned : Char := '\ufffe'

end Charset

end Localize
