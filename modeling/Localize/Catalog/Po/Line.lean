import Localize.Unicode.Blank

/-!
# Lines of a PO catalog

A PO catalog is read line by line.  What a line is follows from its first word: a keyword such as
`msgid`, a comment mark such as `#,`, or a quote, which carries on the string of the line before.
`Line.read` sorts a line out and says what is wrong with it where it is neither.  What lines mean
one after the other is for `Localize.Catalog.Po.Entry`.

A string is what stands between the first and the last code point of its token, whatever these two
are; only a bare quote in between is refused.
-/

set_option autoImplicit false

namespace Localize

namespace Po

/-- What is wrong with a line. -/
inductive Fault
  | unexpected
  | bareQuote
  | strayContinuation
  | unknownKeyword (word : Text)
deriving DecidableEq, Repr

/-- What a line is. -/
inductive Mark
  | translatorComment
  | extractedComment
  | reference
  | flags
  | previousContext
  | previousId
  | previousPlural
  | context
  | id
  | plural
  | string
  | form
  | continuation
deriving DecidableEq, Repr

/-- A line with its mark and what stands behind it. -/
structure Line where
  mark : Mark
  token : Text
  /-- The line is marked as obsolete. -/
  obsolete : Bool
deriving DecidableEq, Repr

/-! ## Strings -/

/-- The text between the first and the last code point. -/
def inner (token : Text) : Text := (token.drop 1).dropLast

/-- A quote without a backslash right before it; `shielded` says that there is one before the
text. -/
def hasBareQuote : Bool → Text → Bool
  | _, [] => false
  | shielded, c :: t => (c = '"' && !shielded) || hasBareQuote (c = '\\') t

/-- What an escape stands for, given the letter after its backslash. -/
def unescapeLetter? (c : CodePoint) : Option CodePoint :=
  if c = '\\' ∨ c = '"' then some c
  else if c = 'n' then some 0x0A
  else if c = 't' then some 0x09
  else if c = 'r' then some 0x0D
  else if c = 'v' then some 0x0B
  else if c = 'b' then some 0x08
  else if c = 'f' then some 0x0C
  else none

/-- Puts the code points that escapes stand for in their place; other backslashes stay. -/
def unescape : Text → Text
  | 0x5C :: c :: t =>
    match unescapeLetter? c with
    | some letter => letter :: unescape t
    | none => 0x5C :: unescape (c :: t)
  | c :: t => c :: unescape t
  | [] => []

/-! ## Words -/

/-- The mark of a keyword. -/
def keyword? (word : Text) : Option Mark :=
  if word = Text.ofString "msgctxt" then some .context
  else if word = Text.ofString "msgid" then some .id
  else if word = Text.ofString "msgstr" then some .string
  else if word = Text.ofString "msgid_plural" then some .plural
  else none

/-- The mark of a keyword in a comment on the previous string. -/
def previousKeyword? (word : Text) : Option Mark :=
  if word = Text.ofString "msgctxt" then some .previousContext
  else if word = Text.ofString "msgid" then some .previousId
  else if word = Text.ofString "msgid_plural" then some .previousPlural
  else none

/-- What one line comes to: a line of an entry, or nothing of interest. -/
structure Reading where
  line : Option Line
  /-- The first word begins a comment. -/
  comment : Bool
deriving DecidableEq, Repr

namespace Line

/-- A token that has to hold a string. -/
def quotedToken (mark : Mark) (obsolete : Bool) (token : Text) : Except Fault (Option Line) :=
  if hasBareQuote false (inner token) then .error .bareQuote
  else .ok (some ⟨mark, token, obsolete⟩)

/-- A comment on the previous string. -/
def readPrevious (words : List Text) (obsolete : Bool) (line : Text) :
    Except Fault (Option Line) :=
  let token := Text.stripLeft (line.drop 2)
  match words with
  | [_, second] =>
    if Text.startsWith "\"" second then .ok (some ⟨.continuation, token, obsolete⟩)
    else .error .strayContinuation
  | _ :: second :: _ =>
    if Text.startsWith "\"" second then .ok (some ⟨.continuation, token, obsolete⟩)
    else
      match previousKeyword? second with
      | some mark => .ok (some ⟨mark, Text.stripLeft (token.drop second.length), obsolete⟩)
      | none => .error (.unknownKeyword second)
  | _ => .error .unexpected

/-- A line that begins with no keyword, given its words. -/
def readOther (first : Text) (words : List Text) (obsolete : Bool) (line : Text) :
    Except Fault (Option Line) :=
  let marked (mark : Mark) : Option Line :=
    if words.length ≤ 1 then none else some ⟨mark, line, obsolete⟩
  if first = Text.ofString "#:" then .ok (marked .reference)
  else if Text.startsWith "\"" line then quotedToken .continuation obsolete line
  else if Text.startsWith "msgstr[" line then .ok (some ⟨.form, line, obsolete⟩)
  else if first = Text.ofString "#," then .ok (marked .flags)
  else if first = Text.ofString "#" ∨ Text.startsWith "##" first then
    .ok (some ⟨.translatorComment, line, obsolete⟩)
  else if first = Text.ofString "#." then .ok (marked .extractedComment)
  else if first = Text.ofString "#|" then readPrevious words obsolete line
  else .error .unexpected

/-- A line of which the mark of obsolete lines is already taken off. -/
def readPlain (words : List Text) (obsolete : Bool) (line : Text) : Except Fault Reading :=
  match words with
  | [] => .ok ⟨none, false⟩
  | first :: rest => do
    let line ←
      match rest, keyword? first with
      | _ :: _, some mark =>
        quotedToken mark obsolete (Text.stripLeft (line.drop first.length))
      | _, _ => readOther first words obsolete line
    return ⟨line, Text.startsWith "#" first⟩

/-- Sorts out a line that is not empty and has no white space at its ends. -/
def read (line : Text) : Except Fault Reading :=
  match Text.twoWords line with
  | first :: rest =>
    if first = Text.ofString "#~|" then .ok ⟨none, true⟩
    else if first = Text.ofString "#~" ∧ rest ≠ [] then
      readPlain rest true (Text.strip (line.drop 3))
    else readPlain (first :: rest) false line
  | [] => .ok ⟨none, false⟩

end Line

end Po

end Localize
