import Localize.Number.Written
import Localize.Text.Utf8
import Localize.Yaml.Script

/-!
# Tokens of YAML

Indentation and simple keys are the two things that make YAML more than a list of marks, and both
are settled here, so that the grammar over tokens needs no columns.

* A block collection opens where something stands deeper than the collection around it, and closes
  where something stands less deep (`Scanner.indentTo`, `Scanner.unwind`).
* Whether a scalar is a key shows only at the colon after it.  The scanner remembers where the
  latest candidate stands, one for each level of flow collections, and puts the key token before it
  when the colon comes (`Scanner.colon`).  A candidate does not outlive its line.

There may be more than one thing wrong with a stream, and which of them is the fault depends on what
comes first.  So what the scanner cannot read is a token too (`Token.broken`), and it stands where
the grammar, reading on, would ask for the next token.  The same goes for what is wrong behind a
script: it is met when a scanner looks past the end of the text, be it only to tell where a token
ends.
-/

set_option autoImplicit false

namespace Localize

namespace Yaml

/-- What a stream consists of. -/
inductive Token
  | directive (name : Text) (version : Option Nat) (tag : Option (Text × Text))
  | documentStart
  | documentEnd
  | blockSequenceStart
  | blockMappingStart
  | blockEnd
  | flowSequenceStart
  | flowSequenceEnd
  | flowMappingStart
  | flowMappingEnd
  | flowEntry
  | blockEntry
  | key
  | value
  | alias (name : Text)
  | anchor (name : Text)
  | tag (handle : Option Text) (rest : Text)
  | scalar (text : Text) (plain : Bool)
  /-- What cannot be read.  The tokens before it are there, and none after it. -/
  | broken (f : Fault)
deriving DecidableEq, Repr

/-! ## Names, tags and directives -/

/-- A name that is not empty. -/
def scanName (c : Cursor) : Except Stop (Text × Cursor) :=
  let (name, c) := c.span isNameMark
  if name = [] then c.stop .malformed else .ok (name, c)

/-- The name of an anchor or an alias, after its mark. -/
def scanAnchor (c : Cursor) : Except Stop (Text × Cursor) := do
  let (name, c) ← scanName c.step
  if isGap c.peek || (c.peek.map (oneOf "?:,]\x7d%@\x60")).getD false then return (name, c)
  else c.stop .malformed

/-- The bytes of the escapes that stand here. -/
def scanEscapes : Nat → Cursor → Except Stop (Bytes × Cursor)
  | 0, c => .ok ([], c)
  | fuel + 1, c =>
    if c.sees '%' then
      match (c.ahead 1).bind CodePoint.hexDigit?, (c.ahead 2).bind CodePoint.hexDigit? with
      | some a, some b => do
        let (rest, c) ← scanEscapes fuel (c.forward 3)
        return (UInt8.ofNat (a * 16 + b) :: rest, c)
      | some _, none => (c.see 2).stop .malformed
      | none, _ => (c.see 1).stop .malformed
    else .ok ([], c)

/-- May stand in the body of a tag as it is. -/
def isTagMark (c : CodePoint) : Bool :=
  c.isDigit || c.isLetter || oneOf "-;/?:@&=+$,_.!~*'()[]" c

/-- The body of a tag. -/
def scanTagBody : Nat → Cursor → Except Stop (Text × Cursor)
  | 0, c => .ok ([], c)
  | fuel + 1, c =>
    let (text, c) := c.span isTagMark
    if c.sees '%' then do
      let (bytes, c) ← scanEscapes c.left c
      match Utf8.decode bytes with
      | .ok more =>
        let (rest, c) ← scanTagBody fuel c
        return (text ++ more ++ rest, c)
      | .error _ => c.stop .malformed
    else .ok (text, c)

/-- The body of a tag, which is not empty. -/
def scanTagRest (c : Cursor) : Except Stop (Text × Cursor) := do
  let (text, after) ← scanTagBody (c.left + 1) c
  if after.index = c.index then after.stop .malformed else return (text, after)

/-- The handle of a tag, marks included. -/
def scanHandle (c : Cursor) : Except Stop (Text × Cursor) :=
  if !c.sees '!' then c.stop .malformed
  else if c.ahead 1 = some 0x20 then .ok ([CodePoint.ofChar '!'], c.step)
  else
    let (name, c) := c.step.span isNameMark
    if c.sees '!' then .ok ([CodePoint.ofChar '!'] ++ name ++ [CodePoint.ofChar '!'], c.step)
    else c.stop .malformed

/-- A tag, from its mark on.  Whether it has a handle shows at a second mark, which is looked for up
to the end of the word. -/
def scanTag (c : Cursor) : Except Stop (Token × Cursor) := do
  let bang := CodePoint.ofChar '!'
  let (token, c) ←
    if c.ahead 1 = some (CodePoint.ofChar '<') then do
      let (rest, c) ← scanTagRest (c.forward 2)
      if c.sees '>' then pure (Token.tag none rest, c.step) else c.stop .malformed
    else if isGap (c.ahead 1) then pure (Token.tag none [bang], c.step)
    else do
      let word := c.step.rest.takeWhile fun ch => !(isSpace ch || isBreak ch)
      let c := c.see (1 + (word.takeWhile (· ≠ bang)).length)
      let (handle, c) ← if word.elem bang then scanHandle c else pure ([bang], c.step)
      let (rest, c) ← scanTagRest c
      pure (Token.tag (some handle) rest, c)
  if endsWord c.peek then return (token, c) else c.stop .malformed

/-- A number of a version. -/
def scanNumber (c : Cursor) : Except Stop (Nat × Cursor) :=
  let (digits, c) := c.span CodePoint.isDigit
  if digits = [] then c.stop .malformed
  else if Text.digitLimit < digits.length then c.stop (.nonsense (.digits digits.length))
  else .ok (Text.decimalOf digits, c)

/-- A directive, from its mark on to the end of its line. -/
def scanDirective (c : Cursor) : Except Stop (Token × Cursor) := do
  let (name, c) ← scanName c.step
  if !endsWord c.peek then c.stop .malformed
  else
    let (token, c) ←
      if name = Text.ofString "YAML" then do
        let (major, c) ← scanNumber (c.skip isSpace)
        if !c.sees '.' then c.stop .malformed
        else
          let (_, c) ← scanNumber c.step
          if endsWord c.peek then pure (Token.directive name (some major) none, c)
          else c.stop .malformed
      else if name = Text.ofString "TAG" then do
        let (handle, c) ← scanHandle (c.skip isSpace)
        if !c.sees ' ' then c.stop .malformed
        else
          let (rest, c) ← scanTagRest (c.skip isSpace)
          if endsWord c.peek then pure (Token.directive name none (some (handle, rest)), c)
          else c.stop .malformed
      else pure (Token.directive name none none, c.skip (!isBreak ·))
    let c ← c.restOfLine
    return (token, c)

/-! ## Quoted scalars -/

/-- What an escape of one letter stands for. -/
def escapeLetter? (c : CodePoint) : Option CodePoint :=
  match c.toChar? with
  | some '0' => some 0x00
  | some 'a' => some 0x07
  | some 'b' => some 0x08
  | some 't' => some 0x09
  | some '\t' => some 0x09
  | some 'n' => some 0x0A
  | some 'v' => some 0x0B
  | some 'f' => some 0x0C
  | some 'r' => some 0x0D
  | some 'e' => some 0x1B
  | some ' ' => some 0x20
  | some '"' => some 0x22
  | some '\\' => some 0x5C
  | some '/' => some 0x2F
  | some 'N' => some 0x85
  | some '_' => some 0xA0
  | some 'L' => some 0x2028
  | some 'P' => some 0x2029
  | _ => none

/-- How many digits follow the letter of an escape. -/
def escapeWidth? (c : CodePoint) : Option Nat :=
  if c = 'x' then some 2 else if c = 'u' then some 4 else if c = 'U' then some 8 else none

/-- Empty lines inside a quoted scalar, and the blanks before what follows them. -/
def scanQuotedBreaks : Nat → Cursor → Except Stop (Text × Cursor)
  | 0, c => c.stop .malformed
  | fuel + 1, c =>
    let (atMark, c) := c.documentMark
    if atMark then c.stop .malformed
    else
      let c := c.skip isBlank
      match c.lineBreak with
      | ([], _) => .ok ([], c)
      | (text, c) => do
        let (rest, c) ← scanQuotedBreaks fuel c
        return (text ++ rest, c)

/-- White space inside a quoted scalar; a line end is folded into a blank. -/
def scanQuotedSpaces (c : Cursor) : Except Stop (Text × Cursor) :=
  let (blanks, c) := c.span isBlank
  match c.peek with
  | none => c.stop .malformed
  | some _ =>
    match c.lineBreak with
    | ([], _) => .ok (blanks, c)
    | (text, c) => do
      let (breaks, c) ← scanQuotedBreaks (c.left + 1) c
      let first : Text := if text ≠ [0x0A] then text else if breaks = [] then [0x20] else []
      return (first ++ breaks, c)

/-- An escape, after its backslash. -/
def scanEscape (c : Cursor) : Except Stop (Text × Cursor) :=
  match c.peek with
  | none => c.stop .malformed
  | some ch =>
    match escapeLetter? ch, escapeWidth? ch with
    | some letter, _ => .ok ([letter], c.step)
    | none, some width =>
      let c := c.step
      let values := (c.rest.take width).map CodePoint.hexDigit? |>.takeWhile Option.isSome
      if values.length < width then (c.see values.length).stop .malformed
      else
        let code := Text.numeral 16 (values.map (·.getD 0))
        if code < 0x110000 then .ok ([CodePoint.ofNat code], c.forward width)
        else
          -- the digits were looked at, and nothing behind them
          (c.see (width - 1)).stop
            (.nonsense (if code < 0x80000000 then .codePoint else .codePointSize))
    | none, none =>
      match c.lineBreak with
      | ([], _) => c.stop .malformed
      | (_, c) => scanQuotedBreaks (c.left + 1) c

/-- A quoted scalar, after its opening quote. -/
def scanQuoted (double : Bool) : Nat → Cursor → Except Stop (Text × Cursor)
  | 0, c => c.stop .malformed
  | fuel + 1, c =>
    match c.peek with
    | none => c.stop .malformed
    | some ch =>
      if ch = '"' ∧ double then .ok ([], c.step)
      else if ch = '\'' ∧ !double then
        if c.ahead 1 = some (CodePoint.ofChar '\'') then do
          let (rest, c) ← scanQuoted double fuel (c.forward 2)
          return (ch :: rest, c)
        else .ok ([], c.step)
      else if ch = '\\' ∧ double then do
        let (text, c) ← scanEscape c.step
        let (rest, c) ← scanQuoted double fuel c
        return (text ++ rest, c)
      else if isBlank ch ∨ isBreak ch then do
        let (text, c) ← scanQuotedSpaces c
        let (rest, c) ← scanQuoted double fuel c
        return (text ++ rest, c)
      else do
        let (rest, c) ← scanQuoted double fuel c.step
        return (ch :: rest, c)

/-! ## Block scalars -/

/-- What becomes of the line ends at the end of a block scalar. -/
inductive Chomp
  | strip
  | clip
  | keep
deriving DecidableEq, Repr

/-- The sign of a block scalar's header. -/
def chompOf? (c : CodePoint) : Option Chomp :=
  if c = '+' then some .keep else if c = '-' then some .strip else none

/-- The header of a block scalar, after its mark: what becomes of the end, and how deep it is. -/
def scanHeader (c : Cursor) : Except Stop (Chomp × Option Nat × Cursor) :=
  let chomp (c : Cursor) : Option Chomp × Cursor :=
    match c.peek.bind chompOf? with
    | some chomp => (some chomp, c.step)
    | none => (none, c)
  let depth (c : Cursor) : Option Nat × Cursor :=
    match c.peek.bind CodePoint.digit? with
    | some d => (some d, c.step)
    | none => (none, c)
  let (first, c) := chomp c
  if c.sees '0' then c.stop .malformed
  else
    let (increment, c) := depth c
    let (second, c) := if first = none ∧ increment ≠ none then chomp c else (none, c)
    if !endsWord c.peek then c.stop .malformed
    else do
      let c ← c.restOfLine
      return ((first <|> second).getD .clip, increment, c)

/-- Blanks up to a column. -/
def skipIndent (indent : Nat) : Nat → Cursor → Cursor
  | 0, c => c
  | fuel + 1, c => if c.column < indent ∧ c.sees ' ' then skipIndent indent fuel c.step else c

/-- Empty lines of a block scalar, and the indentation of the line after them. -/
def scanBlockBreaks (indent : Nat) : Nat → Cursor → Text × Cursor
  | 0, c => ([], c)
  | fuel + 1, c =>
    let c := skipIndent indent c.left c
    match c.lineBreak with
    | ([], _) => ([], c)
    | (text, c) =>
      let (rest, c) := scanBlockBreaks indent fuel c
      (text ++ rest, c)

/-- Empty lines before a block scalar whose depth is not given: their line ends, and the greatest
column that blanks lead to. -/
def scanBlockDepth : Nat → Nat → Cursor → Text × Nat × Cursor
  | 0, deepest, c => ([], deepest, c)
  | fuel + 1, deepest, c =>
    if c.sees ' ' then
      let c := c.step
      scanBlockDepth fuel (max deepest c.column) c
    else
      match c.lineBreak with
      | ([], _) => ([], deepest, c)
      | (text, c) =>
        let (rest, deepest, c) := scanBlockDepth fuel deepest c
        (text ++ rest, deepest, c)

/-- A blank or a tab is here. -/
def seesBlank (c : Cursor) : Bool := (c.peek.map isBlank).getD false

/-- The lines of a block scalar, with the empty lines before them. -/
def scanBlockLines (folded : Bool) (indent : Nat) (chomp : Chomp) :
    Nat → Text → Cursor → Text × Cursor
  | 0, _, c => ([], c)
  | fuel + 1, breaks, c =>
    let flush := !seesBlank c
    let (line, c) := c.span (!isBreak ·)
    let (ending, c) := c.lineBreak
    let (next, c) := scanBlockBreaks indent (c.left + 1) c
    if c.column = indent ∧ c.peek ≠ none then
      let between : Text :=
        if folded ∧ ending = [0x0A] ∧ flush ∧ !seesBlank c then (if next = [] then [0x20] else [])
        else ending
      let (rest, c) := scanBlockLines folded indent chomp fuel next c
      (breaks ++ line ++ between ++ rest, c)
    else
      let tail : Text :=
        match chomp with
        | .strip => []
        | .clip => ending
        | .keep => ending ++ next
      (breaks ++ line ++ tail, c)

/-- A block scalar, after its mark; `outer` is the indentation of the block around it. -/
def scanBlock (folded : Bool) (outer : Int) (c : Cursor) : Except Stop (Text × Cursor) := do
  let (chomp, increment, c) ← scanHeader c
  let least := (max (outer + 1) 1).toNat
  let (breaks, indent, c) :=
    match increment with
    | none =>
      let (breaks, deepest, c) := scanBlockDepth (c.left + 1) 0 c
      (breaks, max least deepest, c)
    | some n =>
      let indent := least + n - 1
      let (breaks, c) := scanBlockBreaks indent (c.left + 1) c
      (breaks, indent, c)
  if c.column = indent ∧ c.peek ≠ none then
    return scanBlockLines folded indent chomp (c.left + 1) breaks c
  else return (if chomp = .keep then breaks else [], c)

/-! ## Plain scalars -/

/-- A plain scalar ends before the code point here. -/
def plainStops (flow : Bool) (ch : CodePoint) (next : Option CodePoint) : Bool :=
  isBlank ch || isBreak ch ||
    (ch = ':' && (isGap next || (flow && (next.map (oneOf ",[]\x7b\x7d")).getD false))) ||
    (flow && oneOf ",?[]\x7b\x7d" ch)

/-- The text of a plain scalar up to where it pauses or ends. -/
def plainWord (flow : Bool) : Text → Text
  | [] => []
  | ch :: rest => if plainStops flow ch rest.head? then [] else ch :: plainWord flow rest

/-- Empty lines and blanks inside a plain scalar; nothing if a document begins or ends there. -/
def scanPlainBreaks : Nat → Cursor → Option Text × Cursor
  | 0, c => (some [], c)
  | fuel + 1, c =>
    if c.sees ' ' then scanPlainBreaks fuel c.step
    else
      match c.lineBreak with
      | ([], _) => (some [], c)
      | (text, c) =>
        let (atMark, c) := c.documentMark
        if atMark then (none, c)
        else
          let (rest, c) := scanPlainBreaks fuel c
          (rest.map (text ++ ·), c)

/-- White space inside a plain scalar, and whether it ends a line; no text, if the scalar cannot go
on behind it. -/
def scanPlainSpaces (c : Cursor) : Text × Bool × Cursor :=
  let (blanks, c) := c.span isSpace
  match c.lineBreak with
  | ([], _) => (blanks, false, c)
  | (text, c) =>
    let (atMark, c) := c.documentMark
    if atMark then ([], true, c)
    else
      match scanPlainBreaks (c.left + 1) c with
      | (none, c) => ([], true, c)
      | (some breaks, c) =>
        let first : Text := if text ≠ [0x0A] then text else if breaks = [] then [0x20] else []
        (first ++ breaks, true, c)

/-- A plain scalar: its text, and whether it reaches over the end of its line.  `spaces` stands
before the next word, if there is one. -/
def scanPlain (flow : Bool) (indent : Int) : Nat → Text → Bool → Cursor → Text × Bool × Cursor
  | 0, _, multi, c => ([], multi, c)
  | fuel + 1, spaces, multi, c =>
    let word := if c.sees '#' then [] else plainWord flow c.rest
    let c := c.forward word.length
    -- a colon ends a word because of what stands behind it
    let c := if c.sees ':' then c.see 1 else c
    if word = [] then ([], multi, c)
    else
      let (between, newLine, c) := scanPlainSpaces c
      if between = [] ∨ c.sees '#' ∨ (!flow ∧ (c.column : Int) < indent) then
        (spaces ++ word, newLine, c)
      else
        let (rest, multi, c) := scanPlain flow indent fuel between newLine c
        (spaces ++ word ++ rest, multi, c)

/-! ## The scanner -/

/-- Something that may turn out to be a key. -/
structure Candidate where
  /-- How many flow collections it stands in. -/
  level : Nat
  /-- How many tokens stand before it. -/
  tokens : Nat
  /-- It has to be a key, since nothing else can stand there. -/
  required : Bool
  index : Nat
  line : Nat
  column : Nat
deriving Repr

/-- A scanner between two tokens. -/
structure Scanner where
  cursor : Cursor
  /-- Tokens so far. -/
  tokens : Array Token := #[]
  flow : Nat := 0
  indent : Int := -1
  outer : List Int := []
  /-- A simple key may begin here. -/
  keyAllowed : Bool := true
  candidates : List Candidate := []
  /-- There are no more tokens. -/
  ended : Bool := false

namespace Scanner

/-- Adds a token. -/
def push (s : Scanner) (t : Token) : Scanner := { s with tokens := s.tokens.push t }

/-- Adds a token of a number of code points. -/
def mark (s : Scanner) (t : Token) (width : Nat) : Scanner :=
  { s.push t with cursor := s.cursor.forward width }

/-- Adds a token that was scanned. -/
def take (s : Scanner) (t : Token) (c : Cursor) : Scanner := { s.push t with cursor := c }

/-- Closes the block collections that are deeper than a column. -/
def unwindWith : List Int → Int → Scanner → Scanner
  | [], _, s => s
  | outer :: rest, column, s =>
    if column < s.indent then
      unwindWith rest column { s.push .blockEnd with indent := outer, outer := rest }
    else s

/-- Closes the block collections that are deeper than a column; flow collections have no depth. -/
def unwind (s : Scanner) (column : Int) : Scanner :=
  if s.flow ≠ 0 then s else unwindWith s.outer column s

/-- A new block collection, if a column is deeper than the current one. -/
def indentTo (s : Scanner) (column : Nat) : Option Scanner :=
  if s.indent < (column : Int) then
    some { s with outer := s.indent :: s.outer, indent := column }
  else none

/-- Drops the candidates that a test holds for; one that had to be a key is missed. -/
def dropCandidates (s : Scanner) (drop : Candidate → Bool) : Except Stop Scanner :=
  if s.candidates.any fun k => drop k && k.required then s.cursor.stop .malformed
  else .ok { s with candidates := s.candidates.filter fun k => !drop k }

/-- The candidate is on another line, or too far back. -/
def isStale (s : Scanner) (k : Candidate) : Bool :=
  k.line ≠ s.cursor.line || 1024 < s.cursor.index - k.index

/-- Drops candidates that are on another line, or too far back. -/
def dropStale (s : Scanner) : Except Stop Scanner := s.dropCandidates s.isStale

/-- Drops the candidate of the current level. -/
def dropCurrent (s : Scanner) : Except Stop Scanner :=
  s.dropCandidates fun k => k.level = s.flow

/-- Remembers that a key may begin here. -/
def propose (s : Scanner) : Except Stop Scanner :=
  if s.keyAllowed then do
    let s ← s.dropCurrent
    let c := s.cursor
    let candidate : Candidate :=
      { level := s.flow, tokens := s.tokens.size,
        required := s.flow = 0 && s.indent = (c.column : Int),
        index := c.index, line := c.line, column := c.column }
    return { s with candidates := candidate :: s.candidates }
  else return s

/-- Moves over white space and comments to the next token. -/
def toToken : Nat → Scanner → Scanner
  | 0, s => s
  | fuel + 1, s =>
    let c := (s.cursor.skip isSpace).skipComment
    match c.lineBreak with
    | ([], _) => { s with cursor := c }
    | (_, c) => toToken fuel { s with cursor := c, keyAllowed := s.keyAllowed || s.flow = 0 }

/-- What all marks at the margin do: close everything. -/
def closeAll (s : Scanner) : Except Stop Scanner := do
  let s ← (s.unwind (-1)).dropCurrent
  return { s with keyAllowed := false }

/-- Opens a block collection of a kind at a column, unless one is open there. -/
def openBlock (s : Scanner) (start : Token) (column : Nat) : Scanner :=
  match s.indentTo column with
  | some s => s.push start
  | none => s

/-- A flow collection begins. -/
def openFlow (s : Scanner) (t : Token) : Except Stop Scanner := do
  let s ← s.propose
  return { s.mark t 1 with flow := s.flow + 1, keyAllowed := true }

/-- A flow collection ends. -/
def closeFlow (s : Scanner) (t : Token) : Except Stop Scanner := do
  let s ← s.dropCurrent
  return { s.mark t 1 with flow := s.flow - 1, keyAllowed := false }

/-- The mark of an item or an explicit key. -/
def entryMark (s : Scanner) (start t : Token) (keyAfter : Bool) : Except Stop Scanner := do
  let s ←
    if s.flow ≠ 0 then pure s
    else if s.keyAllowed then pure (s.openBlock start s.cursor.column)
    else s.cursor.stop .malformed
  let s ← ({ s with keyAllowed := keyAfter } : Scanner).dropCurrent
  return s.mark t 1

/-- The colon before a value.  If something before it may be a key, now it is one. -/
def colon (s : Scanner) : Except Stop Scanner :=
  match s.candidates.find? fun k => k.level = s.flow with
  | some k =>
    let s := { s with candidates := s.candidates.filter fun other => other.level ≠ s.flow }
    let s := { s with tokens := s.tokens.insertIdx! k.tokens .key, keyAllowed := false }
    let s :=
      if s.flow ≠ 0 then s
      else
        match s.indentTo k.column with
        | some s => { s with tokens := s.tokens.insertIdx! k.tokens .blockMappingStart }
        | none => s
    .ok (s.mark .value 1)
  | none => entryMark s .blockMappingStart .value (s.flow = 0)

/-- A token that may be a key. -/
def keyLike (s : Scanner) (scan : Cursor → Except Stop (Token × Cursor)) :
    Except Stop Scanner := do
  let s ← s.propose
  let (t, c) ← scan s.cursor
  return { s.take t c with keyAllowed := false }

/-- A plain scalar may begin here. -/
def plainStarts (s : Scanner) : Bool :=
  match s.cursor.peek with
  | none => false
  | some ch =>
    !(isBlank ch || isBreak ch || oneOf "-?:,[]\x7b\x7d#&*!|>'\"%@\x60" ch) ||
      (!isGap (s.cursor.ahead 1) && (ch = '-' || (s.flow = 0 && oneOf "?:" ch)))

/-- A plain scalar.  One that reaches over the end of its line may have a key after it. -/
def plain (s : Scanner) : Except Stop Scanner := do
  let s ← s.propose
  let (text, newLine, c) :=
    scanPlain (s.flow ≠ 0) (s.indent + 1) (s.cursor.left + 1) [] false s.cursor
  return { s.take (.scalar text true) c with keyAllowed := newLine }

/-- A block scalar. -/
def block (s : Scanner) (folded : Bool) : Except Stop Scanner := do
  let s ← ({ s with keyAllowed := true } : Scanner).dropCurrent
  let (text, c) ← scanBlock folded s.indent s.cursor.step
  return s.take (.scalar text false) c

/-- How far ahead the tests look that tell what a code point here begins. -/
def lookahead (s : Scanner) (ch : Char) : Nat :=
  let c := s.cursor
  if c.column = 0 ∧ (ch = '-' ∨ ch = '.') then (if c.seesTriple ch then 3 else 2)
  else if ch = '?' ∨ ch = ':' then (if s.flow = 0 then 1 else 0)
  else if ch = '|' ∨ ch = '>' then (if s.flow = 0 then 0 else 1)
  else if ch = '%' then (if c.column = 0 then 0 else 1)
  else if ch = '-' ∨ ch = '@' ∨ ch = '\x60' ∨ ch = '\t' then 1
  else 0

/-- The token that begins with a code point here. -/
def startingWith (s : Scanner) (ch : Char) : Except Stop Scanner :=
  let c := s.cursor
  let inBlock := s.flow = 0
  let gapAfter := isGap (c.ahead 1)
  if ch = '%' ∧ c.column = 0 then do
    let s ← s.closeAll
    let (t, c) ← scanDirective s.cursor
    return s.take t c
  else if c.column = 0 ∧ c.seesThree '-' then do
    return (← s.closeAll).mark .documentStart 3
  else if c.column = 0 ∧ c.seesThree '.' then do
    return (← s.closeAll).mark .documentEnd 3
  else if ch = '[' then s.openFlow .flowSequenceStart
  else if ch = '\x7b' then s.openFlow .flowMappingStart
  else if ch = ']' then s.closeFlow .flowSequenceEnd
  else if ch = '\x7d' then s.closeFlow .flowMappingEnd
  else if ch = ',' then do
    let s ← ({ s with keyAllowed := true } : Scanner).dropCurrent
    return s.mark .flowEntry 1
  else if ch = '-' ∧ gapAfter then s.entryMark .blockSequenceStart .blockEntry true
  else if ch = '?' ∧ (!inBlock ∨ gapAfter) then s.entryMark .blockMappingStart .key inBlock
  else if ch = ':' ∧ (!inBlock ∨ gapAfter) then s.colon
  else if ch = '*' then
    s.keyLike fun c => (fun (name, c) => (Token.alias name, c)) <$> scanAnchor c
  else if ch = '&' then
    s.keyLike fun c => (fun (name, c) => (Token.anchor name, c)) <$> scanAnchor c
  else if ch = '!' then s.keyLike scanTag
  else if ch = '|' ∧ inBlock then s.block false
  else if ch = '>' ∧ inBlock then s.block true
  else if ch = '\'' ∨ ch = '"' then
    s.keyLike fun c => (fun (text, c) => (Token.scalar text false, c)) <$>
      scanQuoted (ch = '"') (c.left + 1) c.step
  else if s.plainStarts then s.plain
  else c.stop .malformed

/-- The token that begins here. -/
def next (s : Scanner) : Except Stop Scanner :=
  match s.cursor.peek.bind CodePoint.toChar? with
  | none => s.cursor.stop .malformed
  | some ch => { s with cursor := s.cursor.see (s.lookahead ch) }.startingWith ch

/-- The tokens that are settled: before one that may still turn out to be a key, a token can be
put. -/
def settled (s : Scanner) : List Token :=
  let waiting := (s.candidates.filter (!s.isStale ·)).map (·.tokens)
  s.tokens.toList.take (waiting.foldl min s.tokens.size)

/-- Moves on to the next token, or to the end of the stream. -/
def approach (s : Scanner) : Except Stop Scanner := do
  let s ← (s.toToken (s.cursor.left + 1)).dropStale
  return s.unwind s.cursor.column

/-- Moves on over the next token, or over the end of the stream. -/
def fetch (s : Scanner) : Except Stop Scanner := do
  let s ← s.approach
  if s.cursor.peek = none then return { ← s.closeAll with candidates := [], ended := true }
  else (← s.next).dropStale

/-- What is wrong behind the stream, for a reader that has looked as far as a place. -/
def met (s : Scanner) (behind : Option Fault) (reach : Nat) : Option Fault :=
  if s.cursor.size ≤ reach then behind else none

/-- Scans token after token to the end of the stream or to a fault; `behind` is what is wrong behind
the stream, if it is not the end.

A fault shows when a token is asked for that is not there.  By then the tokens that are settled have
been read, and those that are not have not. -/
def run (behind : Option Fault) : Nat → Scanner → List Token
  | 0, s => s.settled ++ [.broken .malformed]
  | fuel + 1, s =>
    match s.fetch with
    | .error stop => s.settled ++ [.broken ((s.met behind stop.reach).getD stop.fault)]
    | .ok ahead =>
      match s.met behind ahead.cursor.reach with
      | some fault => s.settled ++ [.broken fault]
      | none => if ahead.ended then ahead.tokens.toList else run behind fuel ahead

end Scanner

/-- The tokens of a script. -/
def tokens (s : Script) : List Token :=
  ({ cursor := (Cursor.start s.text).skipMark } : Scanner).run s.behind (s.text.length + 2)

end Yaml

end Localize
