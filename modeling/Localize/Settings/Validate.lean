import Localize.Settings.Document
import Localize.Settings.Integer
import Localize.Settings.Schema

/-!
# From a document to settings

Each field has a *reading*, which takes the value of the document or complains.  Readings are
lenient where it is clear what is meant: a switch may be a word, and a number may be written as a
text.  A section is read field by field; what it has besides its fields is not allowed.  All
complaints are gathered, those about fields in the order of the fields and those about the rest
after them, in the order of the document.

The locale has a rule of its own.  A document may mean the locale `no` and say `false`, since that
is what an unquoted `no` is.

Bytes are as good as the text that they stand for, except where a path or a level is meant.  A text
with half a surrogate pair in it is no Unicode; as the name of a field it spoils its whole section.
-/

set_option autoImplicit false

namespace Localize

namespace Settings

/-- What can be wrong with a value. -/
inductive Complaint
  | notText
  | notUnicode
  | tooShort
  | unknownSwitch
  | notSwitch
  | unreadableInteger
  | oversizedInteger
  | fraction
  | notFinite
  | notInteger
  | tooSmall
  | tooLarge
  | notList
  | notPath
  | unknownLevel
  | notSection (name : Text)
  | extra
  | keyNotText
deriving DecidableEq, Repr

/-- A step from a document to a value inside it. -/
inductive Step
  | name (t : Text)
  | index (i : Nat)
  | key (v : Value)
deriving Repr

/-- A value that is not as it should be. -/
structure FieldError where
  place : List Step
  complaint : Complaint
  value : Value
deriving Repr

/-- What a reading comes to. -/
abbrev Reading (α : Type) := Except (List FieldError) α

/-- Complains about a value. -/
def complain {α : Type} (complaint : Complaint) (value : Value) : Reading α :=
  .error [⟨[], complaint, value⟩]

/-- Two readings at once; the complaints of both are kept. -/
def both {α β : Type} (a : Reading α) (b : Reading β) : Reading (α × β) :=
  match a, b with
  | .ok a, .ok b => .ok (a, b)
  | .error e, .ok _ => .error e
  | .ok _, .error e => .error e
  | .error e, .error f => .error (e ++ f)

/-- A reading that is a step away from the top. -/
def at' {α : Type} (step : Step) : Reading α → Reading α
  | .ok a => .ok a
  | .error es => .error (es.map fun e => { e with place := step :: e.place })

/-! ## Readings of single values -/

/-- What a value is as a text. -/
inductive Wording
  | text (t : Text)
  /-- A text with half a surrogate pair in it. -/
  | broken
  /-- Bytes that stand for no text. -/
  | brokenBytes
  /-- Neither a text nor bytes. -/
  | other

/-- A value as a text. -/
def wording : Value → Wording
  | .text t => if t.any CodePoint.isSurrogate then .broken else .text t
  | .bytes bs =>
    match Utf8.decode bs with
    | .ok t => .text t
    | .error _ => .brokenBytes
  | _ => .other

/-- Reads a text, which is taken as it is. -/
def readText (v : Value) : Reading Text :=
  match v, wording v with
  | .text t, _ | _, .text t => .ok t
  | _, .brokenBytes => complain .notUnicode v
  | _, _ => complain .notText v

/-- The words that switch something on. -/
def onWords : List Text := ["1", "true", "t", "yes", "y", "on"]

/-- The words that switch something off. -/
def offWords : List Text := ["0", "false", "f", "no", "n", "off"]

/-- The bound of 64 bits with a sign. -/
def wordBound : Nat := 0x8000000000000000

/-- An integer that fits into 64 bits with a sign. -/
def isWord (i : Int) : Bool := -(wordBound : Int) ≤ i && i < (wordBound : Int)

/-- Reads a switch: a truth value, a zero or a one, or a word for one. -/
def readSwitch (v : Value) : Reading Bool :=
  match v with
  | .bool b => .ok b
  | .int i =>
    if i = 0 then .ok false
    else if i = 1 then .ok true
    else complain (if isWord i then .unknownSwitch else .notSwitch) v
  | .float x =>
    if x.toInt? = some 0 then .ok false
    else if x.toInt? = some 1 then .ok true
    else complain .notSwitch v
  | v =>
    match wording v with
    | .text t =>
      let word := Text.asciiLower t
      if onWords.contains word then .ok true
      else if offWords.contains word then .ok false
      else complain .unknownSwitch v
    | .broken => complain .notUnicode v
    | .brokenBytes => complain .unknownSwitch v
    | .other => complain .notSwitch v

/-- Reads an integer: a number without a fraction, a truth value, or a text that writes one. -/
def readInteger (v : Value) : Reading Int :=
  match v with
  | .int i => .ok i
  | .bool b => .ok (if b then 1 else 0)
  | .float x =>
    match x.ratio?, x.toInt? with
    | none, _ => complain .notFinite v
    | _, some i => if i.natAbs < wordBound then .ok i else complain .oversizedInteger v
    | _, none => complain .fraction v
  | v =>
    match wording v with
    | .text t =>
      match readWritten t with
      | .ok i => .ok i
      | .error .oversized => complain .oversizedInteger v
      | .error .unreadable => complain .unreadableInteger v
    | .broken => complain .notUnicode v
    | .brokenBytes => complain .unreadableInteger v
    | .other => complain .notInteger v

/-- The largest number of workers. -/
def maxWorkers : Int := 64

/-- Reads a number of workers. -/
def readWorkers (v : Value) : Reading Nat := do
  let i ← readInteger v
  if i < 1 then complain .tooSmall v
  else if maxWorkers < i then complain .tooLarge v
  else return i.toNat

/-- Reads a path. -/
def readPath : Value → Reading Path
  | .text t => .ok (Path.ofText t)
  | v => complain .notPath v

/-- Reads what may be nothing. -/
def readOptional {α : Type} (read : Value → Reading α) : Value → Reading (Option α)
  | .null => .ok none
  | v => some <$> read v

/-- Reads the items of a list from a position on. -/
def readItems : Nat → List Value → Reading (List Text)
  | _, [] => .ok []
  | i, v :: rest =>
    (fun (t, ts) => t :: ts) <$> both (at' (.index i) (readText v)) (readItems (i + 1) rest)

/-- Reads a list of texts. -/
def readTexts (v : Value) : Reading (List Text) :=
  match v.items? with
  | some items => readItems 0 items
  | none => complain .notList v

/-- Reads a level. -/
def readLevel (v : Value) : Reading LogLevel :=
  match v with
  | .text t =>
    match LogLevel.ofName? t with
    | some level => .ok level
    | none =>
      complain (if t.any CodePoint.isSurrogate then .notUnicode else .unknownLevel) v
  | v => complain .unknownLevel v

/-- A locale as it is read: `false` means `no`, and white space around a text means nothing. -/
def plainLocale : Value → Value
  | .bool false => .text "no"
  | .text t => .text (Text.strip t)
  | v => v

/-- Reads a locale. -/
def readLocale (v : Value) : Reading Text :=
  let v := plainLocale v
  match wording v with
  | .text [] => complain .tooShort v
  | .text locale => .ok locale
  | .broken | .brokenBytes => complain .notUnicode v
  | .other => complain .notText v

/-! ## Readings of sections -/

/-- Reads a field, or takes what holds without it. -/
def readField {α : Type} (doc : Document) (name : Text) (default : α) (read : Value → Reading α) :
    Reading α :=
  match Value.field? name doc with
  | some v => at' (.name name) (read v)
  | none => .ok default

/-- Complains about what a document has besides its fields. -/
def readExtras (names : List Text) : Document → Reading Unit
  | [] => .ok ()
  | (.text key, value) :: rest =>
    if names.contains key then readExtras names rest
    else Prod.snd <$> both (at' (.name key) (complain .extra value) : Reading Unit)
      (readExtras names rest)
  | (key, _) :: rest =>
    Prod.snd <$> both (at' (.key key) (complain .keyNotText key) : Reading Unit)
      (readExtras names rest)

/-- The first key that is a text with half a surrogate pair in it. -/
def brokenKey? (doc : Document) : Option Value :=
  (doc.map Prod.fst).find? fun key => wording key matches .broken

/-- Reads a document field by field, if all its keys can be read. -/
def readFields {α : Type} (read : Document → Reading α) (doc : Document) : Reading α :=
  match brokenKey? doc with
  | some key => complain .notUnicode key
  | none => read doc

/-- Reads a section that has to be a mapping. -/
def readSection {α : Type} (name : Text) (read : Document → Reading α) (v : Value) : Reading α :=
  match v.entries? with
  | some doc => readFields read doc
  | none => complain (.notSection name) v

/-- Reads the section on the catalog. -/
def readCatalog (doc : Document) : Reading CatalogSettings :=
  (fun (path, lookupDir, fuzzy, _) => ⟨path, lookupDir, fuzzy⟩) <$>
    both (readField doc "path" none (readOptional readPath))
      (both (readField doc "lookup_dir" none (readOptional readPath))
        (both (readField doc "include_fuzzy" false readSwitch)
          (readExtras ["path", "lookup_dir", "include_fuzzy"] doc)))

/-- Reads the section on nuggets. -/
def readNuggets (doc : Document) : Reading NuggetSettings :=
  (fun (remove, warn, _) => ⟨remove, warn⟩) <$>
    both (readField doc "always_remove_brackets" false readSwitch)
      (both (readField doc "warn_on_missing_translations" true readSwitch)
        (readExtras ["always_remove_brackets", "warn_on_missing_translations"] doc))

/-- Reads the section on assets. -/
def readAssets (doc : Document) : Reading AssetSettings :=
  (fun (excluded, included, _) => ⟨excluded, included⟩) <$>
    both (readField doc "exclude_urls" none (readOptional readTexts))
      (both (readField doc "include_urls" none (readOptional readTexts))
        (readExtras ["exclude_urls", "include_urls"] doc))

/-- Reads the section on the build. -/
def readBuild (doc : Document) : Reading BuildSettings :=
  let default : BuildSettings := {}
  (fun (input, output, workers, _) => ⟨input, output, workers⟩) <$>
    both (readField doc "input_dir" default.inputDir readPath)
      (both (readField doc "output_dir" none (readOptional readPath))
        (both (readField doc "workers" default.workers readWorkers)
          (readExtras ["input_dir", "output_dir", "workers"] doc)))

/-- Reads the section on logging. -/
def readLogging : Document → Reading LoggingSettings := readFields fun doc =>
  (fun (level, file, verbose, _) => ⟨level, file, verbose⟩) <$>
    both (readField doc "level" .human readLevel)
      (both (readField doc "file" none (readOptional readPath))
        (both (readField doc "verbose" 0 readInteger)
          (readExtras ["level", "file", "verbose"] doc)))

/-- Reads a whole document. -/
def read : Document → Reading Settings := readFields fun doc =>
  let default : Settings := {}
  (fun (locale, catalog, nuggets, assets, build, logging, _) =>
      ⟨locale, catalog, nuggets, assets, build, logging⟩) <$>
    both (readField doc "locale" default.locale readLocale)
      (both (readField doc "catalog" {} (readSection "CatalogConfig" readCatalog))
        (both (readField doc "nuggets" {} (readSection "NuggetsConfig" readNuggets))
          (both (readField doc "assets" {} (readSection "AssetsConfig" readAssets))
            (both (readField doc "build" {} (readSection "BuildConfig" readBuild))
              (both (readField doc "logging" {} (readSection "LoggingConfig" readLogging))
                (readExtras ["locale", "catalog", "nuggets", "assets", "build", "logging"]
                  doc))))))

/-! ## Wording -/

namespace Complaint

/-- The short name of a complaint. -/
def code : Complaint → Text
  | notText => "string_type"
  | notUnicode => "string_unicode"
  | tooShort => "string_too_short"
  | unknownSwitch => "bool_parsing"
  | notSwitch => "bool_type"
  | unreadableInteger => "int_parsing"
  | oversizedInteger => "int_parsing_size"
  | fraction => "int_from_float"
  | notFinite => "finite_number"
  | notInteger => "int_type"
  | tooSmall => "greater_than_equal"
  | tooLarge => "less_than_equal"
  | notList => "list_type"
  | notPath => "path_type"
  | unknownLevel => "literal_error"
  | notSection _ => "model_type"
  | extra => "extra_forbidden"
  | keyNotText => "invalid_key"

/-- What a complaint says. -/
def message : Complaint → Text
  | notText => "Input should be a valid string"
  | notUnicode =>
    "Input should be a valid string, unable to parse raw data as a unicode string"
  | tooShort => "String should have at least 1 character"
  | unknownSwitch => "Input should be a valid boolean, unable to interpret input"
  | notSwitch => "Input should be a valid boolean"
  | unreadableInteger => "Input should be a valid integer, unable to parse string as an integer"
  | oversizedInteger => "Unable to parse input string as an integer, exceeded maximum size"
  | fraction => "Input should be a valid integer, got a number with a fractional part"
  | notFinite => "Input should be a finite number"
  | notInteger => "Input should be a valid integer"
  | tooSmall => "Input should be greater than or equal to 1"
  | tooLarge => "Input should be less than or equal to 64"
  | notList => "Input should be a valid list"
  | notPath => "Input is not a valid path for <class 'pathlib.Path'>"
  | unknownLevel => "Input should be 'debug', 'info', 'human', 'warn' or 'error'"
  | notSection name => "Input should be a valid dictionary or instance of " ++ name
  | extra => "Extra inputs are not permitted"
  | keyNotText => "Keys should be strings"

/-- There is a page about the complaint. -/
def hasPage : Complaint → Bool
  | notPath => false
  | _ => true

end Complaint

/-- The number of a step that has one: a position, or a key that is a whole number of 64 bits or a
truth value. -/
def Step.number? : Step → Option Int
  | name _ => none
  | index i => some i
  | key (.bool b) => some (if b then 1 else 0)
  | key (.int i) => if isWord i then some i else none
  | key _ => none

/-- The name of a step that has no number. -/
def Step.title : Step → Text
  | name t => t
  | index i => Text.ofNat i
  | key v => v.quoted

/-- The text of a step.  A name with a point in it stands between backticks. -/
def Step.toText (s : Step) : Text :=
  match s.number? with
  | some i => Text.ofInt i
  | none => if CodePoint.ofChar '.' ∈ s.title then "\x60" ++ s.title ++ "\x60" else s.title

/-- The line that says where a value stands; at the top there is none. -/
def placeLine (place : List Step) : Text :=
  if place = [] then [] else Text.join "." (place.map Step.toText) ++ "\n"

/-- Code points from the start whose bytes fit into a number of bytes. -/
def fitting : Nat → Text → Text
  | _, [] => []
  | room, c :: t =>
    let size := if c.val < 0x80 then 1 else if c.val < 0x800 then 2 else
      if c.val < 0x10000 then 3 else 4
    if size ≤ room then c :: fitting (room - size) t else []

/-- The number of bytes of a text. -/
def byteCount (t : Text) : Nat :=
  (t.map fun c => if c.val < 0x80 then 1 else if c.val < 0x800 then 2 else
    if c.val < 0x10000 then 3 else 4).foldr (· + ·) 0

/-- A text of more than fifty bytes with its middle left out. -/
def shortened (t : Text) : Text :=
  if byteCount t ≤ 50 then t
  else fitting 25 t ++ "..." ++ (fitting 24 t.reverse).reverse

/-- Where pages about complaints are found. -/
def pageHost : Text := "errors.pydantic.dev"

/-- The address of the page about a complaint. -/
def pageOf (c : Complaint) : Text :=
  "https" ++ (":" : Text) ++ "//" ++ pageHost ++ "/2.14/v/" ++ c.code

/-- What is said of one value.  It shows every value, also one in which names of anchors put more
things inside one another than a printer could follow; of such a value only the type would be
shown. -/
def FieldError.message (e : FieldError) : Text :=
  placeLine e.place ++ "  " ++ e.complaint.message ++ " [type="
    ++ e.complaint.code ++ ", input_value=" ++ shortened e.value.quoted ++ ", input_type="
    ++ e.value.kind ++ "]"
    ++ (if e.complaint.hasPage then
          ("\n    For further information visit " : Text) ++ pageOf e.complaint
        else [])

/-- What is said of a document, given what it was to describe. -/
def messageOf (title : Text) (errors : List FieldError) : Text :=
  Text.ofNat errors.length
    ++ (if errors.length = 1 then (" validation error for " : Text) else " validation errors for ")
    ++ title ++ "\n" ++ Text.join "\n" (errors.map FieldError.message)

end Settings

end Localize
