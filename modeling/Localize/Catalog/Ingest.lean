import Localize.Catalog.Po.Declared
import Localize.Catalog.Po.Entry
import Localize.Charset.Stream
import Localize.Files.Tree
import Localize.Json.Printer
import Localize.Resolution.Policy

/-!
# From a catalog to a table

A table takes from a catalog what nuggets can use.  An entry is of use if it has an identifier and
a wording, is not obsolete, belongs to no context, and is not marked fuzzy or fuzzy entries are
wanted; of a plural entry the first form is the wording.  Keys are those of the identifiers, so
that a catalog with other line ends than the asset still matches, and of two entries with one key
the later counts.

A catalog whose whole text is the name of a file stands for that file.  `ingest` therefore takes,
besides the bytes, a way to ask for the contents of a file by its name.
-/

set_option autoImplicit false

namespace Localize

/-- Why a catalog is of no use. -/
inductive CatalogError
  | unreadable (path : Text) (cause : FileError)
  | notUtf8 (locale : Text) (cause : Utf8.DecodeError)
  | blank (locale : Text)
  | malformed (locale : Text) (file : Option Text) (failure : Po.Failure)
  /-- The file that the catalog names holds no text. -/
  | undecodable (locale : Text) (cause : Charset.Fault)
  | lookupUnwritable (target : Text) (cause : FileError)
deriving DecidableEq, Repr

/-- What is said of a catalog that is of no use. -/
def CatalogError.message : CatalogError → Text
  | unreadable path cause => "Could not read catalog " ++ path ++ ": " ++ cause.message
  | notUtf8 locale cause =>
    "Catalog for '" ++ locale ++ "' is not valid UTF-8: " ++ cause.message
  | blank locale => "Catalog for '" ++ locale ++ "' is empty"
  | malformed locale file failure =>
    "Catalog for '" ++ locale ++ "' could not be parsed: " ++ failure.message file
  | undecodable locale cause =>
    "Catalog for '" ++ locale ++ "' could not be parsed: " ++ cause.message
  | lookupUnwritable target cause =>
    "Could not write lookup file " ++ target ++ ": " ++ cause.message

namespace Catalog

/-- The wording an entry offers: the first form of a plural entry, the string of any other. -/
def valueOf (e : Po.Entry) : Text := if e.plural = [] then e.string else e.form 0

/-- The flag of entries that a translator has to look at again. -/
def fuzzy : Text := "fuzzy"

/-- A table can use the entry. -/
def usable (includeFuzzy : Bool) (e : Po.Entry) : Bool :=
  e.id ≠ [] && !e.obsolete && e.context = [] && (includeFuzzy || fuzzy ∉ e.flags)
    && valueOf e ≠ []

/-- The table of the entries it can use. -/
def tableOf (includeFuzzy : Bool) (entries : List Po.Entry) : Table :=
  (entries.filter (usable includeFuzzy)).foldl
    (fun table e => table.insert (Nugget.keyOf e.id) (valueOf e)) Table.empty

/-- The entry describes the catalog itself. -/
def isHeader (e : Po.Entry) : Bool := e.id = [] && !e.obsolete

/-- How many entries the table leaves out, one header not counted. -/
def skipped (includeFuzzy : Bool) (entries : List Po.Entry) : Nat :=
  (entries.filter (!usable includeFuzzy ·)).length - (if entries.any isHeader then 1 else 0)

/-- What came of a catalog. -/
structure Ingested where
  table : Table
  /-- How many entries the table leaves out. -/
  skipped : Nat
deriving Repr

/-- The entries of a catalog given by its lines, in the file of a name or in none. -/
def entriesIn (locale : Text) (file : Option Text) (lines : List Text) :
    Except CatalogError (List Po.Entry) :=
  (Po.entries lines).mapError (.malformed locale file)

/-- The entries of a catalog given by its text, or by the file it names.  Bytes of the file that
are no text come to light after what is wrong with the lines before them. -/
def entriesOf (locale content : Text) (fileNamed : Text → Option Bytes) :
    Except CatalogError (List Po.Entry) :=
  match fileNamed content with
  | none => entriesIn locale none (Text.lines content)
  | some bytes =>
    let decoded := (Po.declaredCharset bytes).read bytes
    match decoded.fault with
    | none => entriesIn locale (some content) (Text.plainLines decoded.text)
    | some fault => do
      let _ ← entriesIn locale (some content) (Text.completeLines decoded.text)
      throw (.undecodable locale fault)

/-- Reads a catalog given by its bytes. -/
def ingest (locale : Text) (includeFuzzy : Bool) (bytes : Bytes)
    (fileNamed : Text → Option Bytes) : Except CatalogError Ingested :=
  match Utf8.decodeMarked bytes with
  | .error e => .error (.notUtf8 locale e)
  | .ok content =>
    if Text.strip content = [] then .error (.blank locale)
    else do
      let entries ← entriesOf locale content fileNamed
      return ⟨tableOf includeFuzzy entries, skipped includeFuzzy entries⟩

/-! ## The lookup file -/

/-- The entries of a table, ordered by key. -/
def sorted (table : Table) : List (Text × Text) :=
  table.entries.mergeSort fun a b => Text.le a.1 b.1

/-- The contents of the file that holds a table. -/
def lookupText (table : Table) : Text :=
  Json.pretty (Value.ofFields ((sorted table).map fun (key, value) => (key, .text value)))

/-- The file of a locale's table in a directory. -/
def lookupTarget (locale : Text) (directory : Path) : Path :=
  directory.join (Path.ofText (locale ++ ".json"))

end Catalog

end Localize
