import Localize.Files.Tree
import Localize.Settings.Validate
import Localize.Yaml.Document

/-!
# Loading settings

Settings come from a file, the environment and the options of a run, each laid over the one before
(`load`).  The file is optional; a file that says nothing is as good as none.
-/

set_option autoImplicit false

namespace Localize

namespace Settings

/-- Why settings are not loaded. -/
inductive LoadError
  | missing (path : Path)
  | unreadable (cause : FileError)
  /-- What is in the file is no document. -/
  | unread (cause : Yaml.Fault)
  | notMapping (path : Path)
  | option (cause : NoItems)
  /-- A key at the top of the document is no text. -/
  | keyNotText
  | invalid (errors : List FieldError)
deriving Repr

/-- What a complaint is about, at the top. -/
def title : Text := "AppConfig"

/-- What is said of settings that are not loaded. -/
def LoadError.message : LoadError → Text
  | missing path => "Archivo de configuración no encontrado: " ++ path.toText
  | unreadable cause => cause.message
  | unread cause => cause.message
  | notMapping path =>
    "Configuración inválida en " ++ path.toText ++ ": se esperaba un mapping"
  | option cause => cause.message
  | keyNotText => "keywords must be strings"
  | invalid errors => messageOf title errors

/-- The failure is that there is no file. -/
def LoadError.isMissing : LoadError → Bool
  | missing _ => true
  | unreadable cause => cause.cause = .notFound
  | _ => false

/-- The failure is one that whoever asks for settings has to expect: there is no file, or what is
in it is of no use.  A file that is in the way and a text that is not in the format are not. -/
def LoadError.isExpected : LoadError → Bool
  | missing _ | notMapping _ | invalid _ => true
  | unreadable cause => cause.cause = .notFound
  | unread cause => cause.isBadValue
  | option _ | keyNotText => false

/-- How many calls a parser can usually make inside one another.  How many it can make in truth hangs
on who calls it and on what it does at the place, give or take a few. -/
def commonRoom : Nat := 974

/-- The document in the bytes of a file; if they say nothing, it is empty.  They are read while they
are parsed, so that a fault of the text comes before one of the bytes behind it.  `room` is how many
calls the parser can make inside one another. -/
def documentIn (room : Nat) (path : Path) (bytes : Bytes) : Except LoadError Document := do
  let value ← (Yaml.read room (.ofFile bytes)).mapError .unread
  if !value.truthy then return []
  else
    match value.entries? with
    | some doc => return doc
    | none => throw (.notMapping path)

/-- The document in a file; without a file it is empty. -/
def readDocument (room : Nat) (tree : Tree) : Option Path → Except LoadError Document
  | none => .ok []
  | some path => do
    let present ← (tree.isPresent path).mapError .unreadable
    if !present then throw (.missing path)
    else documentIn room path (← (tree.readFile path).mapError .unreadable)

/-- The key is a text. -/
def isTextKey : Value → Bool
  | .text _ => true
  | _ => false

/-- Reads settings from a document. -/
def ofDocument (doc : Document) : Except LoadError Settings :=
  if doc.all fun (key, _) => isTextKey key then (read doc).mapError .invalid
  else .error .keyNotText

/-- Settings from a file, the environment and options. -/
def load (room : Nat) (tree : Tree) (path : Option Path) (env : Environment) (options : Options) :
    Except LoadError Settings := do
  let doc ← readDocument room tree path
  let doc ← (applyOptions (merge doc (fromEnvironment env)) options).mapError .option
  ofDocument doc

end Settings

end Localize
