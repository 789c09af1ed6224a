import Localize.Files.Path
import Localize.Text.Quoted
import Localize.Text.Utf8

/-!
# Trees of files

A tree is a finite map from places to files and directories, seen from a working directory.  Its
operations are those of an operating system as far as files, directories and nothing else go: no
links, no permissions.  Each fails the way a system call does, with a cause and the path as it was
given (`FileError`), and an operation that fails leaves the tree as it is.  Making several
directories is several operations (`Tree.makeDirectories`).

A path with a null byte, or with half a surrogate pair that stands for no byte, is none that the
system can be asked about.  An operation on it fails before anything is looked up.

Walking a path goes part by part, and each part has to be looked up in a directory that exists
(`Tree.walk`).  The last part need not exist; whether that matters is for the operation to say.
-/

set_option autoImplicit false

namespace Localize

/-- What a place holds. -/
inductive Entry
  | file (bytes : Bytes)
  | directory
deriving DecidableEq, Repr

/-- Why an operation on a path fails. -/
inductive FileCause
  | notFound
  | exists
  | notDirectory
  | isDirectory
  | nameTooLong
  /-- The path holds a null byte. -/
  | nullByte
  /-- The path cannot be written as bytes. -/
  | unencodable (cause : Utf8.EncodeError)
deriving DecidableEq, Repr

/-- An operation that failed, with the path it was given. -/
structure FileError where
  cause : FileCause
  path : Text
deriving DecidableEq, Repr

/-- What is said of a failure of the system, given its number and its words. -/
def FileError.numbered (e : FileError) (number : Nat) (words : Text) : Text :=
  "[Errno " ++ Text.ofNat number ++ "] " ++ words ++ ": " ++ e.path.quoted

/-- What is said of an operation that failed. -/
def FileError.message (e : FileError) : Text :=
  match e.cause with
  | .notFound => e.numbered 2 "No such file or directory"
  | .exists => e.numbered 17 "File exists"
  | .notDirectory => e.numbered 20 "Not a directory"
  | .isDirectory => e.numbered 21 "Is a directory"
  | .nameTooLong => e.numbered 36 "File name too long"
  | .nullByte => "embedded null byte"
  | .unencodable cause => cause.message

/-- The path is none that the system can be asked about. -/
def FileError.isUnaskable (e : FileError) : Bool :=
  match e.cause with
  | .nullByte | .unencodable _ => true
  | _ => false

/-- Half a surrogate pair that stands for a single byte in the name of a file. -/
def CodePoint.isByteEscape (c : CodePoint) : Bool := 0xDC80 ≤ c.val && c.val ≤ 0xDCFF

/-- Why the system cannot be asked about a path, if so. -/
def pathFault? (path : Text) : Option FileCause :=
  let isBad (c : CodePoint) : Bool := c.isSurrogate && !c.isByteEscape
  match path.dropWhile (!isBad ·) with
  | c :: rest =>
    let count := ((c :: rest).takeWhile CodePoint.isSurrogate).length
    some (.unencodable ⟨path.length - (rest.length + 1), c, count⟩)
  | [] => if path.any (·.val = 0) then some .nullByte else none

/-- Fails if the system cannot be asked about a path. -/
def Path.checkAskable (p : Path) : Except FileError Unit :=
  match pathFault? p.toText with
  | some cause => .error ⟨cause, p.toText⟩
  | none => .ok ()

/-- Files and directories by their places, and the directory that relative paths start from.  The
root is a directory without being listed. -/
structure Tree where
  entries : List (Location × Entry)
  cwd : Location
deriving Repr, Inhabited

namespace Tree

/-! ## Looking up -/

/-- What a place holds. -/
def entry? (t : Tree) (place : Location) : Option Entry :=
  if place = [] then some .directory else t.entries.lookup place

/-- The contents of the file at a place. -/
def fileAt? (t : Tree) (place : Location) : Option Bytes :=
  match t.entry? place with
  | some (.file bytes) => some bytes
  | _ => none

/-- The largest number of bytes in a name. -/
def maxName : Nat := 255

/-- The largest number of bytes in a path. -/
def maxPath : Nat := 4095

/-- The number of bytes a text is written with. -/
def byteLength (t : Text) : Nat := (Utf8.encodeLossy t).length

/-- Walks parts from a place.  Each part is looked up in a directory; the last need not exist. -/
def walk (t : Tree) (place : Location) : List Text → Except FileCause Location
  | [] => .ok place
  | part :: rest =>
    match t.entry? place with
    | none => .error .notFound
    | some (.file _) => .error .notDirectory
    | some .directory =>
      if part = [] ∨ part = Path.dot then t.walk place rest
      else if part = Path.up then t.walk place.dropLast rest
      else if maxName < byteLength part then .error .nameTooLong
      else t.walk (place ++ [part]) rest

/-- The place of a path as it is written, dots, doubled slashes and all. -/
def locateRaw (t : Tree) (path : Text) : Except FileCause Location :=
  if let some cause := pathFault? path then .error cause
  else if path = [] then .error .notFound
  else if maxPath < byteLength path then .error .nameTooLong
  else t.walk (if Path.rootOf path = .relative then t.cwd else []) (Text.splitOn Path.slash path)

/-- What stands at a path as it is written. -/
def statusRaw (t : Tree) (path : Text) : Except FileCause Entry := do
  match t.entry? (← t.locateRaw path) with
  | some entry => .ok entry
  | none => .error .notFound

/-- The place of a path. -/
def locate (t : Tree) (p : Path) : Except FileCause Location := t.locateRaw p.toText

/-- What stands at a path. -/
def status (t : Tree) (p : Path) : Except FileCause Entry := t.statusRaw p.toText

/-- Puts the path to the cause of a failure. -/
def named {α : Type} (p : Path) : Except FileCause α → Except FileError α
  | .ok a => .ok a
  | .error cause => .error ⟨cause, p.toText⟩

/-- Whether something satisfies a test; that something is not there or cannot be is no failure, and
any other trouble is. -/
def test (t : Tree) (p : Path) (ok : Entry → Bool) : Except FileError Bool :=
  match t.status p with
  | .ok entry => .ok (ok entry)
  | .error .notFound | .error .notDirectory | .error .nullByte | .error (.unencodable _) =>
    .ok false
  | .error cause => .error ⟨cause, p.toText⟩

/-- The entry is a directory. -/
def isDirectoryEntry : Entry → Bool
  | .directory => true
  | .file _ => false

/-- There is a directory at a path. -/
def isDirectory (t : Tree) (p : Path) : Except FileError Bool := t.test p isDirectoryEntry

/-- There is something at a path. -/
def isPresent (t : Tree) (p : Path) : Except FileError Bool := t.test p fun _ => true

/-- The contents of the file that a text, taken as a path, is the name of. -/
def fileNamed? (t : Tree) (path : Text) : Option Bytes :=
  match t.statusRaw path with
  | .ok (.file bytes) => some bytes
  | _ => none

/-- The files below a place, by their names from there on, ordered name by name. -/
def filesUnder (t : Tree) (place : Location) : List Location :=
  let found := t.entries.filterMap fun
    | (l, .file _) => if place.isPrefixOf l ∧ l ≠ place then some (l.drop place.length) else none
    | _ => none
  found.mergeSort fun a b => (Text.compareList a b).isLE

/-! ## Reading and writing -/

/-- The contents of a file. -/
def readFile (t : Tree) (p : Path) : Except FileError Bytes :=
  named p do
    match ← t.status p with
    | .file bytes => .ok bytes
    | .directory => .error .isDirectory

/-- Puts an entry at a place, in the place of what is there. -/
def put (place : Location) (entry : Entry) : List (Location × Entry) → List (Location × Entry)
  | [] => [(place, entry)]
  | (l, e) :: rest => if l = place then (l, entry) :: rest else (l, e) :: put place entry rest

/-- The tree with an entry put at a place. -/
def set (t : Tree) (place : Location) (entry : Entry) : Tree :=
  { t with entries := put place entry t.entries }

/-- Writes a file, in the place of the one that is there. -/
def writeFile (t : Tree) (p : Path) (bytes : Bytes) : Except FileError Tree :=
  named p do
    let place ← t.locate p
    match t.entry? place with
    | some .directory => .error .isDirectory
    | _ => .ok (t.set place (.file bytes))

/-- Adds bytes to the end of the file at a place. -/
def append (t : Tree) (place : Location) (bytes : Bytes) : Tree :=
  match t.fileAt? place with
  | some old => t.set place (.file (old ++ bytes))
  | none => t.set place (.file bytes)

/-- Makes a directory in one that exists. -/
def makeDirectory (t : Tree) (p : Path) : Except FileError Tree :=
  named p do
    let place ← t.locate p
    match t.entry? place with
    | some _ => .error .exists
    | none => .ok (t.set place .directory)

/-- Makes a directory in one that exists, unless it is there already. -/
def ensureDirectory (t : Tree) (p : Path) : Except FileError Tree :=
  match t.makeDirectory p with
  | .ok t => .ok t
  | .error e =>
    if e.cause = .notFound then .error e
    else
      match t.isDirectory p with
      | .ok true => .ok t
      | _ => .error e

/-- The outcome of an operation, and the tree after it. -/
def kept (old : Tree) : Except FileError Tree → Except FileError Unit × Tree
  | .ok t => (.ok (), t)
  | .error e => (.error e, old)

/-- Makes the directories that a list of parts leads through, given backwards. -/
def makeParts (root : Root) (t : Tree) : List Text → Except FileError Unit × Tree
  | [] => kept t (t.ensureDirectory ⟨root, []⟩)
  | part :: above =>
    let p : Path := ⟨root, (part :: above).reverse⟩
    match t.ensureDirectory p with
    | .ok t => (.ok (), t)
    | .error e =>
      if e.cause ≠ .notFound then (.error e, t)
      else
        match makeParts root t above with
        | (.error e, t) => (.error e, t)
        | (.ok (), t) => kept t (t.ensureDirectory p)

/-- Makes a directory and those it lies in, as far as they are not there.  If that fails, the ones
that were made stay. -/
def makeDirectories (t : Tree) (p : Path) : Except FileError Unit × Tree :=
  makeParts p.root t p.parts.reverse

/-- Copies a file.  A directory at the target takes the copy in, under the name of the source. -/
def copyFile (t : Tree) (source target : Path) : Except FileError Tree := do
  let target :=
    match t.status target with
    | .ok .directory => target.join (Path.ofNames [source.name])
    | _ => target
  let bytes ← t.readFile source
  t.writeFile target bytes

end Tree

end Localize
