import Localize.Command.Program
import Localize.Log.Time

/-!
# The program as an executable

The program itself is a function of its host (`Command.Program.run`).  What is here reads the host,
as far as the command line leads to it, and carries out what the function says.
-/

set_option autoImplicit false

namespace Localize

namespace Executable

open Command

/-! ## Reading the host -/

/-- The entries at an entry of a directory and below it. -/
partial def entriesBelow (above : Location) (entry : IO.FS.DirEntry) :
    IO (List (Location × Entry)) := do
  let place := above ++ [Text.ofString entry.fileName]
  if ← entry.path.isDir then
    let mut found := [(place, Entry.directory)]
    for inner in ← entry.path.readDir do
      found := found ++ (← entriesBelow place inner)
    return found
  else
    let bytes ← IO.FS.readBinFile entry.path
    return [(place, .file bytes.toList)]

/-- Adds what stands at a place, and below it, to a tree. -/
def readPlace (tree : Tree) (above : Location) (name : Text) : IO Tree := do
  let entry : IO.FS.DirEntry := ⟨above.toText.toString, name.toString⟩
  if ← entry.path.pathExists then
    let found ← entriesBelow above entry
    return found.foldl (fun tree (place, e) => tree.set place e) tree
  else return tree

/-- Adds the directories above a place to a tree, and what stands there. -/
def readLocation (tree : Tree) (above : Location) : Location → IO Tree
  | [] => return tree
  | [name] => readPlace tree above name
  | name :: rest => do
    let entry : IO.FS.DirEntry := ⟨above.toText.toString, name.toString⟩
    let place := above ++ [name]
    if (tree.entry? place).isSome then readLocation tree place rest
    else if ← entry.path.isDir then readLocation (tree.set place .directory) place rest
    else readPlace tree above name

/-- Adds what paths lead to to a tree. -/
def readPaths (tree : Tree) : List Path → IO Tree
  | [] => return tree
  | path :: rest => do
    let place := path.resolve tree.cwd
    let tree ← if (tree.entry? place).isSome then pure tree else readLocation tree [] place
    readPaths tree rest

/-- Reads what the words of a command line lead to, in rounds: settings lead to further paths, and
a catalog may. -/
def readHost (words : List Text) : Nat → Host → IO Host
  | 0, host => return host
  | rounds + 1, host => do
    let tree ← readPaths host.tree (Program.paths host words)
    readHost words rounds { host with tree }

/-- The variables of the environment that the program looks at. -/
def readEnvironment : List String → IO Settings.Environment
  | [] => return []
  | name :: rest => do
    let others ← readEnvironment rest
    match ← IO.getEnv name with
    | some value => return (Text.ofString name, Text.ofString value) :: others
    | none => return others

/-- The time, which is that of a file just made. -/
def readTime : IO Moment := do
  let (_, path) ← IO.FS.createTempFile
  let modified := (← path.metadata).modified
  IO.FS.removeFile path
  return .ofSeconds modified.sec.toNat (modified.nsec.toNat / 1000)

/-- A host that knows its working directory and nothing of what is in it. -/
def bareHost : IO Host := do
  let cwd := (Path.ofText (Text.ofString (← IO.currentDir).toString)).parts
  let above := (List.range cwd.length).map fun n => (cwd.take (n + 1), Entry.directory)
  return {
    tree := { entries := above, cwd }
    environment := ← readEnvironment Settings.variableNames
    time := (← readTime).timestamp }

/-! ## Carrying out -/

/-- Makes the files and directories of a tree that another has not. -/
def writeChanges (old new : Tree) : IO Unit :=
  for (place, entry) in new.entries do
    if old.entry? place ≠ some entry then
      match entry with
      | .directory => IO.FS.createDirAll place.toText.toString
      | .file bytes => IO.FS.writeBinFile place.toText.toString ⟨bytes.toArray⟩

/-- Writes a text to a stream. -/
def show' (stream : IO.FS.Stream) (t : Text) : IO Unit := do
  stream.putStr t.toString
  stream.flush

/-- Carries out what came of a command. -/
def carryOut (host : Host) (result : Result) : IO UInt32 := do
  writeChanges host.tree result.tree
  show' (← IO.getStdout) result.output
  show' (← IO.getStderr) result.messages
  match result.failure with
  | some failure => show' (← IO.getStderr) (Result.line failure.message)
  | none => pure ()
  return result.exitCode.toUInt32

/-- Runs the program.  How long a build takes is found out by working it out once before. -/
def run (words : List Text) : IO UInt32 := do
  let host ← readHost words 3 (← bareHost)
  let start ← IO.monoMsNow
  let first ← IO.lazyPure fun _ => Program.run host words
  if first.exitCode = badUsage then carryOut host first
  else
    let stop ← IO.monoMsNow
    let duration := Binary64.ofDecimal false (stop - start) 8 (-3)
    let host := { host with duration }
    carryOut host (Program.run host words)

end Executable

end Localize

/-- Runs the program by its command line. -/
def main (args : List String) : IO UInt32 :=
  Localize.Executable.run (args.map Localize.Text.ofString)
