import Localize.Command.Usage

/-!
# Command lines

A command line is a list of words: options, the values of options, and operands.

* A word that begins with a dash and has something after it is an option.  A long one may carry
  its value behind an equals sign.  Any other is a cluster of one-letter options, and the first of
  them that takes a value takes the rest of the cluster.
* An option that takes a value and carries none takes the next word, whatever it looks like.
* All else is an operand.  After two dashes all words are, and some commands read no further than
  to the first.

`Line.read` is one pass over the words.
-/

set_option autoImplicit false

namespace Localize

namespace Command

/-- A way to write an option. -/
structure Form (O : Type) where
  spelling : Text
  option : O
  takesValue : Bool := false

/-- An option that was given, with its value if it takes one. -/
structure Given (O : Type) where
  option : O
  value : Text := []

/-- A command line in parts. -/
structure Line (O : Type) where
  given : List (Given O) := []
  operands : List Text := []

namespace Form

variable {O : Type}

/-- The dash before an option. -/
def dash : Text := Text.ofChars ['-']

/-- Two dashes. -/
def dashes : Text := Text.ofChars ['-', '-']

/-- The form has two dashes. -/
def isLong (f : Form O) : Bool := Text.startsWith dashes f.spelling

/-- The form of an option with two dashes. -/
def long? (forms : List (Form O)) (spelling : Text) : Option (Form O) :=
  forms.find? fun f => f.isLong && f.spelling = spelling

/-- The spellings with two dashes that are like a word. -/
def alike (forms : List (Form O)) (word : Text) : List Text :=
  Text.likest word ((forms.filter isLong).map (·.spelling))

/-- The form of an option of one letter. -/
def short? (forms : List (Form O)) (letter : CodePoint) : Option (Form O) :=
  forms.find? fun f => !f.isLong && f.spelling = dash ++ [letter]

end Form

/-- What a word gives: options, and perhaps one that waits for its value. -/
abbrev Found (O : Type) := List (Given O) × Option (Form O)

namespace Line

variable {O : Type}

/-- Reads a cluster of options of one letter. -/
def readCluster (forms : List (Form O)) : Text → Except UsageError (Found O)
  | [] => .ok ([], none)
  | letter :: rest =>
    match Form.short? forms letter with
    | none => .error (.unknownOption (Form.dash ++ [letter]) [])
    | some f =>
      if f.takesValue then
        .ok (if rest = [] then ([], some f) else ([⟨f.option, rest⟩], none))
      else (readCluster forms rest).map fun (given, waiting) => (⟨f.option, []⟩ :: given, waiting)

/-- A word up to its first equals sign, and what follows it. -/
def cut (word : Text) : Text × Option Text :=
  match Text.breakOn "=" word with
  | some (name, value) => (name, some value)
  | none => (word, none)

/-- Reads a word that is an option. -/
def readOption (forms : List (Form O)) (word : Text) : Except UsageError (Found O) :=
  let (name, value) := cut word
  match Form.long? forms name, value with
  | some f, some value =>
    if f.takesValue then .ok ([⟨f.option, value⟩], none) else .error (.valueUnwanted f.spelling)
  | some f, none => .ok (if f.takesValue then ([], some f) else ([⟨f.option, []⟩], none))
  | none, _ =>
    if Text.startsWith Form.dashes word then
      .error (.unknownOption name (Form.alike forms name))
    else readCluster forms (word.drop 1)

/-- The word is an option. -/
def isOption (word : Text) : Bool := Text.startsWith Form.dash word && 1 < word.length

/-- A line with options before it. -/
def addGiven (given : List (Given O)) (line : Line O) : Line O :=
  { line with given := given ++ line.given }

/-- A line with an operand before its operands. -/
def addOperand (word : Text) (line : Line O) : Line O :=
  { line with operands := word :: line.operands }

/-- Reads the words of a command line.  If options may not stand among the operands, the first
operand ends them. -/
def read (forms : List (Form O)) (among : Bool) : List Text → Except UsageError (Line O)
  | [] => .ok {}
  | word :: rest =>
    if word = Form.dashes then .ok { operands := rest }
    else if isOption word then
      match readOption forms word with
      | .error e => .error e
      | .ok (given, none) => (read forms among rest).map (addGiven given)
      | .ok (given, some f) =>
        match rest with
        | [] => .error (.valueMissing f.spelling)
        | value :: rest =>
          (read forms among rest).map (addGiven (given ++ [⟨f.option, value⟩]))
    else if among then (read forms among rest).map (addOperand word)
    else .ok { operands := word :: rest }

/-! ## What was given -/

variable [DecidableEq O]

/-- How often an option was given. -/
def count (line : Line O) (option : O) : Nat :=
  (line.given.filter fun g => g.option = option).length

/-- The option was given. -/
def has (line : Line O) (option : O) : Bool := line.given.any fun g => g.option = option

/-- All values of an option. -/
def values (line : Line O) (option : O) : List Text :=
  (line.given.filter fun g => g.option = option).map (·.value)

/-- The value of an option; the last one counts. -/
def value? (line : Line O) (option : O) : Option Text := (line.values option).getLast?

/-- Which of two opposite options was given last. -/
def choice? (line : Line O) (yes no : O) : Option Bool :=
  (line.given.filter fun g => g.option = yes || g.option = no).getLast?.map
    fun g => decide (g.option = yes)

/-- Checks the options in the order in which they were given, each by its last value. -/
def checkGiven (line : Line O) (check : O → Text → Except UsageError Unit) :
    List (Given O) → Except UsageError Unit
  | [] => .ok ()
  | g :: rest => do
    check g.option ((line.value? g.option).getD [])
    checkGiven line check rest

end Line

end Command

end Localize
