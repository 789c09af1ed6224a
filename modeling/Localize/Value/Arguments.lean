import Localize.Value.Basic

/-!
# Named arguments

Something that is called by name, with named arguments, says which arguments it takes and which of
them it needs.  What does not fit is refused before anything happens: first an argument that it
does not take, then those that are missing.
-/

set_option autoImplicit false

namespace Localize

/-- Arguments by name, in the order in which they were given. -/
abbrev Arguments := List (Text × Value)

/-- What is wrong with the arguments of a call. -/
inductive ArgumentError
  | unexpected (callee name : Text)
  | missing (callee : Text) (names : List Text)
  /-- The argument was given by its place already. -/
  | repeated (callee name : Text)
deriving DecidableEq, Repr

/-- Names in a sentence. -/
def enumerated : List Text → Text
  | [] => []
  | [a] => a
  | [a, b] => a ++ " and " ++ b
  | names => Text.join ", " names.dropLast ++ ", and " ++ names.getLast?.getD []

/-- What is said of a call that is refused. -/
def ArgumentError.message : ArgumentError → Text
  | unexpected callee name =>
    callee ++ "() got an unexpected keyword argument '" ++ name ++ "'"
  | missing callee names =>
    callee ++ "() missing " ++ Text.ofNat names.length
      ++ (if names.length = 1 then (" required positional argument: " : Text)
          else " required positional arguments: ")
      ++ enumerated (names.map fun name => "'" ++ name ++ "'")
  | repeated callee name => callee ++ "() got multiple values for argument '" ++ name ++ "'"

namespace Arguments

/-- The value of an argument. -/
def get? (args : Arguments) (name : Text) : Option Value := args.lookup name

/-- Refuses an argument that was given by its place and is given by its name again. -/
def checkPlaced (args : Arguments) (callee : Text) (placed : List Text) :
    Except ArgumentError Unit :=
  match args.find? fun (name, _) => name ∈ placed with
  | some (name, _) => .error (.repeated callee name)
  | none => .ok ()

/-- Checks arguments against those that are needed and those that may be left out.  What is called
knows itself by a name that no argument may have. -/
def check (args : Arguments) (callee : Text) (needed optional : List Text) :
    Except ArgumentError Unit :=
  match args.find? fun (name, _) => name ∉ needed ∧ name ∉ optional with
  | some (name, _) =>
    .error (if name = ("self" : Text) then .repeated callee name else .unexpected callee name)
  | none =>
    match needed.filter fun name => (args.get? name).isNone with
    | [] => .ok ()
    | names => .error (.missing callee names)

end Arguments

end Localize
