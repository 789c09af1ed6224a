import Localize.Charset.Fault

/-!
# Reading bytes step by step

In most charsets of more than one byte, what bytes begin with can be read without a look at what was
read before, or with a look at no more than a *state* that the bytes before have set.
-/

set_option autoImplicit false

namespace Localize

namespace Charset

/-- What bytes begin with. -/
inductive Step
  | read (t : Text) (used : Nat)
  /-- A number of bytes that mean nothing. -/
  | illegal (count : Nat) (reason : Text)
  /-- More bytes are needed. -/
  | short (reason : Text)
deriving DecidableEq, Repr

namespace Step

/-- A number of bytes that mean nothing together. -/
def meaningless (count : Nat) : Step := .illegal count "illegal multibyte sequence"

/-- Bytes that belong together are cut off. -/
def cut : Step := .short "incomplete multibyte sequence"

/-- A text that a number of bytes stand for, or nothing that the first of them stands for. -/
def ofText? (used : Nat) : Option Text → Step
  | some t => .read t used
  | none => meaningless 1

end Step

/-- Reads bytes step by step, of which the first `skip` are already read, and gives the state that
the steps lead to. -/
def readSteps {σ : Type} (charset : Text) (final : Bool) (step : σ → UInt8 → Bytes → Step × σ) :
    Nat → σ → Nat → Bytes → Except DecodeError (Text × Bytes × σ)
  | _, s, _, [] => .ok ([], [], s)
  | skip + 1, s, pos, _ :: rest => readSteps charset final step skip s (pos + 1) rest
  | 0, s, pos, b :: rest =>
    match step s b rest with
    | (.read t used, s) => do
      let (more, left, s) ← readSteps charset final step (used - 1) s (pos + 1) rest
      return (t ++ more, left, s)
    | (.illegal count reason, _) => .error ⟨charset, pos, b, count, reason⟩
    | (.short reason, _) =>
      if final then .error ⟨charset, pos, b, rest.length + 1, reason⟩
      else .ok ([], b :: rest, s)

/-- Reads bytes step by step without a state. -/
def readPlainSteps (charset : Text) (final : Bool) (step : UInt8 → Bytes → Step) (data : Bytes) :
    Part := do
  let (text, rest, _) ←
    readSteps charset final (fun (_ : Unit) b rest => (step b rest, ())) 0 () 0 data
  return (text, rest)

end Charset

end Localize
