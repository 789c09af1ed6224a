import Localize.Resolution.Policy
import Localize.Value.Basic

/-!
# Results of a build

What became of each asset, and the sums over all of them.
-/

set_option autoImplicit false

namespace Localize

/-- What became of an asset. -/
inductive AssetStatus
  | rewritten
  | unchanged
  /-- The settings leave it out. -/
  | skipped
  /-- Its bytes stand for no text. -/
  | binary
  | sourceMap
  /-- A word of another program. -/
  | other (word : Text)
deriving DecidableEq, Repr

namespace AssetStatus

/-- The word for what became of an asset. -/
def word : AssetStatus → Text
  | rewritten => "rewritten"
  | unchanged => "unchanged"
  | skipped => "skipped"
  | binary => "binary"
  | sourceMap => "sourcemap"
  | other word => word

/-- What a word says of an asset. -/
def ofWord (t : Text) : AssetStatus :=
  match [rewritten, unchanged, skipped, binary, sourceMap].find? fun s => s.word = t with
  | some s => s
  | none => other t

/-- The words are told apart. -/
theorem ofWord_word (s : AssetStatus) (h : ∀ w, s ≠ other w) : ofWord s.word = s := by
  cases s with
  | other w => exact absurd rfl (h w)
  | _ => decide

end AssetStatus

/-- What became of one asset, with what was counted in it. -/
structure AssetResult where
  name : Text
  status : AssetStatus
  nuggets : Int := 0
  translated : Int := 0
  warnings : List MissingKey := []
deriving DecidableEq, Repr

/-- A length of time in seconds: a whole number, or one that need not be whole. -/
inductive Seconds
  | whole (n : Int)
  | exact (x : Binary64)
deriving DecidableEq, Repr

namespace Seconds

/-- Rounded to thousandths; a whole number stays one. -/
def rounded : Seconds → Seconds
  | whole n => whole n
  | exact x => exact (x.round 3)

/-- As a value. -/
def toValue : Seconds → Value
  | whole n => .int n
  | exact x => .float x

/-- With one digit after the point. -/
def brief : Seconds → Text
  | whole n => (Binary64.ofInt n).fixed 1
  | exact x => x.fixed 1

end Seconds

/-- What became of all assets of a build. -/
structure BuildResult where
  locale : Text
  catalog : Option Text
  inputDir : Text
  outputDir : Text
  duration : Seconds := .exact (.zero false)
  assets : List AssetResult := []
deriving DecidableEq, Repr

namespace BuildResult

/-- The keys that had no wording, asset by asset. -/
def warnings (b : BuildResult) : List MissingKey := b.assets.flatMap (·.warnings)

/-- The assets that were rewritten. -/
def rewritten (b : BuildResult) : List AssetResult :=
  b.assets.filter fun a => a.status = .rewritten

/-- The nuggets of all assets. -/
def nuggets (b : BuildResult) : Int := (b.assets.map (·.nuggets)).foldr (· + ·) 0

/-- The nuggets of all assets that were translated. -/
def translated (b : BuildResult) : Int := (b.assets.map (·.translated)).foldr (· + ·) 0

end BuildResult

end Localize
