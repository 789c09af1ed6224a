import Localize.Unicode.Decimal

/-!
# Placeholders

`%0`, `%1`, … stand for the arguments of a nugget.  A placeholder is a percent sign with *all* the
digits that follow it, so `%12` is the thirteenth argument and never the second with a `2` behind
it.  Digits of every script count.  A placeholder without an argument stays as it is written, and
what is put in is not searched again.

Numbers of more than 4300 digits are refused.  That can only be seen when there are arguments:
without any, nothing is read at all.
-/

set_option autoImplicit false

namespace Localize

/-- A placeholder with too many digits. -/
structure OversizedPlaceholder where
  /-- How many digits it has. -/
  digits : Nat
deriving DecidableEq, Repr

namespace Placeholder

/-- The largest number of digits that is read as a number. -/
def maxDigits : Nat := 4300

/-- The text a placeholder becomes, given its digits. -/
def fill (args : List Text) (digits : Text) : Except OversizedPlaceholder Text :=
  if maxDigits < digits.length then .error ⟨digits.length⟩
  else .ok (args[Text.decimalValue digits]?.getD ('%' :: digits))

/-- Puts arguments into a text of which the first `skip` code points belong to a placeholder
already filled. -/
def fillFrom (args : List Text) : Nat → Text → Except OversizedPlaceholder Text
  | _, [] => .ok []
  | skip + 1, _ :: t => fillFrom args skip t
  | 0, c :: t =>
    let digits := t.takeWhile CodePoint.isDecimal
    if c = '%' ∧ digits ≠ [] then do
      let text ← fill args digits
      let rest ← fillFrom args digits.length t
      return text ++ rest
    else do
      let rest ← fillFrom args 0 t
      return c :: rest

/-- Puts arguments in the place of the placeholders of a template. -/
def format (template : Text) (args : List Text) : Except OversizedPlaceholder Text :=
  if args = [] then .ok template else fillFrom args 0 template

end Placeholder

/-- What is said of a placeholder with too many digits. -/
def OversizedPlaceholder.message (e : OversizedPlaceholder) : Text :=
  "Exceeds the limit (4300 digits) for integer string conversion: value has "
    ++ Text.ofNat e.digits
    ++ " digits; use sys.set_int_max_str_digits() to increase the limit"

end Localize
