import JarAtlas.Json.Basic

/-!
# Values as keys

What a value counts as when something is looked up by it. Numbers are found by their exact value,
whatever their form, and a truth value counts as one or zero. A string is found only by the same
string. Lists and objects are no keys.
-/

namespace JarAtlas

/-- The exact value of a finite number. -/
def Binary64.rational? : Binary64 → Option Rat
  | finite negative mantissa exponent =>
    let (numerator, denominator) := scaled 2 mantissa 1 exponent
    some (mkRat (if negative then -(numerator : Int) else numerator) denominator)
  | _ => none

namespace Json

/-- What a value counts as when something is looked up by it. -/
inductive Key
  | null
  | number (value : Rat)
  /-- A number that is not finite. -/
  | boundless (value : Binary64)
  | string (value : JsonString)
deriving DecidableEq

/-- The key that a value is. -/
def key? : Json → Option Key
  | null => some .null
  | bool value => some (.number (if value then 1 else 0))
  | int value => some (.number value)
  | real value =>
    match value.rational? with
    | some number => some (.number number)
    | none => some (.boundless value)
  | string value => some (.string value)
  | list _ | object _ => none

/-- Only a text is the key of a text. -/
theorem key?_eq_text_iff {value : Json} {name : Text} :
    value.key? = some (.string (.text name)) ↔ value = .text name := by
  cases value with
  | real value => cases h : value.rational? <;> simp [key?, h]
  | _ => simp [key?]

end Json

end JarAtlas
