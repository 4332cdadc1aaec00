import JarAtlas.Text.Basic

/-!
# Decimal digits

Every script's decimal digits stand in order, zero to nine, so the zeros alone tell all digits and
their values. A number is read from a run of digits of any scripts, at most `digitLimit` of them.
-/

namespace JarAtlas.Text

/-- The digits zero of all scripts. -/
def digitZeros : List Nat :=
  [0x30, 0x660, 0x6F0, 0x7C0, 0x966, 0x9E6, 0xA66, 0xAE6, 0xB66, 0xBE6, 0xC66, 0xCE6, 0xD66,
   0xDE6, 0xE50, 0xED0, 0xF20, 0x1040, 0x1090, 0x17E0, 0x1810, 0x1946, 0x19D0, 0x1A80, 0x1A90,
   0x1B50, 0x1BB0, 0x1C40, 0x1C50, 0xA620, 0xA8D0, 0xA900, 0xA9D0, 0xA9F0, 0xAA50, 0xABF0,
   0xFF10, 0x104A0, 0x10D30, 0x11066, 0x110F0, 0x11136, 0x111D0, 0x112F0, 0x11450, 0x114D0,
   0x11650, 0x116C0, 0x11730, 0x118E0, 0x11950, 0x11C50, 0x11D50, 0x11DA0, 0x16A60, 0x16AC0,
   0x16B50, 0x1D7CE, 0x1D7D8, 0x1D7E2, 0x1D7EC, 0x1D7F6, 0x1E140, 0x1E2F0, 0x1E950, 0x1FBF0]

/-- The value of a decimal digit of any script. -/
def digitValue? (character : Char) : Option Nat :=
  let code := character.toNat
  (digitZeros.find? fun first => first ≤ code && code ≤ first + 9).map (code - ·)

/-- A decimal digit of any script. -/
def isDigit (character : Char) : Bool := (digitValue? character).isSome

/-- The value of a run of digits, the first one the most significant; other characters count as
zero. -/
def digitsValue (digits : Text) : Nat :=
  digits.foldl (fun value digit => 10 * value + (digitValue? digit).getD 0) 0

/-- The longest run of digits that is read as a number. -/
def digitLimit : Nat := 4300

/-- The number that a run of digits stands for, unless the run is longer than the limit. -/
def number? (digits : Text) : Option Nat :=
  if digits.length ≤ digitLimit then some (digitsValue digits) else none

theorem digitsValue_append_singleton (digits : Text) (digit : Char) :
    digitsValue (digits ++ [digit]) = 10 * digitsValue digits + (digitValue? digit).getD 0 := by
  simp [digitsValue]

end JarAtlas.Text
