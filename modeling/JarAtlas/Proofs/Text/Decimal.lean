import JarAtlas.Text.Digits
import Mathlib.Tactic.Common

/-!
# Decimal forms

The decimal form of a number is a run of digits that stands for the number.
-/

namespace JarAtlas.Text

theorem digitValue?_digitChar {digit : Nat} (small : digit < 10) :
    digitValue? digit.digitChar = some digit := by
  have all : ∀ digit < 10, digitValue? (Nat.digitChar digit) = some digit := by decide
  exact all digit small

theorem digitsValue_ofNat (number : Nat) : digitsValue (ofNat number) = number := by
  unfold ofNat
  induction number using Nat.strongRecOn with
  | ind number ih =>
    by_cases small : number < 10
    · rw [Nat.toDigits_of_lt_base small]
      simp [digitsValue, digitValue?_digitChar small]
    · have rest := ih (number / 10) (by omega)
      have last : number % 10 < 10 := Nat.mod_lt _ (by omega)
      rw [Nat.toDigits_of_base_le (by omega) (by omega), digitsValue_append_singleton, rest,
        digitValue?_digitChar last, Option.getD_some]
      omega

/-- What holds of the ten digits holds of every character of a decimal form. -/
theorem of_mem_ofNat (holds : Char → Prop) (checked : ∀ digit < 10, holds (Nat.digitChar digit))
    {number : Nat} {character : Char} (member : character ∈ ofNat number) : holds character := by
  unfold ofNat at member
  induction number using Nat.strongRecOn with
  | ind number ih =>
    by_cases small : number < 10
    · rw [Nat.toDigits_of_lt_base small, List.mem_singleton] at member
      rw [member]
      exact checked number small
    · rw [Nat.toDigits_of_base_le (by omega) (by omega), List.mem_append,
        List.mem_singleton] at member
      rcases member with front | rfl
      · exact ih (number / 10) (by omega) front
      · exact checked _ (Nat.mod_lt _ (by omega))

theorem isDigit_of_mem_ofNat {number : Nat} {character : Char}
    (member : character ∈ ofNat number) : isDigit character = true :=
  of_mem_ofNat (fun character => isDigit character = true) (by decide) member

theorem ofNat_ne_nil (number : Nat) : ofNat number ≠ [] := Nat.toDigits_ne_nil

/-- The decimal form is read back as the number. -/
theorem number?_ofNat {number : Nat} (short : (ofNat number).length ≤ digitLimit) :
    number? (ofNat number) = some number := by
  rw [number?, if_pos short, digitsValue_ofNat]

end JarAtlas.Text
