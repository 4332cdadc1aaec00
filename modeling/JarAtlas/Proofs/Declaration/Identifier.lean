import JarAtlas.Declaration.Parser
import JarAtlas.Proofs.Text.Cuts
import JarAtlas.Text.Digits

/-!
# Identifiers

No blank and no punctuation stands in an identifier, so the cuts at such characters pass identifiers
over, and cuts at characters other than dots pass qualified names over.
-/

namespace JarAtlas

namespace Text

/-- The codes of all blanks. -/
def blankCodes : List Nat :=
  [0x09, 0x0A, 0x0B, 0x0C, 0x0D, 0x1C, 0x1D, 0x1E, 0x1F, 0x20, 0x85, 0xA0, 0x1680, 0x2000, 0x2001,
    0x2002, 0x2003, 0x2004, 0x2005, 0x2006, 0x2007, 0x2008, 0x2009, 0x200A, 0x2028, 0x2029, 0x202F,
    0x205F, 0x3000]

theorem toNat_mem_blankCodes {character : Char} (blank : isBlank character = true) :
    character.toNat ∈ blankCodes := by
  simp only [isBlank, Bool.or_eq_true, Bool.and_eq_true, decide_eq_true_eq, beq_iff_eq] at blank
  simp only [blankCodes, List.mem_cons, List.not_mem_nil, or_false]
  omega

/-- What holds of every blank can be checked code by code. -/
theorem of_isBlank (holds : Char → Prop) (checked : ∀ code ∈ blankCodes, holds (Char.ofNat code))
    {character : Char} (blank : isBlank character = true) : holds character := by
  have found := checked _ (toNat_mem_blankCodes blank)
  rwa [Char.ofNat_toNat] at found

theorem isDigit_eq_false_of_isBlank {character : Char} (blank : isBlank character = true) :
    isDigit character = false :=
  of_isBlank (fun character => isDigit character = false) (by decide) blank

theorem isBlank_eq_false_of_isDigit {character : Char} (digital : isDigit character = true) :
    isBlank character = false := by
  rw [Bool.eq_false_iff]
  intro blank
  rw [isDigit_eq_false_of_isBlank blank] at digital
  contradiction

theorem exists_first_of_isDigit {character : Char} (digital : isDigit character = true) :
    ∃ first ∈ digitZeros, first ≤ character.toNat ∧ character.toNat ≤ first + 9 := by
  rcases Option.isSome_iff_exists.mp digital with ⟨value, known⟩
  rcases Option.map_eq_some_iff.mp known with ⟨first, found, -⟩
  have within := List.find?_some found
  rw [Bool.and_eq_true, decide_eq_true_eq, decide_eq_true_eq] at within
  exact ⟨first, List.mem_of_find?_eq_some found, within⟩

/-- No range of letters meets the ten digits of a script. -/
theorem digits_apart_letterRanges : (letterRanges.all fun range => digitZeros.all fun first =>
    Nat.blt (first + 9) range.1 || Nat.blt range.2 first) = true := by
  decide +kernel

/-- No digit is a letter. -/
theorem isLetter_eq_false_of_isDigit {character : Char} (digital : isDigit character = true) :
    isLetter character = false := by
  rcases exists_first_of_isDigit digital with ⟨first, isZero, least, most⟩
  have noRange : inRanges letterRanges character.toNat = false := by
    rw [inRanges, List.any_eq_false]
    intro range member within
    have apart := List.all_eq_true.mp (List.all_eq_true.mp digits_apart_letterRanges range member)
      first isZero
    simp only [Bool.or_eq_true, Nat.blt_eq] at apart
    simp only [Bool.and_eq_true, decide_eq_true_eq] at within
    omega
  have noAscii : character.isAlpha = false := by
    rw [Bool.eq_false_iff]
    intro letter
    have noZero : ∀ other ∈ digitZeros, other = 0x30 ∨ 0x7B ≤ other := by decide
    have known := noZero first isZero
    delta Char.isAlpha Char.isUpper Char.isLower at letter
    simp only [Bool.or_eq_true, Bool.and_eq_true, decide_eq_true_eq, ge_iff_le,
      UInt32.le_iff_toNat_le] at letter
    change 65 ≤ character.toNat ∧ character.toNat ≤ 90 ∨
      97 ≤ character.toNat ∧ character.toNat ≤ 122 at letter
    omega
  rw [isLetter, noAscii, noRange]
  simp

end Text

namespace Declaration

theorem isIdentifierPart_eq_false_of_isBlank {character : Char}
    (blank : Text.isBlank character = true) : isIdentifierPart character = false :=
  Text.of_isBlank (fun character => isIdentifierPart character = false) (by decide +kernel) blank

theorem isBlank_eq_false_of_isIdentifierPart {character : Char}
    (part : isIdentifierPart character = true) : Text.isBlank character = false := by
  by_contra blank
  rw [Bool.not_eq_false] at blank
  rw [isIdentifierPart_eq_false_of_isBlank blank] at part
  contradiction

theorem isIdentifierPart_of_isIdentifierStart {character : Char}
    (start : isIdentifierStart character = true) : isIdentifierPart character = true := by
  simp only [isIdentifierStart, Bool.or_eq_true, beq_iff_eq] at start
  rcases start with (letter | rfl) | rfl
  · simp [isIdentifierPart, Text.isWord, Text.isLetter, letter]
  · decide
  · decide

theorem isIdentifierPart_of_mem {name : Text} {character : Char}
    (whole : isIdentifier name = true) (member : character ∈ name) :
    isIdentifierPart character = true := by
  cases name with
  | nil => contradiction
  | cons first others =>
    simp only [isIdentifier, Bool.and_eq_true, List.all_eq_true] at whole
    rcases List.mem_cons.mp member with rfl | inOthers
    · exact isIdentifierPart_of_isIdentifierStart whole.1
    · exact whole.2 character inOthers

/-- A character that no identifier goes on with stands in none. -/
theorem not_mem_of_isIdentifier {name : Text} {character : Char} (whole : isIdentifier name = true)
    (foreign : isIdentifierPart character = false) : character ∉ name := by
  intro member
  rw [isIdentifierPart_of_mem whole member] at foreign
  contradiction

theorem ne_nil_of_isIdentifier {name : Text} (whole : isIdentifier name = true) : name ≠ [] := by
  rintro rfl
  contradiction

/-! ### Qualified names -/

variable {path : List Text}

theorem exists_start_join_path (nonempty : path ≠ [])
    (names : ∀ name ∈ path, isIdentifier name = true) :
    ∃ first ∈ (Text.join "." path).head?, isIdentifierStart first = true := by
  rcases List.exists_cons_of_ne_nil nonempty with ⟨name, others, rfl⟩
  have whole := names name List.mem_cons_self
  rcases Text.prefix_join "." name others with ⟨behind, joined⟩
  rw [← joined]
  cases name with
  | nil => contradiction
  | cons first name =>
    rw [isIdentifier, Bool.and_eq_true] at whole
    exact ⟨first, rfl, whole.1⟩

theorem join_path_ne_nil (nonempty : path ≠ []) (names : ∀ name ∈ path, isIdentifier name = true) :
    Text.join "." path ≠ [] := by
  rcases exists_start_join_path nonempty names with ⟨first, head, -⟩
  intro empty
  rw [empty] at head
  contradiction

/-- A qualified name holds only characters of identifiers and dots. -/
theorem not_mem_join_path {character : Char} (names : ∀ name ∈ path, isIdentifier name = true)
    (foreign : isIdentifierPart character = false) (notDot : character ≠ '.') :
    character ∉ Text.join "." path := by
  intro member
  rcases Text.mem_of_mem_join member with between | ⟨name, isName, found⟩
  · exact notDot (List.mem_singleton.mp between)
  · exact not_mem_of_isIdentifier (names name isName) foreign found

theorem isBlank_eq_false_of_mem_join_path {character : Char}
    (names : ∀ name ∈ path, isIdentifier name = true) (member : character ∈ Text.join "." path) :
    Text.isBlank character = false := by
  by_contra blank
  rw [Bool.not_eq_false] at blank
  refine not_mem_join_path names ?_ ?_ member
  · exact isIdentifierPart_eq_false_of_isBlank blank
  · rintro rfl
    exact absurd blank (by decide)

end Declaration

end JarAtlas
