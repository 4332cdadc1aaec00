import JarAtlas.Json.Reader
import JarAtlas.Json.Writer
import JarAtlas.Proofs.Text.Utf8

/-!
# Strings read back

A written string is ASCII, yet every text comes back from it: each character is written as itself,
as a short escape, or as one or two escaped units, and the two units of a character beyond the first
plane are joined again to that character.
-/

namespace JarAtlas.Json

theorem hexadecimalDigit?_digitChar {digit : Nat} (small : digit < 16) :
    hexadecimalDigit? digit.digitChar = some digit := by
  have all : ∀ digit < 16, hexadecimalDigit? (Nat.digitChar digit) = some digit := by decide
  exact all digit small

theorem hexadecimal_four (unit : Nat) : Text.hexadecimal 4 unit =
    [Nat.digitChar (unit / 4096 % 16), Nat.digitChar (unit / 256 % 16),
      Nat.digitChar (unit / 16 % 16), Nat.digitChar (unit % 16)] := by
  simp [Text.hexadecimal, List.range_succ]

/-- An escaped unit is read as the unit. -/
theorem readUnits_escapeUnit {unit : Nat} (small : unit < 0x10000) (rest : Text) :
    readUnits (escapeUnit unit ++ rest) =
      (readUnits rest).map fun (units, behind) => (unit :: units, behind) := by
  have first := hexadecimalDigit?_digitChar (Nat.mod_lt (unit / 4096) (by omega : 0 < 16))
  have second := hexadecimalDigit?_digitChar (Nat.mod_lt (unit / 256) (by omega : 0 < 16))
  have third := hexadecimalDigit?_digitChar (Nat.mod_lt (unit / 16) (by omega : 0 < 16))
  have fourth := hexadecimalDigit?_digitChar (Nat.mod_lt unit (by omega : 0 < 16))
  have value : ((unit / 4096 % 16 * 16 + unit / 256 % 16) * 16 + unit / 16 % 16) * 16 + unit % 16 =
      unit := by
    omega
  rw [escapeUnit, hexadecimal_four]
  change readUnits ('\\' :: 'u' :: _ :: _ :: _ :: _ :: rest) = _
  rw [readUnits, unit?, first, second, third, fourth]
  simp only [Option.bind_eq_bind, Option.bind_some, Option.pure_def, value]
  cases readUnits rest <;> rfl

/-- A short escape is read as what it stands for. -/
theorem readUnits_shortEscape {letter : Char} {code : Nat} (stands : shortEscape? letter = some code)
    (rest : Text) : readUnits ('\\' :: letter :: rest) =
      (readUnits rest).map fun (units, behind) => (code :: units, behind) := by
  have noUnit : letter ≠ 'u' := by
    rintro rfl
    have none : shortEscape? 'u' = none := by decide
    rw [none] at stands
    contradiction
  rw [readUnits, stands]
  · cases readUnits rest <;> rfl
  · intro first second third fourth others same _
    exact noUnit same

/-- A character that is no escape and no control character is read as itself. -/
theorem readUnits_plain {character : Char} (notQuote : character ≠ '"') (notBackslash : character ≠ '\\')
    (visible : 0x20 ≤ character.toNat) (rest : Text) : readUnits (character :: rest) =
      (readUnits rest).map fun (units, behind) => (character.toNat :: units, behind) := by
  rw [readUnits, if_neg (by omega)]
  · exact notQuote
  · intro first second third fourth others same _
    exact notBackslash same
  · intro first others same _
    exact notBackslash same

/-- The 16-bit units of a character. -/
def unitsOf (character : Char) : List Nat :=
  let code := character.toNat
  if code < 0x10000 then [code]
  else [0xD800 + (code - 0x10000) / 0x400, 0xDC00 + (code - 0x10000) % 0x400]

/-- No character is one half of a surrogate pair. -/
theorem isSurrogate_toNat (character : Char) : JsonString.isSurrogate character.toNat = false := by
  have valid := Text.isValidChar_toNat character
  simp only [JsonString.isSurrogate, Bool.and_eq_false_iff, decide_eq_false_iff_not]
  omega

theorem readUnits_escapeCharacter (character : Char) (rest : Text) :
    readUnits (escapeCharacter character ++ rest) =
      (readUnits rest).map fun (units, behind) => (unitsOf character ++ units, behind) := by
  have valid := Text.isValidChar_toNat character
  have single : character.toNat < 0x10000 → unitsOf character = [character.toNat] := by
    intro small
    simp [unitsOf, small]
  have short : ∀ letter code, shortEscape? letter = some code → character.toNat = code →
      code < 0x10000 →
      readUnits ('\\' :: letter :: rest) =
        (readUnits rest).map fun (units, behind) => (unitsOf character ++ units, behind) := by
    intro letter code stands same small
    rw [readUnits_shortEscape stands, single (by omega), same]
    rfl
  unfold escapeCharacter
  dsimp only
  split_ifs with quoted printable newline return_ tab backspace feed small
  · rcases quoted with rfl | rfl
    · exact short '"' 0x22 rfl rfl (by omega)
    · exact short '\\' 0x5C rfl rfl (by omega)
  · rw [not_or] at quoted
    rw [single (by omega)]
    exact readUnits_plain quoted.1 quoted.2 printable.1 rest
  · exact short 'n' 0x0A rfl (by rw [newline]; rfl) (by omega)
  · exact short 'r' 0x0D rfl (by rw [return_]; rfl) (by omega)
  · exact short 't' 0x09 rfl (by rw [tab]; rfl) (by omega)
  · exact short 'b' 0x08 rfl backspace (by omega)
  · exact short 'f' 0x0C rfl feed (by omega)
  · rw [readUnits_escapeUnit small, single small]
    rfl
  · rw [List.append_assoc, readUnits_escapeUnit (by omega), readUnits_escapeUnit (by omega),
      Option.map_map, unitsOf, if_neg small]
    rfl

theorem readUnits_flatMap (value rest : Text) :
    readUnits (value.flatMap escapeCharacter ++ '"' :: rest) =
      some (value.flatMap unitsOf, rest) := by
  induction value with
  | nil => rfl
  | cons character value ih =>
    rw [List.flatMap_cons, List.append_assoc, readUnits_escapeCharacter, ih]
    rfl

/-- The units of a text are joined to its characters. -/
theorem joinUnits_unitsOf (value : Text) :
    joinUnits (value.flatMap unitsOf) = value.map Char.toNat := by
  induction value with
  | nil => rfl
  | cons character value ih =>
    have valid := Text.isValidChar_toNat character
    rw [List.flatMap_cons, List.map_cons, ← ih, unitsOf]
    split_ifs with small
    · cases rest : value.flatMap unitsOf with
      | nil => simp [joinUnits]
      | cons unit others =>
        rw [List.singleton_append, joinUnits, if_neg (by omega)]
    · have joined : 0x10000 + (0xD800 + (character.toNat - 0x10000) / 0x400 - 0xD800) * 0x400 +
          (0xDC00 + (character.toNat - 0x10000) % 0x400 - 0xDC00) = character.toNat := by
        omega
      rw [List.cons_append, List.singleton_append, joinUnits, if_pos (by omega), joined]

theorem ofCodes_toNat (value : Text) : JsonString.ofCodes (value.map Char.toNat) = .text value := by
  have plain : (value.map Char.toNat).any JsonString.isSurrogate = false := by
    rw [List.any_map, List.any_eq_false]
    intro character _
    rw [Function.comp_apply, isSurrogate_toNat]
    exact Bool.false_ne_true
  have same : (value.map Char.toNat).map Char.ofNat = value := by
    rw [List.map_map]
    exact List.map_id'' (fun character => Char.ofNat_toNat character) value
  rw [JsonString.ofCodes, plain, same]
  rfl

/-- A written text is read back. -/
theorem readString_writeString (value rest : Text) :
    readString (value.flatMap escapeCharacter ++ '"' :: rest) = some (.text value, rest) := by
  rw [readString, readUnits_flatMap, Option.map_some]
  dsimp only
  rw [joinUnits_unitsOf, ofCodes_toNat]

end JarAtlas.Json
