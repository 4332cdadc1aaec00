import JarAtlas.Proofs.Json.Strings
import JarAtlas.Proofs.Text.Cuts
import JarAtlas.Proofs.Text.Decimal
import Mathlib.Data.List.TakeDrop

/-!
# Values read back

Every value that is made of texts, truth values and whole numbers comes back from its file form, as
long as no number has too many digits, no object gives a name twice, and lists and objects do not
stand in each other too deep. The fuel of the reader is counted against the length of what is left:
each call but one for a list or an object takes a character of its own.
-/

namespace JarAtlas.Json

open Text

/-! ### Numbers -/

/-- What stands behind a value in a file: nothing, a comma or a line break. -/
def IsBehind (rest : Text) : Prop := ∀ character ∈ rest.head?, character = ',' ∨ character = '\n'

theorem head?_ofNat {number : Nat} (positive : 0 < number) : (ofNat number).head? ≠ some '0' := by
  unfold ofNat
  induction number using Nat.strongRecOn with
  | ind number ih =>
    by_cases small : number < 10
    · have all : ∀ digit < 10, 0 < digit → [Nat.digitChar digit].head? ≠ some '0' := by decide
      rw [Nat.toDigits_of_lt_base small]
      exact all number small positive
    · have front := ih (number / 10) (by omega) (by omega)
      rw [Nat.toDigits_of_base_le (by omega) (by omega), List.head?_append]
      cases starts : (Nat.toDigits 10 (number / 10)).head? with
      | none => simp [Nat.toDigits_ne_nil] at starts
      | some first =>
        rw [starts] at front
        exact front

theorem isDigit_of_mem_ofNat {number : Nat} {character : Char} (member : character ∈ ofNat number) :
    Char.isDigit character = true :=
  of_mem_ofNat (fun character => Char.isDigit character = true) (by decide) member

theorem takeDigits_ofNat {number : Nat} {rest : Text} (behind : IsBehind rest) :
    takeDigits (ofNat number ++ rest) = (ofNat number, rest) := by
  have digits : ∀ character ∈ ofNat number, Char.isDigit character = true := fun _ =>
    isDigit_of_mem_ofNat
  have stops : rest.takeWhile Char.isDigit = [] ∧ rest.dropWhile Char.isDigit = rest := by
    cases rest with
    | nil => exact ⟨rfl, rfl⟩
    | cons character others =>
      rcases behind character rfl with rfl | rfl <;> exact ⟨rfl, rfl⟩
  rw [takeDigits, List.span_eq_takeWhile_dropWhile, List.takeWhile_append_of_pos digits,
    List.dropWhile_append_of_pos digits, stops.1, stops.2, List.append_nil]

theorem readFraction_behind {rest : Text} (behind : IsBehind rest) :
    readFraction rest = ([], rest) := by
  cases rest with
  | nil => rfl
  | cons character others => rcases behind character rfl with rfl | rfl <;> rfl

theorem readPower_behind {rest : Text} (behind : IsBehind rest) :
    readPower rest = (none, rest) := by
  cases rest with
  | nil => rfl
  | cons character others => rcases behind character rfl with rfl | rfl <;> rfl

/-- A whole number is read back. -/
theorem readUnsigned_ofNat (negative : Bool) {number : Nat} {rest : Text}
    (short : (ofNat number).length ≤ digitLimit) (behind : IsBehind rest) :
    readUnsigned negative (ofNat number ++ rest) =
      some (.int (if negative then -(number : Int) else number), rest) := by
  have nonempty : (ofNat number).isEmpty = false := by simp [ofNat_ne_nil]
  have starts : (ofNat number ++ rest).head? = (ofNat number).head? := by
    cases digits : ofNat number with
    | nil => exact absurd digits (ofNat_ne_nil number)
    | cons first others => rfl
  unfold readUnsigned
  split
  rename_i whole others taken
  have cut : whole = ofNat number ∧ others = rest := by
    split at taken
    · rename_i behindZero text
      have zero : number = 0 := by
        by_contra positive
        apply head?_ofNat (Nat.pos_of_ne_zero positive)
        rw [← starts, text]
        rfl
      rw [zero] at text ⊢
      cases taken
      exact ⟨rfl, (List.cons.inj text).2.symm⟩
    · rw [takeDigits_ofNat behind] at taken
      cases taken
      exact ⟨rfl, rfl⟩
  rw [cut.1, cut.2, nonempty, readFraction_behind behind]
  dsimp only
  rw [readPower_behind behind, number?_ofNat short]
  rfl

/-! ### Scalars -/

theorem exists_digit_ofNat (number : Nat) : ∃ digit others, ofNat number = digit :: others ∧
    ∀ other ∈ (['n', 't', 'f', 'N', 'I', '-'] : List Char), other ≠ digit := by
  rcases List.exists_cons_of_ne_nil (ofNat_ne_nil number) with ⟨digit, others, split⟩
  have isDigit : Char.isDigit digit = true :=
    isDigit_of_mem_ofNat (split ▸ List.mem_cons_self : digit ∈ ofNat number)
  have noDigit : ∀ other ∈ (['n', 't', 'f', 'N', 'I', '-'] : List Char),
      Char.isDigit other = false := by
    simp
  refine ⟨digit, others, split, ?_⟩
  rintro other member rfl
  exact Bool.false_ne_true ((noDigit other member).symm.trans isDigit)

theorem readScalar_ofInt {value : Int} {rest : Text}
    (short : (ofNat value.natAbs).length ≤ digitLimit) (behind : IsBehind rest) :
    readScalar (ofInt value ++ rest) = some (.int value, rest) := by
  cases value with
  | ofNat number =>
    have reads := readUnsigned_ofNat false short behind
    rcases exists_digit_ofNat number with ⟨digit, others, split, apart⟩
    simp only [List.mem_cons, List.not_mem_nil, or_false, forall_eq_or_imp, forall_eq] at apart
    change readScalar (ofNat number ++ rest) = _
    rw [Int.natAbs_ofNat', split] at reads
    rw [split]
    have noWord : readScalar (digit :: others ++ rest) =
        readUnsigned false (digit :: others ++ rest) := by
      simp only [readScalar, List.cons_append]
      simp only [String.reduceToList, Char.isValue, after?, apart, ↓reduceIte, Option.map_none,
        Option.isNone_none, List.findSome?_cons_of_isNone, List.findSome?_nil]
      split
      · rename_i same
        exact absurd (List.cons.inj same).1.symm apart.2.2.2.2.2
      · rfl
    rw [noWord, reads]
    rfl
  | negSucc number =>
    have reads := readUnsigned_ofNat true short behind
    rcases exists_digit_ofNat (number + 1) with ⟨digit, others, split, apart⟩
    simp only [List.mem_cons, List.not_mem_nil, or_false, forall_eq_or_imp, forall_eq] at apart
    change readScalar ('-' :: ofNat (number + 1) ++ rest) = _
    rw [Int.natAbs_negSucc, Nat.succ_eq_add_one, split] at reads
    have noWord : readScalar ('-' :: (digit :: others) ++ rest) =
        readUnsigned true (digit :: others ++ rest) := by
      simp [readScalar, after?, apart]
    rw [split, noWord, reads]
    rfl

theorem readScalar_null (rest : Text) : readScalar ("null" ++ rest) = some (.null, rest) := by
  simp [readScalar, after?]

theorem readScalar_true (rest : Text) : readScalar ("true" ++ rest) = some (.bool true, rest) := by
  simp [readScalar, after?]

theorem readScalar_false (rest : Text) :
    readScalar ("false" ++ rest) = some (.bool false, rest) := by
  simp [readScalar, after?]

/-! ### Values -/

mutual

/-- The value comes back from its file form where `depth` lists and objects are open around it. -/
def IsReadable (depth : Nat) : Json → Prop
  | .null => True
  | .bool _ => True
  | .int value => (ofNat value.natAbs).length ≤ digitLimit
  | .real _ => False
  | .string value => ∃ text, value = .text text
  | .list items => depth < nestingLimit ∧ AreReadable (depth + 1) items
  | .object fields =>
    depth < nestingLimit ∧ (fields.map Prod.fst).Nodup ∧ FieldsReadable (depth + 1) fields

def AreReadable (depth : Nat) : List Json → Prop
  | [] => True
  | item :: items => IsReadable depth item ∧ AreReadable depth items

def FieldsReadable (depth : Nat) : List (JsonString × Json) → Prop
  | [] => True
  | (name, value) :: fields =>
    (∃ text, name = .text text) ∧ IsReadable depth value ∧ FieldsReadable depth fields

end

theorem skipSpace_newLine (indent : Nat) (rest : Text) :
    skipSpace (newLine indent ++ rest) = skipSpace rest := by
  have spaces : ∀ character ∈ newLine indent, isSpace character = true := by
    intro character member
    rcases List.mem_cons.mp member with rfl | space
    · rfl
    · rw [List.eq_of_mem_replicate space]
      rfl
  exact List.dropWhile_append_of_pos spaces

theorem skipSpace_cons {first : Char} (visible : isSpace first = false) (others : Text) :
    skipSpace (first :: others) = first :: others :=
  List.dropWhile_cons_of_neg (by simp [visible])

theorem isBehind_newLine (indent : Nat) (rest : Text) : IsBehind (newLine indent ++ rest) := by
  intro character member
  cases member
  exact .inr rfl

theorem isBehind_comma (rest : Text) : IsBehind (',' :: rest) := by
  intro character member
  cases member
  exact .inl rfl

theorem exists_first_ofInt (value : Int) : ∃ first others, ofInt value = first :: others ∧
    (isSpace first = false ∧ first ≠ ']') ∧ first ≠ '"' ∧ first ≠ '[' ∧ first ≠ '\x7b' := by
  cases value with
  | ofNat number =>
    rcases exists_digit_ofNat number with ⟨digit, others, split, -⟩
    have apart := of_mem_ofNat (fun character =>
      (isSpace character = false ∧ character ≠ ']') ∧
        character ≠ '"' ∧ character ≠ '[' ∧ character ≠ '\x7b') (by decide)
      (split ▸ List.mem_cons_self : digit ∈ ofNat number)
    exact ⟨digit, others, split, apart⟩
  | negSucc number => exact ⟨'-', _, rfl, by decide, by decide⟩

/-- A written value begins with no white space and with no closing bracket. -/
theorem exists_first_writeAt {depth : Nat} {value : Json} (readable : IsReadable depth value)
    (indent : Nat) : ∃ first others, writeAt indent value = first :: others ∧
      isSpace first = false ∧ first ≠ ']' := by
  cases value with
  | null => exact ⟨'n', _, rfl, by decide, by decide⟩
  | bool value =>
    cases value with
    | true => exact ⟨'t', _, rfl, by decide, by decide⟩
    | false => exact ⟨'f', _, rfl, by decide, by decide⟩
  | int value =>
    rcases exists_first_ofInt value with ⟨first, others, split, visible, -⟩
    exact ⟨first, others, split, visible⟩
  | real value => exact readable.elim
  | string value =>
    rcases readable with ⟨text, rfl⟩
    exact ⟨'"', _, rfl, by decide, by decide⟩
  | list items => cases items <;> exact ⟨'[', _, rfl, by decide, by decide⟩
  | object fields => cases fields <;> exact ⟨'\x7b', _, rfl, by decide, by decide⟩

theorem exists_first_writeItems {depth : Nat} {item : Json} (items : List Json)
    (readable : IsReadable depth item) (indent : Nat) :
    ∃ first others, writeItems indent (item :: items) = first :: others ∧
      isSpace first = false ∧ first ≠ ']' := by
  rcases exists_first_writeAt readable indent with ⟨first, others, starts, visible⟩
  cases items with
  | nil => exact ⟨first, others, starts, visible⟩
  | cons next items =>
    rw [writeItems, starts]
    · exact ⟨first, _, rfl, visible⟩
    · exact List.cons_ne_nil _ _

theorem exists_writeFields {depth : Nat} {field : JsonString × Json}
    (fields : List (JsonString × Json)) (readable : FieldsReadable depth (field :: fields))
    (indent : Nat) : ∃ others, writeFields indent (field :: fields) = '"' :: others := by
  rcases field with ⟨name, value⟩
  rcases readable.1 with ⟨text, rfl⟩
  cases fields with
  | nil => exact ⟨_, rfl⟩
  | cons next fields => exact ⟨_, rfl⟩

theorem setField_of_not_mem {name : JsonString} {value : Json} {fields : List (JsonString × Json)}
    (absent : name ∉ fields.map Prod.fst) :
    setField name value fields = fields ++ [(name, value)] := by
  induction fields with
  | nil => rfl
  | cons field fields ih =>
    rw [List.map_cons, List.mem_cons, not_or] at absent
    rw [setField, if_neg (Ne.symm absent.1), ih absent.2, List.cons_append]

theorem readValue_of_scalar {value : Json} {first : Char} {others rest : Text} (fuel depth : Nat)
    (apart : first ≠ '"' ∧ first ≠ '[' ∧ first ≠ '\x7b')
    (reads : readScalar (first :: others) = some (value, rest)) :
    readValue (fuel + 1) depth (first :: others) = .ok (value, rest) := by
  rw [readValue, reads]
  · rfl
  · exact fun _ same => absurd (List.cons.inj same).1 apart.1
  · exact fun _ same => absurd (List.cons.inj same).1 apart.2.1
  · exact fun _ same => absurd (List.cons.inj same).1 apart.2.2

theorem readItems_last {item : Json} {source rest behind : Text} {fuel depth : Nat}
    (reads : readValue fuel depth source = .ok (item, rest))
    (closes : skipSpace rest = ']' :: behind) :
    readItems (fuel + 1) depth source = .ok ([item], behind) := by
  rw [readItems, reads]
  dsimp only [bind, Except.bind]
  rw [closes]
  rfl

theorem readItems_more {item : Json} {items : List Json} {source rest behind final : Text}
    {fuel depth : Nat} (reads : readValue fuel depth source = .ok (item, rest))
    (goesOn : skipSpace rest = ',' :: behind)
    (others : readItems fuel depth (skipSpace behind) = .ok (items, final)) :
    readItems (fuel + 1) depth source = .ok (item :: items, final) := by
  rw [readItems, reads]
  dsimp only [bind, Except.bind]
  rw [goesOn]
  simp only [others]
  rfl

/-- A field is read up to what stands behind its value. -/
theorem readFields_eq {name : Text} {value : Json} {source rest : Text} {fuel depth : Nat}
    (before : List (JsonString × Json))
    (reads : readValue fuel depth source = .ok (value, rest))
    (begins : skipSpace source = source) :
    readFields (fuel + 1) depth before (writeString (.text name) ++ ": " ++ source) =
      match skipSpace rest with
      | '\x7d' :: rest => .ok (setField (.text name) value before, rest)
      | ',' :: rest => readFields fuel depth (setField (.text name) value before) (skipSpace rest)
      | _ => .error .malformed := by
  have text : writeString (.text name) ++ ": " ++ source =
      '"' :: (name.flatMap escapeCharacter ++ '"' :: ':' :: ' ' :: source) := by
    simp [writeString]
  have colon : skipSpace (':' :: ' ' :: source) = ':' :: ' ' :: source := rfl
  have blank : skipSpace (' ' :: source) = source := begins
  rw [text, readFields, readString_writeString]
  dsimp only [orMalformed, bind, Except.bind]
  rw [colon]
  simp only [blank, reads]
  rfl

/-- So much fuel is enough to read a value back in front of what may stand behind it. -/
def ReadsValue (fuel : Nat) : Prop :=
  ∀ (value : Json) (indent depth : Nat) (rest : Text), IsReadable depth value →
    2 * (writeAt indent value).length ≤ fuel → IsBehind rest →
    readValue fuel depth (writeAt indent value ++ rest) = .ok (value, rest)

/-- So much fuel is enough to read the items of a list back. -/
def ReadsItems (fuel : Nat) : Prop :=
  ∀ (item : Json) (items : List Json) (indent outer depth : Nat) (rest : Text),
    AreReadable depth (item :: items) → 2 * (writeItems indent (item :: items)).length < fuel →
    readItems fuel depth (writeItems indent (item :: items) ++ (newLine outer ++ ']' :: rest)) =
      .ok (item :: items, rest)

/-- So much fuel is enough to read the fields of an object back, behind those before. -/
def ReadsFields (fuel : Nat) : Prop :=
  ∀ (field : JsonString × Json) (fields before : List (JsonString × Json))
    (indent outer depth : Nat) (rest : Text), FieldsReadable depth (field :: fields) →
    ((before ++ field :: fields).map Prod.fst).Nodup →
    2 * (writeFields indent (field :: fields)).length < fuel →
    readFields fuel depth before
        (writeFields indent (field :: fields) ++ (newLine outer ++ '\x7d' :: rest)) =
      .ok (before ++ field :: fields, rest)

section

variable {fuel : Nat}

theorem readValue_list {indent depth : Nat} {items : List Json} (more : ReadsItems fuel)
    (readable : IsReadable depth (.list items))
    (enough : 2 * (writeAt indent (.list items)).length ≤ fuel + 1) (rest : Text) :
    readValue (fuel + 1) depth (writeAt indent (.list items) ++ rest) = .ok (.list items, rest) := by
  have shallow : ¬nestingLimit ≤ depth := Nat.not_le_of_lt readable.1
  cases items with
  | nil =>
    change readValue _ _ ('[' :: ']' :: rest) = _
    rw [readValue, if_neg shallow, skipSpace_cons (by decide)]
    rfl
  | cons item items =>
    rcases exists_first_writeItems items readable.2.1 (indent + 2)
      with ⟨first, others, starts, visible, open_⟩
    have inner := more item items (indent + 2) indent (depth + 1) rest readable.2 (by
      simp only [writeAt, List.length_append, List.length_cons] at enough
      omega)
    rw [writeAt]
    simp only [List.cons_append, List.append_assoc, List.nil_append]
    rw [starts, List.cons_append] at inner
    rw [readValue, if_neg shallow, skipSpace_newLine, starts, List.cons_append,
      skipSpace_cons visible]
    split
    · rename_i same
      exact absurd (List.cons.inj same).1 open_
    · rw [inner]
      rfl

theorem readValue_object {indent depth : Nat} {fields : List (JsonString × Json)}
    (more : ReadsFields fuel) (readable : IsReadable depth (.object fields))
    (enough : 2 * (writeAt indent (.object fields)).length ≤ fuel + 1) (rest : Text) :
    readValue (fuel + 1) depth (writeAt indent (.object fields) ++ rest) =
      .ok (.object fields, rest) := by
  have shallow : ¬nestingLimit ≤ depth := Nat.not_le_of_lt readable.1
  cases fields with
  | nil =>
    change readValue _ _ ('\x7b' :: '\x7d' :: rest) = _
    rw [readValue, if_neg shallow, skipSpace_cons (by decide)]
    rfl
  | cons field fields =>
    rcases exists_writeFields fields readable.2.2 (indent + 2) with ⟨others, starts⟩
    have inner := more field fields [] (indent + 2) indent (depth + 1) rest readable.2.2
      readable.2.1 (by
        simp only [writeAt, List.length_append, List.length_cons] at enough
        omega)
    rw [writeAt]
    simp only [List.cons_append, List.append_assoc, List.nil_append]
    rw [starts, List.cons_append] at inner
    rw [readValue, if_neg shallow, skipSpace_newLine, starts, List.cons_append,
      skipSpace_cons (by decide)]
    split
    · rename_i same
      exact absurd (List.cons.inj same).1 (by decide)
    · rw [inner]
      rfl

theorem readsValue_succ (items : ReadsItems fuel) (fields : ReadsFields fuel) :
    ReadsValue (fuel + 1) := by
  intro value indent depth rest readable enough behind
  cases value with
  | null => exact readValue_of_scalar fuel depth (by decide) (readScalar_null rest)
  | bool value =>
    cases value with
    | true => exact readValue_of_scalar fuel depth (by decide) (readScalar_true rest)
    | false => exact readValue_of_scalar fuel depth (by decide) (readScalar_false rest)
  | int value =>
    rcases exists_first_ofInt value with ⟨first, others, split, -, apart⟩
    have reads := readScalar_ofInt readable behind
    change readValue _ _ (ofInt value ++ rest) = _
    rw [split] at reads ⊢
    exact readValue_of_scalar fuel depth apart reads
  | real value => exact readable.elim
  | string value =>
    rcases readable with ⟨text, rfl⟩
    change readValue _ _ ('"' :: (text.flatMap escapeCharacter ++ ['"']) ++ rest) = _
    rw [List.cons_append, List.append_assoc, List.singleton_append, readValue,
      readString_writeString]
    rfl
  | list list => exact readValue_list items readable enough rest
  | object object => exact readValue_object fields readable enough rest

theorem readsItems_succ (values : ReadsValue fuel) (others : ReadsItems fuel) :
    ReadsItems (fuel + 1) := by
  intro item items indent outer depth rest readable enough
  cases items with
  | nil =>
    have reads := values item indent depth (newLine outer ++ ']' :: rest) readable.1 (by
      simp only [writeItems] at enough
      omega) (isBehind_newLine _ _)
    exact readItems_last reads (by rw [skipSpace_newLine, skipSpace_cons (by decide)])
  | cons next items =>
    have split : writeItems indent (item :: next :: items) =
        writeAt indent item ++ (',' :: (newLine indent ++ writeItems indent (next :: items))) := by
      rw [writeItems]
      · simp
      · exact List.cons_ne_nil _ _
    rcases exists_first_writeItems items readable.2.1 indent with ⟨first, others', starts, visible, -⟩
    rw [split] at enough ⊢
    simp only [List.length_append, List.length_cons] at enough
    simp only [List.append_assoc, List.cons_append]
    apply readItems_more
    · exact values item indent depth _ readable.1 (by omega) (isBehind_comma _)
    · exact skipSpace_cons (by decide) _
    · have inner := others next items indent outer depth rest readable.2 (by omega)
      rw [skipSpace_newLine]
      rw [starts, List.cons_append] at inner ⊢
      rw [skipSpace_cons visible]
      exact inner

theorem readsFields_succ (values : ReadsValue fuel) (others : ReadsFields fuel) :
    ReadsFields (fuel + 1) := by
  rintro ⟨name, value⟩ fields before indent outer depth rest
    ⟨⟨text, rfl⟩, readableValue, readableFields⟩ distinct enough
  have absent : .text text ∉ before.map Prod.fst := by
    rw [List.map_append, List.nodup_append] at distinct
    intro member
    exact distinct.2.2 _ member _ List.mem_cons_self rfl
  rcases exists_first_writeAt readableValue indent with ⟨first, others', starts, visible, -⟩
  have begins : ∀ behind, skipSpace (writeAt indent value ++ behind) =
      writeAt indent value ++ behind := by
    intro behind
    rw [starts, List.cons_append, skipSpace_cons visible]
  cases fields with
  | nil =>
    have reads := values value indent depth (newLine outer ++ '\x7d' :: rest) readableValue (by
      simp only [writeFields, List.length_append] at enough
      omega) (isBehind_newLine _ _)
    have closes : skipSpace (newLine outer ++ '\x7d' :: rest) = '\x7d' :: rest := by
      rw [skipSpace_newLine, skipSpace_cons (by decide)]
    rw [writeFields, List.append_assoc, readFields_eq before reads (begins _), closes,
      setField_of_not_mem absent]
    rfl
  | cons next fields =>
    have split : writeFields indent ((.text text, value) :: next :: fields) =
        writeString (.text text) ++ ": " ++ (writeAt indent value ++
          (',' :: (newLine indent ++ writeFields indent (next :: fields)))) := by
      rw [writeFields]
      · simp
      · exact List.cons_ne_nil _ _
    have whole : writeFields indent ((.text text, value) :: next :: fields) ++
        (newLine outer ++ '\x7d' :: rest) =
        writeString (.text text) ++ ": " ++ (writeAt indent value ++
          (',' :: (newLine indent ++ (writeFields indent (next :: fields) ++
            (newLine outer ++ '\x7d' :: rest))))) := by
      rw [split]
      simp
    rw [split] at enough
    simp only [List.length_append, List.length_cons] at enough
    have reads := values value indent depth
      (',' :: (newLine indent ++ (writeFields indent (next :: fields) ++
        (newLine outer ++ '\x7d' :: rest)))) readableValue (by omega) (isBehind_comma _)
    have inner := others next fields (before ++ [(.text text, value)]) indent outer depth rest
      readableFields (by simpa using distinct) (by omega)
    rcases exists_writeFields fields readableFields indent with ⟨more, startsFields⟩
    rw [whole, readFields_eq before reads (begins _), skipSpace_cons (by decide),
      setField_of_not_mem absent]
    change readFields fuel depth _ (skipSpace _) = _
    rw [skipSpace_newLine]
    rw [startsFields, List.cons_append] at inner ⊢
    rw [skipSpace_cons (by decide), inner]
    simp

end

/-- A part of a text is read back with twice as much fuel as it has characters. -/
theorem readsBack (fuel : Nat) : ReadsValue fuel ∧ ReadsItems fuel ∧ ReadsFields fuel := by
  induction fuel with
  | zero =>
    refine ⟨?_, ?_, ?_⟩
    · intro value indent depth rest readable enough
      rcases exists_first_writeAt readable indent with ⟨first, others, starts, -⟩
      simp [starts] at enough
    · intro item items indent outer depth rest _ enough
      omega
    · intro field fields before indent outer depth rest _ _ enough
      omega
  | succ fuel ih =>
    rcases ih with ⟨values, items, fields⟩
    exact ⟨readsValue_succ items fields, readsItems_succ values items,
      readsFields_succ values fields⟩

/-- A written value is read back. -/
theorem read_write {value : Json} (readable : IsReadable 0 value) :
    read value.write = .ok value := by
  rcases exists_first_writeAt readable 0 with ⟨first, others, starts, visible, -⟩
  have noSpace : skipSpace value.write = value.write := by
    rw [write, starts, skipSpace, List.dropWhile_cons_of_neg (by simp [visible])]
  have reads : readValue (2 * value.write.length + 2) 0 (value.write ++ []) = .ok (value, []) :=
    (readsBack _).1 value 0 0 [] readable (by rw [write]; omega) (by simp [IsBehind])
  rw [List.append_nil] at reads
  rw [read, noSpace, reads]
  rfl

end JarAtlas.Json
