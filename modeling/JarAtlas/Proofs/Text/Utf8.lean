import JarAtlas.Text.Utf8
import Mathlib.Data.List.Infix
import Mathlib.Tactic.Common

/-!
# What bytes stand for

A text is encoded character by character. Bytes that encode no text are still read in exactly one
way: a part that no character begins with is as long as it can be while some character begins with
it, and at least one byte, and it is read as one replacement character. This is how the Unicode
standard replaces maximal subparts of malformed text.

The decoder never looks ahead. Between two bytes of a character it remembers which bytes may follow,
and these are exactly the ones with which some character goes on.
-/

namespace JarAtlas.Text

open String (utf8EncodeChar utf8EncodeChar_ne_nil)

/-- The bytes of a text. -/
def encode (text : Text) : List UInt8 := text.flatMap utf8EncodeChar

/-- The bytes of some character begin with the part. -/
def Begins (part : List UInt8) : Prop := ∃ character, part <+: utf8EncodeChar character

/-- A malformed part in front of other bytes. No character stands there, and the part is the longest
with which a character begins, or a single byte. -/
structure IsMalformed (part behind : List UInt8) : Prop where
  nonempty : part ≠ []
  unreadable : ∀ character, ¬ utf8EncodeChar character <+: part ++ behind
  begun : part.length = 1 ∨ Begins part
  longest : ∀ longer, longer <+: part ++ behind → Begins longer → longer.length ≤ part.length

/-- What the first bytes show, and the bytes behind them. -/
inductive FirstPart (bytes : List UInt8) : Char → List UInt8 → Prop
  | character {character : Char} {rest : List UInt8}
      (whole : bytes = utf8EncodeChar character ++ rest) : FirstPart bytes character rest
  | malformed {part rest : List UInt8} (whole : bytes = part ++ rest)
      (isMalformed : IsMalformed part rest) : FirstPart bytes replacement rest

/-- The bytes stand for the text. -/
inductive StandsFor : List UInt8 → Text → Prop
  | nil : StandsFor [] []
  | cons {bytes rest : List UInt8} {character : Char} {text : Text}
      (first : FirstPart bytes character rest) (others : StandsFor rest text) :
      StandsFor bytes (character :: text)

/-! ### Characters -/

/-- The bytes are those of the character with the code. -/
def Spells (code : Nat) : List UInt8 → Prop
  | [lead] => code ≤ 0x7F ∧ lead.toNat = code
  | [lead, second] =>
    0x7F < code ∧ code ≤ 0x7FF ∧ lead.toNat = 0xC0 + code / 64 ∧ second.toNat = 0x80 + code % 64
  | [lead, second, third] =>
    0x7FF < code ∧ code ≤ 0xFFFF ∧ lead.toNat = 0xE0 + code / 4096 ∧
      second.toNat = 0x80 + code / 64 % 64 ∧ third.toNat = 0x80 + code % 64
  | [lead, second, third, fourth] =>
    0xFFFF < code ∧ lead.toNat = 0xF0 + code / 262144 ∧ second.toNat = 0x80 + code / 4096 % 64 ∧
      third.toNat = 0x80 + code / 64 % 64 ∧ fourth.toNat = 0x80 + code % 64
  | _ => False

theorem isValidChar_toNat (character : Char) :
    character.toNat < 0xD800 ∨ 0xDFFF < character.toNat ∧ character.toNat < 0x110000 :=
  character.valid

theorem utf8EncodeChar_eq_iff {character : Char} {bytes : List UInt8} :
    utf8EncodeChar character = bytes ↔ Spells character.toNat bytes := by
  have valid := isValidChar_toNat character
  have sameCode : character.val.toNat = character.toNat := rfl
  simp only [utf8EncodeChar, sameCode]
  generalize character.toNat = code at valid
  rcases bytes with _ | ⟨lead, _ | ⟨second, _ | ⟨third, _ | ⟨fourth, _ | ⟨fifth, others⟩⟩⟩⟩⟩
  all_goals
    simp only [Spells]
    split_ifs
  all_goals simp [← UInt8.toNat_inj]
  all_goals omega

theorem ofNat_eq_iff {character : Char} {code : Nat}
    (valid : code < 0xD800 ∨ 0xDFFF < code ∧ code < 0x110000) :
    character = Char.ofNat code ↔ character.toNat = code := by
  have isValid : code.isValidChar := valid
  constructor
  · rintro rfl
    have isCharacter : Char.ofNat code = Char.ofNatAux code isValid := dif_pos isValid
    rw [isCharacter]
    rfl
  · rintro rfl
    exact (Char.ofNat_toNat character).symm

/-- The first character of bytes is told by the bytes. -/
theorem eq_of_utf8EncodeChar_append {first second : Char} {rest others : List UInt8}
    (same : utf8EncodeChar first ++ rest = utf8EncodeChar second ++ others) : first = second := by
  have decoded := congrArg (fun bytes => bytes.toByteArray.utf8DecodeChar? 0) same
  simpa [List.toByteArray_append, ByteArray.utf8DecodeChar?_utf8EncodeChar_append] using decoded

/-! ### Open characters -/

namespace OpenCharacter

/-- The open character may go on with the byte. -/
def Admits (unfinished : OpenCharacter) (byte : UInt8) : Prop :=
  unfinished.low ≤ byte.toNat ∧ byte.toNat ≤ unfinished.high

instance (unfinished : OpenCharacter) (byte : UInt8) : Decidable (unfinished.Admits byte) :=
  inferInstanceAs (Decidable (_ ∧ _))

/-- The bits behind one more byte. -/
def bitsBehind (unfinished : OpenCharacter) (byte : UInt8) : Nat :=
  64 * unfinished.bits + (byte.toNat - 0x80)

/-- The open character behind one more byte. -/
def next (unfinished : OpenCharacter) (byte : UInt8) : OpenCharacter :=
  ⟨unfinished.owed - 1, 0x80, 0xBF, unfinished.bitsBehind byte⟩

/-- The bytes make the open character a whole one. -/
def Completes : OpenCharacter → List UInt8 → Char → Prop
  | _, [], _ => False
  | unfinished, byte :: bytes, character =>
    unfinished.Admits byte ∧
      if unfinished.owed ≤ 1 then bytes = [] ∧ character = Char.ofNat (unfinished.bitsBehind byte)
      else (unfinished.next byte).Completes bytes character

end OpenCharacter

/-- Behind the bytes in front the character is open: it goes on with some byte, and with the bytes
that complete it, it is a whole one. -/
structure Awaits (front : List UInt8) (unfinished : OpenCharacter) : Prop where
  nonempty : front ≠ []
  goesOn : unfinished.low ≤ unfinished.high
  isByte : unfinished.high < 256
  completes_iff : ∀ bytes character,
    utf8EncodeChar character = front ++ bytes ↔ unfinished.Completes bytes character

theorem OpenCharacter.exists_completes (unfinished : OpenCharacter)
    (goesOn : unfinished.low ≤ unfinished.high) (isByte : unfinished.high < 256) :
    ∃ bytes character, unfinished.Completes bytes character := by
  have admits : unfinished.Admits (UInt8.ofNat unfinished.low) := by
    simp only [Admits, UInt8.toNat_ofNat']
    omega
  induction owed : unfinished.owed generalizing unfinished with
  | zero => exact ⟨[UInt8.ofNat unfinished.low], _, admits, by rw [if_pos (by omega)]; exact ⟨rfl, rfl⟩⟩
  | succ more ih =>
    by_cases last : unfinished.owed ≤ 1
    · exact ⟨[UInt8.ofNat unfinished.low], _, admits, by rw [if_pos last]; exact ⟨rfl, rfl⟩⟩
    · rcases ih (unfinished.next (UInt8.ofNat unfinished.low)) (by simp [next]) (by simp [next])
        (by simp [next, Admits]) (by simp [next, owed]) with ⟨bytes, character, completes⟩
      exact ⟨UInt8.ofNat unfinished.low :: bytes, character, admits, by rwa [if_neg last]⟩

section

variable {unfinished : OpenCharacter} {byte : UInt8}

theorem decodeFrom_cons (unfinished : Option OpenCharacter) (byte : UInt8) (bytes : List UInt8) :
    decodeFrom unfinished (byte :: bytes) =
      (readByte unfinished byte.toNat).1 ++ decodeFrom (readByte unfinished byte.toNat).2 bytes := by
  cases unfinished <;> rfl

theorem readByte_of_last (admits : unfinished.Admits byte) (last : unfinished.owed ≤ 1) :
    readByte (some unfinished) byte.toNat =
      ([Char.ofNat (unfinished.bitsBehind byte)], none) := by
  rw [readByte]
  exact (if_pos admits).trans (if_pos last)

theorem readByte_of_admits (admits : unfinished.Admits byte) (more : ¬ unfinished.owed ≤ 1) :
    readByte (some unfinished) byte.toNat = ([], some (unfinished.next byte)) := by
  rw [readByte]
  exact (if_pos admits).trans (if_neg more)

theorem readByte_of_not_admits (stops : ¬ unfinished.Admits byte) :
    readByte (some unfinished) byte.toNat =
      (replacement :: (leadByte byte.toNat).1, (leadByte byte.toNat).2) := by
  rw [readByte]
  exact if_neg stops

end

namespace Awaits

variable {front behind bytes : List UInt8} {byte : UInt8} {unfinished : OpenCharacter}

theorem begins (awaits : Awaits front unfinished) : Begins front := by
  rcases unfinished.exists_completes awaits.goesOn awaits.isByte with ⟨bytes, character, completes⟩
  exact ⟨character, bytes, ((awaits.completes_iff _ _).mpr completes).symm⟩

theorem admits (awaits : Awaits front unfinished) (begins : Begins (front ++ byte :: bytes)) :
    unfinished.Admits byte := by
  rcases begins with ⟨character, rest, whole⟩
  rw [List.append_assoc] at whole
  exact ((awaits.completes_iff _ _).mp whole.symm).1

theorem next (awaits : Awaits front unfinished) (admits : unfinished.Admits byte)
    (more : ¬ unfinished.owed ≤ 1) : Awaits (front ++ [byte]) (unfinished.next byte) where
  nonempty := by simp
  goesOn := by simp [OpenCharacter.next]
  isByte := by simp [OpenCharacter.next]
  completes_iff := by
    intro bytes character
    rw [List.append_assoc, List.singleton_append, awaits.completes_iff]
    simp [OpenCharacter.Completes, admits, more]

/-- No character is whole in the bytes in front. -/
theorem not_prefix (awaits : Awaits front unfinished) (character : Char) :
    ¬ utf8EncodeChar character <+: front := by
  rintro ⟨rest, whole⟩
  rcases awaits.begins with ⟨other, bytes, longer⟩
  have same : character = other := by
    have sameBytes : utf8EncodeChar character ++ (rest ++ bytes) = utf8EncodeChar other ++ [] := by
      rw [← List.append_assoc, whole, longer, List.append_nil]
    exact eq_of_utf8EncodeChar_append sameBytes
  have isFront : utf8EncodeChar character = front ++ [] := by
    have lengths := congrArg List.length whole
    have otherLengths := congrArg List.length longer
    rw [← same] at otherLengths
    rw [List.length_append] at lengths otherLengths
    have nothing : rest = [] := List.length_eq_zero_iff.mp (by omega)
    rw [← whole, nothing, List.append_nil, List.append_nil]
  exact (awaits.completes_iff [] character).mp isFront

/-- Where the open character does not go on, the bytes in front are malformed. -/
theorem isMalformed (awaits : Awaits front unfinished)
    (stops : ∀ byte ∈ behind.head?, ¬ unfinished.Admits byte) : IsMalformed front behind := by
  have notBegun : ∀ longer, longer <+: front ++ behind → Begins longer →
      longer.length ≤ front.length := by
    intro longer isPrefix begins
    by_contra isLonger
    have inFront : front <+: longer :=
      List.prefix_of_prefix_length_le (List.prefix_append front behind) isPrefix (by omega)
    rcases inFront with ⟨more, rfl⟩
    cases more with
    | nil => simp at isLonger
    | cons byte more =>
      rw [List.prefix_append_right_inj] at isPrefix
      rcases isPrefix with ⟨rest, rfl⟩
      exact stops byte rfl (awaits.admits begins)
  refine ⟨awaits.nonempty, ?_, .inr awaits.begins, notBegun⟩
  intro character isPrefix
  have short := notBegun _ isPrefix ⟨character, List.prefix_rfl⟩
  exact awaits.not_prefix character
    (List.prefix_of_prefix_length_le isPrefix (List.prefix_append front behind) short)

/-- The decoder reads a part to its end. -/
theorem exists_firstPart (awaits : Awaits front unfinished) :
    ∃ character rest, FirstPart (front ++ bytes) character rest ∧
      decodeFrom (some unfinished) bytes = character :: decode rest := by
  induction bytes generalizing front unfinished with
  | nil => exact ⟨replacement, [], .malformed rfl (awaits.isMalformed (by simp)), rfl⟩
  | cons byte bytes ih =>
    by_cases admits : unfinished.Admits byte
    · by_cases last : unfinished.owed ≤ 1
      · refine ⟨Char.ofNat (unfinished.bitsBehind byte), bytes, .character ?_, ?_⟩
        · have whole := (awaits.completes_iff [byte] (Char.ofNat (unfinished.bitsBehind byte))).mpr
            ⟨admits, by simp [last]⟩
          rw [whole, List.append_assoc, List.singleton_append]
        · rw [decodeFrom_cons, readByte_of_last admits last]
          rfl
      · rcases ih (awaits.next admits last) with ⟨character, rest, first, shown⟩
        refine ⟨character, rest, by simpa using first, ?_⟩
        rw [← shown, decodeFrom_cons, readByte_of_admits admits last]
        rfl
    · refine ⟨replacement, byte :: bytes, .malformed rfl (awaits.isMalformed ?_), ?_⟩
      · simpa using admits
      · rw [decodeFrom_cons, readByte_of_not_admits admits, decode, decodeFrom_cons]
        rfl

end Awaits

/-! ### First bytes -/

section

variable {lead : UInt8} {low high bits : Nat} {bytes : List UInt8} {character : Char}

theorem completes_one_iff :
    OpenCharacter.Completes ⟨1, low, high, bits⟩ bytes character ↔
      ∃ last : UInt8, bytes = [last] ∧ (low ≤ last.toNat ∧ last.toNat ≤ high) ∧
        character = Char.ofNat (64 * bits + (last.toNat - 0x80)) := by
  cases bytes with
  | nil => simp [OpenCharacter.Completes]
  | cons byte bytes =>
    rw [OpenCharacter.Completes, if_pos (Nat.le_refl 1)]
    constructor
    · rintro ⟨admits, rfl, whole⟩
      exact ⟨byte, rfl, admits, whole⟩
    · rintro ⟨last, split, admits, whole⟩
      cases split
      exact ⟨admits, rfl, whole⟩

theorem completes_cons_iff {more : Nat} :
    OpenCharacter.Completes ⟨more + 2, low, high, bits⟩ bytes character ↔
      ∃ (first : UInt8) (rest : List UInt8), bytes = first :: rest ∧
        (low ≤ first.toNat ∧ first.toNat ≤ high) ∧
        OpenCharacter.Completes ⟨more + 1, 0x80, 0xBF, 64 * bits + (first.toNat - 0x80)⟩ rest
          character := by
  cases bytes with
  | nil => simp [OpenCharacter.Completes]
  | cons byte bytes =>
    rw [OpenCharacter.Completes, if_neg (by simp)]
    constructor
    · rintro ⟨admits, completes⟩
      exact ⟨byte, bytes, rfl, admits, completes⟩
    · rintro ⟨first, rest, split, admits, completes⟩
      cases split
      exact ⟨admits, completes⟩

theorem awaits_two (isLead : lead.toNat = 0xC0 + bits) (least : 2 ≤ bits) (most : bits ≤ 0x1F) :
    Awaits [lead] ⟨1, 0x80, 0xBF, bits⟩ where
  nonempty := by simp
  goesOn := by simp
  isByte := by simp
  completes_iff := by
    intro bytes character
    rw [utf8EncodeChar_eq_iff, completes_one_iff, List.singleton_append]
    constructor
    · intro spelt
      rcases bytes with _ | ⟨second, _ | ⟨third, _ | ⟨fourth, _ | ⟨fifth, others⟩⟩⟩⟩
      all_goals simp only [Spells] at spelt
      case cons.nil =>
        refine ⟨second, rfl, by omega, ?_⟩
        rw [ofNat_eq_iff (by omega)]
        omega
      all_goals omega
    · rintro ⟨second, rfl, bounds, whole⟩
      rw [ofNat_eq_iff (by omega)] at whole
      simp only [Spells]
      omega

/-- The second byte decides whether the code needs three bytes and is no surrogate. -/
theorem awaits_three (isLead : lead.toNat = 0xE0 + bits) (most : bits ≤ 0xF) (goesOn : low ≤ high)
    (isByte : high < 256)
    (bounds : ∀ byte, low ≤ byte ∧ byte ≤ high ↔ (0x80 ≤ byte ∧ byte ≤ 0xBF) ∧
      0x20 ≤ 64 * bits + (byte - 0x80) ∧
      (64 * bits + (byte - 0x80) < 0x360 ∨ 0x380 ≤ 64 * bits + (byte - 0x80))) :
    Awaits [lead] ⟨2, low, high, bits⟩ where
  nonempty := by simp
  goesOn := goesOn
  isByte := isByte
  completes_iff := by
    intro bytes character
    have valid := isValidChar_toNat character
    simp only [utf8EncodeChar_eq_iff, completes_cons_iff, completes_one_iff, bounds,
      List.singleton_append, Nat.zero_add]
    constructor
    · intro spelt
      rcases bytes with _ | ⟨second, _ | ⟨third, _ | ⟨fourth, _ | ⟨fifth, others⟩⟩⟩⟩
      all_goals simp only [Spells] at spelt
      case cons.cons.nil =>
        refine ⟨second, [third], rfl, by omega, third, rfl, by omega, ?_⟩
        rw [ofNat_eq_iff (by omega)]
        omega
      all_goals omega
    · rintro ⟨second, rest, rfl, admits, third, rfl, tail, whole⟩
      rw [ofNat_eq_iff (by omega)] at whole
      simp only [Spells]
      omega

/-- The second byte decides whether the code needs four bytes and is not too great. -/
theorem awaits_four (isLead : lead.toNat = 0xF0 + bits) (most : bits ≤ 4) (goesOn : low ≤ high)
    (isByte : high < 256)
    (bounds : ∀ byte, low ≤ byte ∧ byte ≤ high ↔ (0x80 ≤ byte ∧ byte ≤ 0xBF) ∧
      0x10 ≤ 64 * bits + (byte - 0x80) ∧ 64 * bits + (byte - 0x80) < 0x110) :
    Awaits [lead] ⟨3, low, high, bits⟩ where
  nonempty := by simp
  goesOn := goesOn
  isByte := isByte
  completes_iff := by
    intro bytes character
    have valid := isValidChar_toNat character
    simp only [utf8EncodeChar_eq_iff, completes_cons_iff, completes_one_iff, bounds,
      List.singleton_append, Nat.zero_add, Nat.reduceAdd]
    constructor
    · intro spelt
      rcases bytes with _ | ⟨second, _ | ⟨third, _ | ⟨fourth, _ | ⟨fifth, others⟩⟩⟩⟩
      all_goals simp only [Spells] at spelt
      case cons.cons.cons.nil =>
        refine ⟨second, _, rfl, by omega, third, [fourth], rfl, by omega, fourth, rfl, by omega, ?_⟩
        rw [ofNat_eq_iff (by omega)]
        omega
      all_goals omega
    · rintro ⟨second, rest, rfl, admits, third, rest, rfl, tail, fourth, rfl, last, whole⟩
      rw [ofNat_eq_iff (by omega)] at whole
      simp only [Spells]
      omega

/-- A byte that spells no code as the first one begins no character. -/
theorem not_begins (foreign : ∀ code bytes, code < 0x110000 → ¬ Spells code (lead :: bytes))
    (bytes : List UInt8) : ¬ Begins (lead :: bytes) := by
  rintro ⟨character, rest, whole⟩
  have valid := isValidChar_toNat character
  exact foreign character.toNat (bytes ++ rest) (by omega) (utf8EncodeChar_eq_iff.mp whole.symm)

/-- A first byte is a character, or a character is open behind it, or no character begins with it. -/
theorem leadByte_cases (lead : UInt8) :
    (leadByte lead.toNat = ([Char.ofNat lead.toNat], none) ∧
      utf8EncodeChar (Char.ofNat lead.toNat) = [lead]) ∨
    (∃ unfinished, leadByte lead.toNat = ([], some unfinished) ∧ Awaits [lead] unfinished) ∨
    (leadByte lead.toNat = ([replacement], none) ∧ ∀ bytes, ¬ Begins (lead :: bytes)) := by
  have isByte := lead.toNat_lt
  unfold leadByte
  split_ifs with ascii two leastThree surrogates three leastFour four mostFour
  · left
    refine ⟨rfl, utf8EncodeChar_eq_iff.mpr ?_⟩
    rw [(ofNat_eq_iff (by omega)).mp rfl]
    exact ⟨ascii, rfl⟩
  · exact .inr (.inl ⟨_, rfl, awaits_two (by omega) (by omega) (by omega)⟩)
  · exact .inr (.inl ⟨_, rfl,
      awaits_three (by omega) (by omega) (by omega) (by omega) (by omega)⟩)
  · exact .inr (.inl ⟨_, rfl,
      awaits_three (by omega) (by omega) (by omega) (by omega) (by omega)⟩)
  · exact .inr (.inl ⟨_, rfl,
      awaits_three (by omega) (by omega) (by omega) (by omega) (by omega)⟩)
  · exact .inr (.inl ⟨_, rfl,
      awaits_four (by omega) (by omega) (by omega) (by omega) (by omega)⟩)
  · exact .inr (.inl ⟨_, rfl,
      awaits_four (by omega) (by omega) (by omega) (by omega) (by omega)⟩)
  · exact .inr (.inl ⟨_, rfl,
      awaits_four (by omega) (by omega) (by omega) (by omega) (by omega)⟩)
  · refine .inr (.inr ⟨rfl, not_begins ?_⟩)
    intro code bytes valid spelt
    rcases bytes with _ | ⟨second, _ | ⟨third, _ | ⟨fourth, _ | ⟨fifth, others⟩⟩⟩⟩
    all_goals simp only [Spells] at spelt
    all_goals omega

/-! ### Whole byte strings -/

/-- A byte that begins no character is malformed alone. -/
theorem isMalformed_of_not_begins {byte : UInt8} {behind : List UInt8}
    (foreign : ∀ bytes, ¬ Begins (byte :: bytes)) : IsMalformed [byte] behind where
  nonempty := List.cons_ne_nil byte []
  begun := .inl rfl
  unreadable := by
    rintro character ⟨rest, whole⟩
    cases bytesOf : utf8EncodeChar character with
    | nil => exact utf8EncodeChar_ne_nil bytesOf
    | cons first others =>
      rw [bytesOf] at whole
      cases whole
      exact foreign others ⟨character, by rw [bytesOf]⟩
  longest := by
    rintro longer ⟨rest, whole⟩ begins
    cases longer with
    | nil => simp
    | cons first others =>
      cases whole
      exact absurd begins (foreign others)

theorem exists_firstPart (byte : UInt8) (bytes : List UInt8) :
    ∃ character rest, FirstPart (byte :: bytes) character rest ∧
      decode (byte :: bytes) = character :: decode rest := by
  rw [decode, decodeFrom_cons, readByte]
  rcases leadByte_cases byte with ⟨shown, whole⟩ | ⟨unfinished, opened, awaits⟩ | ⟨shown, foreign⟩
  · rw [shown]
    refine ⟨_, bytes, .character ?_, rfl⟩
    rw [whole, List.singleton_append]
  · rw [opened]
    exact awaits.exists_firstPart
  · rw [shown]
    have alone : IsMalformed [byte] bytes := isMalformed_of_not_begins foreign
    exact ⟨replacement, bytes, .malformed rfl alone, rfl⟩

theorem IsMalformed.length_le {part behind other otherBehind : List UInt8}
    (first : IsMalformed part behind) (second : IsMalformed other otherBehind)
    (same : part ++ behind = other ++ otherBehind) : part.length ≤ other.length := by
  rcases first.begun with single | begins
  · rw [single]
    exact List.length_pos_of_ne_nil second.nonempty
  · exact second.longest part (same ▸ List.prefix_append part behind) begins

/-- There is one way to read the first bytes. -/
theorem FirstPart.unique {bytes rest otherRest : List UInt8} {character other : Char}
    (first : FirstPart bytes character rest) (second : FirstPart bytes other otherRest) :
    character = other ∧ rest = otherRest := by
  cases first with
  | character whole =>
    cases second with
    | character otherWhole =>
      rw [whole] at otherWhole
      have same := eq_of_utf8EncodeChar_append otherWhole
      rw [same] at otherWhole
      exact ⟨same, List.append_cancel_left otherWhole⟩
    | malformed split isMalformed =>
      exact absurd ⟨rest, whole.symm.trans split⟩ (isMalformed.unreadable character)
  | malformed split isMalformed =>
    cases second with
    | character whole =>
      exact absurd ⟨otherRest, whole.symm.trans split⟩ (isMalformed.unreadable other)
    | malformed otherSplit otherMalformed =>
      rw [split] at otherSplit
      have sameLength := Nat.le_antisymm (isMalformed.length_le otherMalformed otherSplit)
        (otherMalformed.length_le isMalformed otherSplit.symm)
      exact ⟨rfl, (List.append_inj otherSplit sameLength).2⟩

theorem FirstPart.length_lt {bytes rest : List UInt8} {character : Char}
    (first : FirstPart bytes character rest) : rest.length < bytes.length := by
  cases first with
  | character whole =>
    have some_ : 0 < (utf8EncodeChar character).length :=
      List.length_pos_of_ne_nil utf8EncodeChar_ne_nil
    rw [whole, List.length_append]
    omega
  | malformed split isMalformed =>
    have some_ := List.length_pos_of_ne_nil isMalformed.nonempty
    rw [split, List.length_append]
    omega

theorem standsFor_decode (bytes : List UInt8) : StandsFor bytes (decode bytes) := by
  induction size : bytes.length using Nat.strong_induction_on generalizing bytes with
  | _ size ih =>
    cases bytes with
    | nil => exact .nil
    | cons byte bytes =>
      rcases exists_firstPart byte bytes with ⟨character, rest, first, shown⟩
      rw [shown]
      exact .cons first (ih rest.length (size ▸ first.length_lt) rest rfl)

theorem StandsFor.unique {bytes : List UInt8} {text other : Text} (first : StandsFor bytes text)
    (second : StandsFor bytes other) : text = other := by
  induction first generalizing other with
  | nil =>
    cases second with
    | nil => rfl
    | cons first others => exact absurd first.length_lt (Nat.not_lt_zero _)
  | cons first others ih =>
    cases second with
    | nil => exact absurd first.length_lt (Nat.not_lt_zero _)
    | cons second others =>
      rcases first.unique second with ⟨rfl, rfl⟩
      rw [ih others]

/-- Bytes stand for one text, which is what they are decoded to. -/
theorem standsFor_iff {bytes : List UInt8} {text : Text} :
    StandsFor bytes text ↔ text = decode bytes := by
  constructor
  · intro stands
    exact stands.unique (standsFor_decode bytes)
  · rintro rfl
    exact standsFor_decode bytes

/-- A character that breaks off and a byte that begins none are one replacement character each. -/
example : decode [0xE2, 0x82, 0x41, 0xFF, 0xC3, 0xA9] = "\uFFFDA\uFFFDé" := by decide

/-- Decoding undoes encoding. -/
theorem decode_encode (text : Text) : decode (encode text) = text := by
  symm
  rw [← standsFor_iff]
  induction text with
  | nil => exact .nil
  | cons character text ih => exact .cons (.character (List.flatMap_cons ..)) ih

end

end JarAtlas.Text
