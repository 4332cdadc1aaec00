import JarAtlas.Text.Basic

/-!
# UTF-8

Decoding never fails: every longest beginning of a character that its next byte breaks, and every
byte that begins no character, is read as one replacement character. The decoder takes one byte at a
time and remembers, between two bytes of one character, how many are owed and which the next may be.
-/

namespace JarAtlas.Text

/-- The number of bytes that a text takes. -/
def byteCount : Text → Nat
  | [] => 0
  | character :: rest => character.utf8Size + byteCount rest

/-- A character whose first bytes have been read: how many bytes are owed, the bounds of the next
one, and the bits so far. -/
structure OpenCharacter where
  owed : Nat
  low : Nat
  high : Nat
  bits : Nat
deriving DecidableEq, Repr

/-- What stands for a malformed part. -/
def replacement : Char := '\uFFFD'

/-- A byte between two characters: what it shows at once, and the character that it opens. -/
def leadByte (byte : Nat) : Text × Option OpenCharacter :=
  if byte ≤ 0x7F then ([Char.ofNat byte], none)
  else if 0xC2 ≤ byte ∧ byte ≤ 0xDF then ([], some ⟨1, 0x80, 0xBF, byte - 0xC0⟩)
  else if byte = 0xE0 then ([], some ⟨2, 0xA0, 0xBF, 0⟩)
  else if byte = 0xED then ([], some ⟨2, 0x80, 0x9F, 0xD⟩)
  else if 0xE1 ≤ byte ∧ byte ≤ 0xEF then ([], some ⟨2, 0x80, 0xBF, byte - 0xE0⟩)
  else if byte = 0xF0 then ([], some ⟨3, 0x90, 0xBF, 0⟩)
  else if 0xF1 ≤ byte ∧ byte ≤ 0xF3 then ([], some ⟨3, 0x80, 0xBF, byte - 0xF0⟩)
  else if byte = 0xF4 then ([], some ⟨3, 0x80, 0x8F, 4⟩)
  else ([replacement], none)

/-- One byte: what it shows, and what is open after it. A byte that the open character does not
admit ends it as malformed and is then read afresh. -/
def readByte (unfinished : Option OpenCharacter) (byte : Nat) : Text × Option OpenCharacter :=
  match unfinished with
  | none => leadByte byte
  | some character =>
    if character.low ≤ byte ∧ byte ≤ character.high then
      let bits := 64 * character.bits + (byte - 0x80)
      if character.owed ≤ 1 then ([Char.ofNat bits], none)
      else ([], some ⟨character.owed - 1, 0x80, 0xBF, bits⟩)
    else
      let (shown, next) := leadByte byte
      (replacement :: shown, next)

/-- The text of the bytes that follow an unfinished character. -/
def decodeFrom : Option OpenCharacter → List UInt8 → Text
  | none, [] => []
  | some _, [] => [replacement]
  | unfinished, byte :: rest =>
    let (shown, next) := readByte unfinished byte.toNat
    shown ++ decodeFrom next rest

/-- The text that bytes stand for. -/
def decode (bytes : List UInt8) : Text := decodeFrom none bytes

end JarAtlas.Text
