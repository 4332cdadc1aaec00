import JarAtlas.Json.Basic
import JarAtlas.Text.Digits

/-!
# Reading JSON

A text is read as one value with white space around it, or not at all. A name given twice in an
object keeps its first place and its last value. A string may hold no raw control character. An
escaped pair of surrogates is one character. Besides JSON's own numbers the words `NaN`, `Infinity`
and `-Infinity` are read. Lists and objects may stand in each other only so deep, and one level more
is refused as soon as it opens, whatever follows.
-/

namespace JarAtlas.Json

/-- The white space between tokens. -/
def isSpace (character : Char) : Bool :=
  character == ' ' || character == '\t' || character == '\n' || character == '\r'

/-- The text from its next token. -/
def skipSpace (text : Text) : Text := text.dropWhile isSpace

/-- The value of a hexadecimal digit. -/
def hexadecimalDigit? (character : Char) : Option Nat :=
  if character.isDigit then some (character.toNat - 0x30)
  else if 'a' ≤ character ∧ character ≤ 'f' then some (character.toNat - 0x57)
  else if 'A' ≤ character ∧ character ≤ 'F' then some (character.toNat - 0x37)
  else none

/-- The number that four hexadecimal digits make. -/
def unit? (first second third fourth : Char) : Option Nat := do
  let first ← hexadecimalDigit? first
  let second ← hexadecimalDigit? second
  let third ← hexadecimalDigit? third
  let fourth ← hexadecimalDigit? fourth
  pure (((first * 16 + second) * 16 + third) * 16 + fourth)

/-- The character that a one-letter escape stands for. -/
def shortEscape? : Char → Option Nat
  | '"' => some 0x22
  | '\\' => some 0x5C
  | '/' => some 0x2F
  | 'b' => some 0x08
  | 'f' => some 0x0C
  | 'n' => some 0x0A
  | 'r' => some 0x0D
  | 't' => some 0x09
  | _ => none

/-- The code points and escaped units up to the closing quote, and the text behind it. -/
def readUnits : Text → Option (List Nat × Text)
  | [] => none
  | '"' :: rest => some ([], rest)
  | '\\' :: 'u' :: first :: second :: third :: fourth :: rest => do
    let unit ← unit? first second third fourth
    let (units, rest) ← readUnits rest
    pure (unit :: units, rest)
  | '\\' :: letter :: rest => do
    let unit ← shortEscape? letter
    let (units, rest) ← readUnits rest
    pure (unit :: units, rest)
  | character :: rest =>
    if character.toNat < 0x20 then none
    else (readUnits rest).map fun (units, rest) => (character.toNat :: units, rest)

/-- Code points and units with each pair of surrogates joined to the code point that it writes. -/
def joinUnits : List Nat → List Nat
  | high :: low :: rest =>
    if 0xD800 ≤ high ∧ high < 0xDC00 ∧ 0xDC00 ≤ low ∧ low < 0xE000 then
      (0x10000 + (high - 0xD800) * 0x400 + (low - 0xDC00)) :: joinUnits rest
    else high :: joinUnits (low :: rest)
  | units => units

/-- The string behind an opening quote. -/
def readString (text : Text) : Option (JsonString × Text) :=
  (readUnits text).map fun (units, rest) => (.ofCodes (joinUnits units), rest)

/-- The leading ASCII digits and the rest. -/
def takeDigits (text : Text) : Text × Text := text.span Char.isDigit

/-- The digits behind a decimal point, or none when no fraction stands here. -/
def readFraction (text : Text) : Text × Text :=
  match text with
  | '.' :: rest =>
    let (digits, behind) := takeDigits rest
    if digits.isEmpty then ([], text) else (digits, behind)
  | _ => ([], text)

/-- The power of ten, or none when none stands here. -/
def readPower (text : Text) : Option Int × Text :=
  match text with
  | letter :: rest =>
    if letter = 'e' ∨ letter = 'E' then
      let (negative, rest) : Bool × Text :=
        match rest with
        | '-' :: rest => (true, rest)
        | '+' :: rest => (false, rest)
        | _ => (false, rest)
      let (digits, behind) := takeDigits rest
      if digits.isEmpty then (none, text)
      else
        let size : Int := Text.digitsValue digits
        (some (if negative then -size else size), behind)
    else (none, text)
  | [] => (none, text)

/-- A number without its sign. No zero may lead other digits, and a whole number has at most
`Text.digitLimit` of them. -/
def readUnsigned (negative : Bool) (text : Text) : Option (Json × Text) :=
  let (whole, rest) : Text × Text :=
    match text with
    | '0' :: rest => ("0", rest)
    | _ => takeDigits text
  if whole.isEmpty then none
  else
    let (fraction, rest) := readFraction rest
    let (power, rest) := readPower rest
    if fraction.isEmpty && power.isNone then
      (Text.number? whole).map fun size =>
        (.int (if negative then -(size : Int) else size), rest)
    else
      let digits := Text.digitsValue (whole ++ fraction)
      some (.real (.ofDecimal negative digits (power.getD 0 - fraction.length)), rest)

/-- A value that is neither a string, a list nor an object. -/
def readScalar (source : Text) : Option (Json × Text) :=
  let words : List (Text × Json) :=
    [("null", .null), ("true", .bool true), ("false", .bool false), ("NaN", .real .undefined),
      ("Infinity", .real (.infinite false)), ("-Infinity", .real (.infinite true))]
  match words.findSome? fun (word, value) => (Text.after? word source).map (value, ·) with
  | some found => some found
  | none =>
    match source with
    | '-' :: rest => readUnsigned true rest
    | _ => readUnsigned false source

/-- Why a text is not read. -/
inductive ReadFault
  | malformed
  | listTooDeep
  | objectTooDeep
deriving DecidableEq, Repr

/-- How many lists and objects may stand in each other. -/
def nestingLimit : Nat := 985

/-- A part that has to be there. -/
def orMalformed {α : Type} : Option α → Except ReadFault α
  | some part => .ok part
  | none => .error .malformed

mutual

/-- The value at the start of a text and the text behind it. `fuel` bounds the calls, and `depth`
lists and objects are open around the value. -/
def readValue : Nat → Nat → Text → Except ReadFault (Json × Text)
  | 0, _, _ => .error .malformed
  | _ + 1, _, '"' :: rest => do
    let (value, rest) ← orMalformed (readString rest)
    pure (.string value, rest)
  | fuel + 1, depth, '[' :: rest =>
    if nestingLimit ≤ depth then .error .listTooDeep
    else
      match skipSpace rest with
      | ']' :: rest => .ok (.list [], rest)
      | rest => do
        let (items, rest) ← readItems fuel (depth + 1) rest
        pure (.list items, rest)
  | fuel + 1, depth, '\x7b' :: rest =>
    if nestingLimit ≤ depth then .error .objectTooDeep
    else
      match skipSpace rest with
      | '\x7d' :: rest => .ok (.object [], rest)
      | rest => do
        let (fields, rest) ← readFields fuel (depth + 1) [] rest
        pure (.object fields, rest)
  | _ + 1, _, source => orMalformed (readScalar source)

/-- The items of a list up to its closing bracket. -/
def readItems : Nat → Nat → Text → Except ReadFault (List Json × Text)
  | 0, _, _ => .error .malformed
  | fuel + 1, depth, source => do
    let (item, rest) ← readValue fuel depth source
    match skipSpace rest with
    | ']' :: rest => pure ([item], rest)
    | ',' :: rest =>
      let (items, rest) ← readItems fuel depth (skipSpace rest)
      pure (item :: items, rest)
    | _ => .error .malformed

/-- The fields of an object up to its closing brace, added to those before. -/
def readFields : Nat → Nat → List (JsonString × Json) → Text →
    Except ReadFault (List (JsonString × Json) × Text)
  | 0, _, _, _ => .error .malformed
  | fuel + 1, depth, before, '"' :: source => do
    let (name, rest) ← orMalformed (readString source)
    match skipSpace rest with
    | ':' :: rest =>
      let (value, rest) ← readValue fuel depth (skipSpace rest)
      let fields := setField name value before
      match skipSpace rest with
      | '\x7d' :: rest => pure (fields, rest)
      | ',' :: rest => readFields fuel depth fields (skipSpace rest)
      | _ => .error .malformed
    | _ => .error .malformed
  | _ + 1, _, _, _ => .error .malformed

end

/-- The value that a whole text stands for. Every call but one for each list and object begins
behind a character of its own, so twice the length of the text is fuel enough. -/
def read (source : Text) : Except ReadFault Json := do
  let (value, rest) ← readValue (2 * source.length + 2) 0 (skipSpace source)
  if (skipSpace rest).isEmpty then pure value else .error .malformed

/-- The value that a whole text stands for, if it is read. -/
def read? (source : Text) : Option Json := (read source).toOption

end JarAtlas.Json
