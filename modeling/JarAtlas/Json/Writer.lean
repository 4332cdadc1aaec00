import JarAtlas.Json.Basic

/-!
# Writing JSON

The layout of the files that the library writes: two spaces for each level, every item and field on
a line of its own, no line break at the end. All characters beyond printable ASCII are escaped, so a
written value is ASCII.
-/

namespace JarAtlas.Json

/-- The escape of one 16-bit unit. -/
def escapeUnit (unit : Nat) : Text := "\\u" ++ Text.hexadecimal 4 unit

/-- A character between the quotes of a JSON string. A character beyond the first plane is a pair of
surrogates. -/
def escapeCharacter (character : Char) : Text :=
  let code := character.toNat
  if character = '"' ∨ character = '\\' then ['\\', character]
  else if 0x20 ≤ code ∧ code < 0x7F then [character]
  else if character = '\n' then "\\n"
  else if character = '\r' then "\\r"
  else if character = '\t' then "\\t"
  else if code = 0x08 then "\\b"
  else if code = 0x0C then "\\f"
  else if code < 0x10000 then escapeUnit code
  else
    escapeUnit (0xD800 + (code - 0x10000) / 0x400) ++ escapeUnit (0xDC00 + (code - 0x10000) % 0x400)

/-- A JSON string. -/
def writeString : JsonString → Text
  | .text value => '"' :: value.flatMap escapeCharacter ++ ['"']
  | .broken codes =>
    let escape (code : Nat) : Text :=
      if JsonString.isSurrogate code then escapeUnit code else escapeCharacter (Char.ofNat code)
    '"' :: codes.flatMap escape ++ ['"']

/-- A line break and the indentation of a level. -/
def newLine (indent : Nat) : Text := '\n' :: List.replicate indent ' '

/-- A number with a fraction or a power. -/
def writeReal : Binary64 → Text
  | .undefined => "NaN"
  | .infinite false => "Infinity"
  | .infinite true => "-Infinity"
  | number => number.shortest

mutual

/-- A value whose closing bracket stands at `indent`. -/
def writeAt (indent : Nat) : Json → Text
  | null => "null"
  | bool true => "true"
  | bool false => "false"
  | int value => Text.ofInt value
  | real value => writeReal value
  | string value => writeString value
  | list [] => "[]"
  | list (item :: items) =>
    '[' :: newLine (indent + 2) ++ writeItems (indent + 2) (item :: items) ++
      newLine indent ++ [']']
  | object [] => ['\x7b', '\x7d']
  | object (field :: fields) =>
    '\x7b' :: newLine (indent + 2) ++ writeFields (indent + 2) (field :: fields) ++
      newLine indent ++ ['\x7d']

/-- The items of a list, each on a line of its own. -/
def writeItems (indent : Nat) : List Json → Text
  | [] => []
  | [item] => writeAt indent item
  | item :: items => writeAt indent item ++ "," ++ newLine indent ++ writeItems indent items

/-- The fields of an object, each on a line of its own. -/
def writeFields (indent : Nat) : List (JsonString × Json) → Text
  | [] => []
  | [(name, value)] => writeString name ++ ": " ++ writeAt indent value
  | (name, value) :: fields =>
    writeString name ++ ": " ++ writeAt indent value ++ "," ++ newLine indent ++
      writeFields indent fields

end

/-- The file form of a value. -/
def write (value : Json) : Text := writeAt 0 value

end JarAtlas.Json
