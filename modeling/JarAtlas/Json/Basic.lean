import JarAtlas.Binary64
import JarAtlas.Json.String

/-!
# JSON values

The values of the class index file and of tool arguments. Whole numbers have no bound; a number with
a fraction or a power is a binary fraction. The fields of an object stand in the order in which
their names first occurred, each name once.
-/

namespace JarAtlas

/-- A JSON value. -/
inductive Json
  | null
  | bool (value : Bool)
  | int (value : Int)
  | real (value : Binary64)
  | string (value : JsonString)
  | list (items : List Json)
  | object (fields : List (JsonString × Json))

namespace Json

/-- A text as a value. -/
@[match_pattern] abbrev text (value : Text) : Json := string (.text value)

theorem text_injective : Function.Injective text := by
  rintro value other ⟨⟩
  rfl

/-- The value of a field. -/
def field? (name : JsonString) (fields : List (JsonString × Json)) : Option Json :=
  (fields.find? fun (other, _) => other == name).map Prod.snd

/-- Sets a field: an earlier value of that name is replaced where it stands, and a new name comes
last. -/
def setField (name : JsonString) (value : Json) :
    List (JsonString × Json) → List (JsonString × Json)
  | [] => [(name, value)]
  | (other, old) :: rest =>
    if other = name then (name, value) :: rest else (other, old) :: setField name value rest

/-- The text that a value is, if it is one. -/
def text? : Json → Option Text
  | text value => some value
  | _ => none

theorem text?_eq_some_iff {value : Json} {name : Text} :
    value.text? = some name ↔ value = .text name := by
  cases value with
  | string characters => cases characters <;> simp [text?]
  | _ => simp [text?]

/-- Neither null, false, zero nor empty. -/
def isTruthy : Json → Bool
  | null => false
  | bool value => value
  | int value => value != 0
  | real (.finite _ mantissa _) => mantissa != 0
  | real _ => true
  | string value => !value.codes.isEmpty
  | list items => !items.isEmpty
  | object fields => !fields.isEmpty

/-- The name of a value's type in messages. -/
def typeName : Json → Text
  | null => "NoneType"
  | bool _ => "bool"
  | int _ => "int"
  | real _ => "float"
  | string _ => "str"
  | list _ => "list"
  | object _ => "dict"

mutual

/-- A value as messages show it, texts in quotes. -/
def inspect : Json → Text
  | null => "None"
  | bool true => "True"
  | bool false => "False"
  | int value => Text.ofInt value
  | real value => value.shortest
  | string value => value.quoted
  | list items => '[' :: inspectItems items ++ [']']
  | object fields => '\x7b' :: inspectFields fields ++ ['\x7d']

/-- The items of a list, separated by commas. -/
def inspectItems : List Json → Text
  | [] => []
  | [item] => inspect item
  | item :: items => inspect item ++ ", " ++ inspectItems items

/-- The fields of an object, separated by commas. -/
def inspectFields : List (JsonString × Json) → Text
  | [] => []
  | [(name, value)] => name.quoted ++ ": " ++ inspect value
  | (name, value) :: fields =>
    name.quoted ++ ": " ++ inspect value ++ ", " ++ inspectFields fields

end

/-- A value in running text: a text as it is, any other value as messages show it. -/
def display : Json → Text
  | string value => value.display
  | other => other.inspect

end Json

end JarAtlas
