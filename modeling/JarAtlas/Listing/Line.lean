import JarAtlas.Member.Signature
import JarAtlas.Text.Digits

/-!
# Lines of a disassembly listing

What a single trimmed line of a listing is, told from the line, the next line that is not blank, and
whether a method is being read. Most lines are inert: they say nothing about the class.
-/

namespace JarAtlas.Listing

open Text

/-- The header of a method's variable table. -/
def tableHeader : Text := "LocalVariableTable:"

/-- How the line under a member begins. -/
def descriptorStart : Text := "descriptor:"

/-- The text behind at least one blank. -/
def passBlanks : Text → Option Text
  | [] => none
  | character :: rest => if isBlank character then some (rest.dropWhile isBlank) else none

/-- The text behind one of the words and at least one blank. -/
def passWord (words : List Text) (text : Text) : Option Text :=
  words.findSome? fun word => (after? word text).bind passBlanks

theorem length_lt_of_passBlanks {text rest : Text} (passed : passBlanks text = some rest) :
    rest.length < text.length := by
  cases text with
  | nil => simp [passBlanks] at passed
  | cons character others =>
    simp only [passBlanks, Option.ite_none_right_eq_some, Option.some.injEq] at passed
    have shorter := (List.dropWhile_sublist isBlank (l := others)).length_le
    simp only [← passed.2, List.length_cons]
    omega

theorem length_lt_of_passWord {words : List Text} {text rest : Text}
    (passed : passWord words text = some rest) : rest.length < text.length := by
  obtain ⟨word, -, found⟩ := List.exists_of_findSome?_eq_some passed
  obtain ⟨behind, cut, blanks⟩ := Option.bind_eq_some_iff.mp found
  have shorter := length_lt_of_passBlanks blanks
  simp only [eq_append_of_after? cut, List.length_append]
  omega

/-- The line declares a class: modifiers, a kind, and the first character of a name, with blanks
between. -/
def isDeclaration (line : Text) : Bool :=
  match _passed : passWord declarationModifiers line with
  | some rest => isDeclaration rest
  | none =>
    match passWord (ClassKind.all.map ClassKind.keyword) line with
    | some (character :: _) => Declaration.isIdentifierStart character
    | _ => false
termination_by line.length
decreasing_by exact length_lt_of_passWord _passed

/-- The line lists a method: it holds parentheses, and either begins with a word of the method
vocabulary or ends in a semicolon with a descriptor on the next line. -/
def listsMethod (line : Text) (next : Option Text) : Bool :=
  match cutFirst '(' line with
  | none => false
  | some (_, behind) =>
    behind.contains ')' &&
      (Member.methodModifiers.contains (firstWord line) ||
        Member.passedMethodWords.contains (firstWord line) ||
        (endsWith ";" line && next.any (beginsWith descriptorStart)))

/-- The line lists a field: it ends in a semicolon without an opening parenthesis, and either begins
with a field modifier or has a descriptor on the next line. -/
def listsField (line : Text) (next : Option Text) : Bool :=
  endsWith ";" line && !line.contains '(' &&
    (Member.fieldModifiers.contains (firstWord line) || next.any (beginsWith descriptorStart))

/-- The line is an instruction that opens a block of switch cases. -/
def opensSwitch (line : Text) : Bool :=
  let (digits, rest) := line.span isDigit
  let behind := do
    let rest ← after? ":" rest
    let rest ← passBlanks rest
    (after? "tableswitch" rest).or (after? "lookupswitch" rest)
  !digits.isEmpty && behind.any fun rest => (rest.dropWhile isBlank).head? == some '\x7b'

/-- The digits of the argument size that a line gives; `insideWord` tells that the character in
front of the text belongs to a word. -/
def argumentSizeFrom (insideWord : Bool) : Text → Option Text
  | [] => none
  | character :: rest =>
    let digits := ((after? "args_size=" (character :: rest)).getD []).takeWhile isDigit
    if !insideWord && !digits.isEmpty then some digits
    else argumentSizeFrom (isWord character) rest

/-- The digits of the argument size that a line gives. -/
def argumentSize? (line : Text) : Option Text := argumentSizeFrom false line

/-- Digits with at least one blank behind them, and the text behind those. -/
def numberColumn (text : Text) : Option (Text × Text) :=
  let (digits, rest) := text.span isDigit
  if digits.isEmpty then none else (passBlanks rest).map (digits, ·)

/-- The digits of the slot and the name in a row of a variable table: start, length, slot, name and
type. -/
def tableRow? (line : Text) : Option (Text × Text) := do
  let (_, rest) ← numberColumn line
  let (_, rest) ← numberColumn rest
  let (slot, rest) ← numberColumn rest
  let (name, rest) := rest.span Declaration.isIdentifierPart
  let type ← passBlanks rest
  if name.isEmpty || type.isEmpty then none else some (slot, name)

/-- What a line outside a variable table is. -/
inductive Shape
  | declaration
  | bodyOpening
  | method
  | tableHeader
  | codeSizes
  | switchOpening
  | staticBlock
  | field
  | closing
  | trailer
  | inert
deriving DecidableEq, Repr

/-- The shape of a line; the first that fits counts. Sizes and switches are told apart only while a
method is being read. -/
def shapeOf (insideMethod : Bool) (line : Text) (next : Option Text) : Shape :=
  if isDeclaration line then .declaration
  else if line == ['\x7b'] then .bodyOpening
  else if listsMethod line next then .method
  else if line == tableHeader then .tableHeader
  else if insideMethod && beginsWith "stack=" line then .codeSizes
  else if insideMethod && opensSwitch line then .switchOpening
  else if beginsWith "static \x7b" line then .staticBlock
  else if listsField line next then .field
  else if beginsWith ['\x7d'] line then .closing
  else if beginsWith "SourceFile:" line then .trailer
  else .inert

/-- What a line of a variable table is. -/
inductive TableLine
  | blank
  | columnHeads
  | row (slot : Text) (name : Text)
  | foreign
deriving DecidableEq, Repr

/-- The shape of a line while a variable table is read. A foreign line ends the table and is then
read like any other. -/
def tableLineOf (line : Text) : TableLine :=
  if line.isEmpty then .blank
  else if beginsWith "Start" line || beginsWith "Slot" line then .columnHeads
  else
    match tableRow? line with
    | some (slot, name) => .row slot name
    | none => .foreign

end JarAtlas.Listing
