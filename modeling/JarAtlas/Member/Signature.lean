import JarAtlas.Member.Modifiers
import JarAtlas.Member.Parameters
import JarAtlas.Summary

/-!
# Member lines

The lines that list a method, a constructor or a field. A method line is modifiers, a return type, a
name and a parameter list in parentheses; without a return type it lists a constructor, whose name
is the qualified name of the class. A field line is modifiers, a type and a name, and a semicolon.
-/

namespace JarAtlas.Member

/-- The whole text is identifiers joined by dots. -/
def isQualifiedName (text : Text) : Bool := (Text.pieces '.' text).all Declaration.isIdentifier

/-- The return type and the name that stand in front of a parameter list. -/
def methodHead? (head : Text) : Option (Text × Text) :=
  if head.isEmpty then none
  else
    let (type, name) := (Text.cutLast ' ' head).getD ([], head)
    let type := Text.trim type
    if type.isEmpty then
      if isQualifiedName name then some ("void", constructorName) else none
    else if Declaration.isIdentifier name then some (type, name)
    else none

/-- The method that a line lists, its parameters as written. -/
def parseMethod (line : Text) : Option MethodSummary := do
  let (modifiers, rest) := cutModifiers methodModifiers passedMethodWords (Text.trim line)
  let (head, behind) ← Text.cutFirst '(' rest
  let (parameters, _) ← Text.cutFirst ')' behind
  let (returnType, name) ← methodHead? (Text.trim head)
  pure { name, returnType, modifiers, parameters := splitParameters parameters }

/-- The characters that no field line holds. -/
def isForeignToFields (character : Char) : Bool :=
  (['(', ')', '\x7b', '\x7d', '=', '#'] : List Char).contains character

/-- A character that a type may begin with. -/
def isTypeStart (character : Char) : Bool :=
  Text.isLetter character || character == '_' || character == '$'

/-- The field that a line lists. -/
def parseField (line : Text) : Option FieldSummary :=
  let text := Text.trim line
  if !Text.endsWith ";" text || text.any isForeignToFields then none
  else
    let (modifiers, rest) := cutModifiers fieldModifiers [] (Text.trim text.dropLast)
    let (type, name) := (Text.cutLast ' ' rest).getD ([], rest)
    match Text.trim type with
    | [] => none
    | start :: others =>
      if Declaration.isIdentifier name && isTypeStart start then
        some { name, type := start :: others, modifiers }
      else none

end JarAtlas.Member
