import JarAtlas.Declaration.TypeReference

/-!
# Class declarations

What the line that declares a class says: modifiers, kind, qualified name, type parameters, and the
types that it extends, implements and permits.
-/

namespace JarAtlas

/-- The kinds of declared classes. -/
inductive ClassKind
  | ordinary
  | interface
  | enumeration
  | record
  | annotation
deriving DecidableEq, Repr

namespace ClassKind

/-- The keyword of a kind. -/
def keyword : ClassKind → Text
  | ordinary => "class"
  | interface => "interface"
  | enumeration => "enum"
  | record => "record"
  | annotation => "@interface"

/-- All kinds. -/
def all : List ClassKind := [ordinary, interface, enumeration, record, annotation]

/-- Interfaces and annotation types extend interfaces and have no superclass. -/
def isInterface : ClassKind → Bool
  | interface | annotation => true
  | _ => false

end ClassKind

/-- The modifiers that a class is reported with. -/
def classModifiers : List Text :=
  ["public", "private", "protected", "static", "final", "abstract", "strictfp"]

/-- The modifiers that a declaration line may hold. -/
def declarationModifiers : List Text := classModifiers ++ (["sealed", "non-sealed"] : List Text)

/-- A type parameter and its bounds. -/
structure TypeParameter where
  name : Text
  bounds : List TypeReference

/-- The text of a type parameter. -/
def TypeParameter.text (parameter : TypeParameter) : Text :=
  if parameter.bounds.isEmpty then parameter.name
  else
    parameter.name ++ " extends " ++ Text.join " & " (parameter.bounds.map TypeReference.text)

/-- A class declaration. -/
structure Declaration where
  /-- The modifiers as written, repetitions included. -/
  writtenModifiers : List Text
  kind : ClassKind
  /-- The identifiers of the qualified name. -/
  path : List Text
  typeParameters : List TypeParameter
  extended : List TypeReference
  implemented : List TypeReference
  permitted : List TypeReference

namespace Declaration

/-- The reported modifiers in order of first appearance. -/
def modifiers (declaration : Declaration) : List Text :=
  declaration.writtenModifiers.foldl
    (fun kept word =>
      if classModifiers.contains word && !kept.contains word then kept ++ [word] else kept) []

/-- The identifiers of the name joined by dots. -/
def qualifiedName (declaration : Declaration) : Text := Text.join "." declaration.path

/-- The type parameters in angle brackets; nothing when there are none. -/
def typeParametersText (declaration : Declaration) : Text :=
  if declaration.typeParameters.isEmpty then []
  else '<' :: Text.join ", " (declaration.typeParameters.map TypeParameter.text) ++ ['>']

/-- The erased direct superclass. -/
def superclass? (declaration : Declaration) : Option Text :=
  if declaration.kind.isInterface then none
  else declaration.extended.head?.map TypeReference.erased

/-- The direct superinterfaces with their type arguments. -/
def interfaces (declaration : Declaration) : List Text :=
  (if declaration.kind.isInterface then declaration.extended
    else declaration.implemented).map TypeReference.text

end Declaration

end JarAtlas
