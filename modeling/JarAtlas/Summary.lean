import JarAtlas.Declaration.Basic

/-!
# Class summaries

What is known of a class: its declaration and its members, in the order in which they are listed.
-/

namespace JarAtlas

/-- The name under which constructors are listed. -/
def constructorName : Text := "<init>"

/-- A field. -/
structure FieldSummary where
  name : Text
  type : Text
  modifiers : List Text
deriving DecidableEq, Repr

/-- A method or constructor. Each parameter is a type, a space and a name. -/
structure MethodSummary where
  name : Text
  returnType : Text
  modifiers : List Text
  parameters : List Text
deriving DecidableEq, Repr

/-- The method is a constructor. -/
def MethodSummary.isConstructor (method : MethodSummary) : Bool := method.name == constructorName

/-- A class. A class without a known declaration has no kind. -/
structure ClassSummary where
  kind : Option ClassKind
  packageName : Text
  simpleName : Text
  modifiers : List Text
  superclass : Option Text
  interfaces : List Text
  fields : List FieldSummary
  methods : List MethodSummary
deriving DecidableEq, Repr

namespace ClassSummary

/-- A class of which only the simple name is known. -/
def ofSimpleName (name : Text) : ClassSummary :=
  { kind := none, packageName := [], simpleName := name, modifiers := [], superclass := none,
    interfaces := [], fields := [], methods := [] }

/-- The package and the simple name with a dot between them; the simple name alone in the unnamed
package. -/
def qualifiedName (summary : ClassSummary) : Text :=
  if summary.packageName.isEmpty then summary.simpleName
  else summary.packageName ++ '.' :: summary.simpleName

/-- Takes over what a declaration says. The package of the declared name replaces the one known so
far, and then so does its simple name; a name without a package only fills in a missing simple
name. -/
def declare (summary : ClassSummary) (declaration : Declaration) : ClassSummary :=
  let (package, simple) :=
    (Text.cutLast '.' declaration.qualifiedName).getD ([], declaration.qualifiedName)
  let summary :=
    if !package.isEmpty then { summary with packageName := package, simpleName := simple }
    else if summary.simpleName.isEmpty then { summary with simpleName := simple }
    else summary
  { summary with
    kind := some declaration.kind
    modifiers := declaration.modifiers
    superclass := declaration.superclass?
    interfaces := declaration.interfaces }

end ClassSummary

end JarAtlas
