import JarAtlas.Error

/-!
# Reports

The plain texts that the front ends answer with: a scan of dependencies, a decompiled source, the
analysis of a class, and a failure with suggestions.
-/

namespace JarAtlas

/-- What a scan has found. An index that was read gives its counts and samples as they stand in it,
whatever they are. -/
structure ScanSummary where
  jarCount : Json
  classCount : Json
  indexPath : Text
  sampleEntries : Json

namespace Report

/-- The lines of a text. -/
def unlines (lines : List Text) : Text := Text.join "\n" lines

/-- How many sample entries a report shows. -/
def sampleLines : Nat := 5

/-- The sample entries that a report shows, the first of them on line `position`. A text gives its
characters. -/
def shownSamples (position : Nat) : Json → Except Error (List Text)
  | .list items =>
    (items.take sampleLines).zipIdx.mapM fun (item, index) =>
      match item with
      | .string entry => .ok entry.display
      | other => .error (.wrongType (.notText (position + index) other.typeName))
  | .string characters => .ok ((characters.display.take sampleLines).map ([·]))
  | .object _ => .error (.wrongType (.unhashable "slice"))
  | other => .error (.wrongType (.notSubscriptable other.typeName))

/-- The report of a scan. -/
def scan (summary : ScanSummary) : Except Error Text := do
  let heading : List Text :=
    [ "Dependency scan complete!",
      "",
      "Jars scanned: " ++ summary.jarCount.display,
      "Classes indexed: " ++ summary.classCount.display,
      "Index file: " ++ summary.indexPath,
      "",
      "Sample index entries:" ]
  let samples ← shownSamples heading.length summary.sampleEntries
  pure (unlines (heading ++ samples))

/-- The report of a decompiled class. -/
def decompiled (className source : Text) : Text :=
  if Text.isBlankText source then
    "Warning: decompiling " ++ className ++ " produced no source; " ++
      "the CFR tool or the class file may be at fault"
  else "Decompiled source of " ++ className ++ ":\n\n```java\n" ++ source ++ "\n```"

/-- Modifiers in front of a member, each with a space behind it. -/
def modifierWords (modifiers : List Text) : Text := modifiers.flatMap (· ++ " ")

/-- A field on a line. -/
def field (field : FieldSummary) : Text :=
  modifierWords field.modifiers ++ field.type ++ ' ' :: field.name

/-- A method on a line; a constructor goes by the simple name of its class. -/
def method (simpleName : Text) (method : MethodSummary) : Text :=
  let head :=
    if method.isConstructor then simpleName else method.returnType ++ ' ' :: method.name
  modifierWords method.modifiers ++ head ++ '(' :: Text.join ", " method.parameters ++ [')']

/-- The text, or `none` where there is nothing to show. -/
def orNone (text : Text) : Text := if text.isEmpty then "none" else text

/-- Members under a heading with their number; nothing when there are none. -/
def memberSection (heading : Text) (members : List Text) : List Text :=
  if members.isEmpty then []
  else
    (heading ++ " (" ++ Text.ofNat members.length ++ "):") ::
      members.map (fun member => "  - " ++ member) ++ [[]]

/-- The report of a class: what its header says, then its fields and its methods as listed. -/
def analysis (summary : ClassSummary) : Text :=
  unlines
    ([ "Analysis of " ++ summary.qualifiedName ++ ":",
        "",
        "Package: " ++ summary.packageName,
        "Class: " ++ summary.simpleName,
        "Modifiers: " ++ Text.join " " summary.modifiers,
        "Superclass: " ++ orNone (summary.superclass.getD []),
        "Interfaces: " ++ orNone (Text.join ", " summary.interfaces),
        "" ] ++
      memberSection "Fields" (summary.fields.map field) ++
      memberSection "Methods" (summary.methods.map (method summary.simpleName)))

/-- What is suggested where nothing better is known. -/
def defaultSuggestions : List Text :=
  [ "Check that the tool arguments are correct",
    "Make sure the required preparation has been done",
    "See the server log for details" ]

/-- The report of a failure. -/
def failure (message : Text) (suggestions : List Text) : Text :=
  unlines
    (["Error: " ++ message, "", "Suggestions:"] ++
      suggestions.zipIdx.map fun (suggestion, index) =>
        Text.ofNat (index + 1) ++ ". " ++ suggestion)

end Report

end JarAtlas
