import JarAtlas.ClassName
import JarAtlas.Files
import JarAtlas.Json.Key
import JarAtlas.Json.Reader
import JarAtlas.Json.Writer
import JarAtlas.Report

/-!
# The class index

A project's index tells for every class of its dependencies which jar holds it. It is a JSON file in
the project, with the counts of a scan, a few sample entries and the entries themselves. A file that
comes from elsewhere may hold anything, so each use of a field checks what is there.
-/

namespace JarAtlas.ClassIndex

/-- The name of the index file of a project. -/
def fileName : Text := ".mcp-class-index.json"

/-- The path of a project's index. -/
def pathOf (project : Text) : Path := (Path.ofText project).join fileName

/-- A project has an index. -/
def doesExist (project : Text) : Action Bool := Files.doesExist (pathOf project)

/-- One class of an index. -/
structure Entry where
  className : Text
  jar : Text
deriving DecidableEq, Repr

/-- How many entries an index shows as samples. -/
def sampleSize : Nat := 10

/-- An entry among the samples: the class and the file name of its jar. -/
def Entry.sample (entry : Entry) : Text := entry.className ++ " -> " ++ Path.baseName entry.jar

/-- An entry as it stands in the file. -/
def Entry.json (entry : Entry) : Json :=
  .object
    [ ("class_name", .text entry.className),
      ("jar_path", .text entry.jar),
      ("package_name", .text (ClassName.package entry.className)),
      ("simple_name", .text (ClassName.simple entry.className)) ]

/-- The summary of a scan that has read `jars` jars and found `entries`. -/
def summaryOf (path : Path) (jars : Nat) (entries : List Entry) : ScanSummary :=
  { jarCount := .int jars
    classCount := .int entries.length
    indexPath := path.text
    sampleEntries := .list ((entries.take sampleSize).map fun entry => .text entry.sample) }

/-- The content of an index file. -/
def json (summary : ScanSummary) (entries : List Entry) (time : Text) : Json :=
  .object
    [ ("jar_count", summary.jarCount),
      ("class_count", summary.classCount),
      ("index_path", .text summary.indexPath),
      ("sample_entries", summary.sampleEntries),
      ("class_index", .list (entries.map Entry.json)),
      ("last_updated", .text time) ]

/-- The value in an index file. -/
def read (path : Path) : Action Json := do
  match ← (Files.read path.text).attempt with
  | .error error => Action.fail (.unreadableIndex path.text error.message)
  | .ok (.archive _) => Action.fail (.unreadableIndex path.text "not a text")
  | .ok (.text source) =>
    match Json.read source with
    | .ok value => return value
    | .error .malformed => Action.fail (.unreadableIndex path.text "not a JSON value")
    | .error .listTooDeep => Action.fail (.nestedTooDeep "array")
    | .error .objectTooDeep => Action.fail (.nestedTooDeep "object")

/-- A field that has to be there. -/
def required (name : Text) : Json → Except Error Json
  | .object fields =>
    match Json.field? name fields with
    | some value => .ok value
    | none => .error (.fieldMissing name)
  | .string _ => .error (.wrongType .textIndex)
  | .list _ => .error (.wrongType .listIndex)
  | other => .error (.wrongType (.notSubscriptable other.typeName))

/-- A list field that may be missing. -/
def optionalList (name : Text) : Json → Except Error Json
  | .object fields => .ok ((Json.field? name fields).getD (.list []))
  | other => .error (.wrongType (.noMember other.typeName "get"))

/-- The summary that an index file gives. -/
def summaryIn (path : Path) (value : Json) : Except Error ScanSummary := do
  let jarCount ← required "jar_count" value
  let classCount ← required "class_count" value
  let sampleEntries ← optionalList "sample_entries" value
  pure { jarCount, classCount, indexPath := path.text, sampleEntries }

/-- The items of a value that is gone through: of a list its items, of a text its characters, of an
object its names. -/
def itemsOf : Json → Except Error (List Json)
  | .list items => .ok items
  | .string characters => .ok (characters.codes.map fun code => .string (.ofCodes [code]))
  | .object fields => .ok (fields.map fun (name, _) => .string name)
  | other => .error (.wrongType (.notIterable other.typeName))

/-- The key of what a class goes by. A list or an object cannot stand for a class. -/
def keyOf (className : Json) : Except Error Json.Key :=
  match className.key? with
  | some key => .ok key
  | none => .error (.wrongType (.unhashable className.typeName))

/-- The jar that a table gives for a class. -/
def jarIn? (table : LookupTable) (key : Json.Key) : Option Json :=
  (table.find? fun (other, _) => other.key? == some key).map Prod.snd

/-- Adds an entry of an index file. The first entry of a class counts. -/
def addEntry (table : LookupTable) (entry : Json) : Except Error LookupTable := do
  let className ← required "class_name" entry
  let jar ← required "jar_path" entry
  let key ← keyOf className
  pure (if (jarIn? table key).isSome then table else table ++ [(className, jar)])

/-- The lookup table that an index file gives. -/
def tableIn (value : Json) : Except Error LookupTable := do
  let entries ← optionalList "class_index" value
  let entries ← itemsOf entries
  entries.foldlM addEntry []

end JarAtlas.ClassIndex
