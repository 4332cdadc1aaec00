import JarAtlas.ClassName
import JarAtlas.Files

/-!
# Jars

A jar is an archive: entries in order, each with a name and a content. A name may stand in it more
than once; each occurrence is listed, and reading gives the last. A name ends at the first null
character.
-/

namespace JarAtlas.Archive

/-- The entries of a jar. -/
def entriesOf (jar : Text) : Action (List (Text × Text)) := do
  match ← Files.read jar with
  | .archive entries =>
    return entries.map fun (name, content) => (name.takeWhile (· ≠ '\x00'), content)
  | .text _ => Action.fail .notArchive

/-- The names of the classes that stand in entries of their own. -/
def classNames (entries : List (Text × Text)) : List Text :=
  entries.filterMap fun (name, _) => ClassName.ofEntry? name

/-- The entries of the jar that a value names. -/
def entriesNamed : Json → Action (List (Text × Text))
  | .text jar => entriesOf jar
  | .string (.broken codes) => Action.fail (.ofBroken codes)
  | other => Action.fail (.wrongType (.noMember other.typeName "seek"))

/-- The names of the classes in the jar that a value names. -/
def listClasses (jar : Json) : Action (List Text) := do return classNames (← entriesNamed jar)

/-- The content of the last entry of a name. No entry has a broken name. -/
def contentOf? (entries : List (Text × Text)) (name : JsonString) : Option Text :=
  (entries.reverse.find? fun (other, _) => .text other == name).map Prod.snd

/-- The content of an entry of the jar that a value names. -/
def readEntry (jar : Json) (entry : JsonString) : Action Text := do
  match ← (entriesNamed jar).attempt with
  | .error error =>
    Action.fail (if error.isUnreadableJar then .unreadableJar jar.display error.message else error)
  | .ok entries =>
    match contentOf? entries entry with
    | some content => return content
    | none => Action.fail (.entryMissing entry.display jar.display)

/-- Makes the directory that the file of an entry stands in. A broken package makes none. -/
def ensureDirectoryOf (entry : JsonString) (target : Path) : Action Unit :=
  let package := (entry.codes.reverse.dropWhile (· ≠ 0x2F)).reverse
  match JsonString.obstacle? package with
  | some obstacle =>
    Action.fail (.unencodable (obstacle.behind (target.text.length - entry.codes.length)))
  | none => Files.ensureDirectories target.parent

/-- Writes the file of a class from a jar below a directory, in the directories of its package. -/
def extractClass (jar : Json) (className : JsonString) (destination : Path) : Action Path := do
  let entry := ClassName.entryOf className
  let target := destination.join entry.display
  ensureDirectoryOf entry target
  Files.write target (.text (← readEntry jar entry))
  return target

end JarAtlas.Archive
