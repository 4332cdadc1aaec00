import JarAtlas.ClassIndex.Basic

/-!
# Looking up classes

Lookups read the index file once for each time it was changed: the table is remembered with the time
of the file, and it is used again as long as the file carries that time.
-/

namespace JarAtlas.ClassIndex

/-- The remembered table of a path, if its file still carries the same time. -/
def remembered? (memory : Memory) (path : Text) (stamp : Int) : Option LookupTable :=
  match memory.tables.find? fun (other, _) => other == path with
  | some (_, time, table) => if time = stamp then some table else none
  | none => none

/-- Remembers a table instead of an earlier one of that path. -/
def rememberTable (path : Text) (stamp : Int) (table : LookupTable) (memory : Memory) : Memory :=
  { memory with
    tables := (path, stamp, table) :: memory.tables.filter fun (other, _) => other != path }

/-- The lookup table that the file at a path gives. -/
def readTable (path : Path) : Action LookupTable := do Action.ofExcept (tableIn (← read path))

/-- The lookup table of a project. A directory in the place of the index is never remembered. -/
def lookupTable (project : Text) : Action LookupTable := do
  let path := pathOf project
  match ← Files.find? path with
  | none => Action.fail (.indexMissing path.text)
  | some .directory => readTable path
  | some (.file _ stamp) =>
    match remembered? (← Action.memory) path.text stamp with
    | some table => return table
    | none =>
      let table ← readTable path
      Action.remember (rememberTable path.text stamp table)
      return table

/-- The jar of a class, if the index has the class. -/
def jarOf? (className : Json) (project : Text) : Action (Option Json) := do
  let table ← lookupTable project
  return jarIn? table (← Action.ofExcept (keyOf className))

/-- The jar of a class that has to be in the index. -/
def jarOf (className : Json) (project : Text) : Action Json := do
  match (← jarOf? className project).filter Json.isTruthy with
  | some jar => return jar
  | none => Action.fail (.unknownClass className.display)

/-- The indexed classes in the order of the index; none without an index. -/
def classNames (project : Text) : Action (List Json) := do
  if ← doesExist project then return (← lookupTable project).map Prod.fst else return []

end JarAtlas.ClassIndex
