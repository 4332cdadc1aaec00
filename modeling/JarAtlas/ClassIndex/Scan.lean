import JarAtlas.Archive
import JarAtlas.ClassIndex.Basic
import JarAtlas.ClassIndex.Dependencies

/-!
# Scanning a project

A scan lists the classes of every dependency jar and writes the index. An index that is there is
used as it is, unless a new one is asked for.
-/

namespace JarAtlas.ClassIndex

/-- What the jars read so far have given: their number and the entries. -/
structure Found where
  jars : Nat
  entries : List Entry

/-- Adds the classes of a jar. A jar that cannot be read is passed over. -/
def addClasses (found : Found) (jar : Text) : Action Found := do
  match ← (Archive.listClasses (.text jar)).attempt with
  | .error error => if error.isUnreadableJar then return found else Action.fail error
  | .ok names =>
    return { jars := found.jars + 1
             entries := found.entries ++ names.map fun className => { className, jar } }

/-- Lists the classes of all dependency jars and writes the index. -/
def build (project : Text) : Action ScanSummary := do
  let path := pathOf project
  let jars ← dependencyJars project
  let found ← jars.foldlM addClasses ⟨0, []⟩
  let summary := summaryOf path found.jars found.entries
  Files.ensureDirectories path.parent
  let time := (← Action.host).time
  Files.write path (.text (json summary found.entries time).write)
  return summary

/-- Scans a project. With `force` an index that is there is taken away first. -/
def scan (project : Text) (force : Bool) : Action ScanSummary := do
  let path := pathOf project
  if force && (← Files.doesExist path) then Files.unlink path
  if ← Files.doesExist path then Action.ofExcept (summaryIn path (← read path))
  else build project

end JarAtlas.ClassIndex
