import JarAtlas.Coordinate
import JarAtlas.Tool

/-!
# Dependency jars

The jars that a project depends on, as Maven's dependency tree tells them. Where Maven fails, they
are all jars of the local repository.
-/

namespace JarAtlas.ClassIndex

/-- The local repository. -/
def repository : Action Path := do
  match (← Action.config).repository? (← Action.host).environment with
  | some path => return path
  | none => Action.fail .homeUnknown

/-- The last of some names is that of a jar. -/
def isJar (names : Place) : Bool := (names.getLast?.map (Text.endsWith ".jar")).getD false

/-- The first path below the repository that a search for jars has to ask for, but which is too
long. A search asks for all directories, and for what has the name of a jar. -/
def longPath? (files : FileTree) (repository : Path) (place : Place) : Option Path :=
  (files.below place).findSome? fun (names, node) =>
    let path : Path := { repository with segments := repository.segments ++ names }
    if (node == .directory || isJar names) && FileTree.pathLimit < Text.byteCount path.text then
      some path
    else none

/-- The paths of all jars in the local repository, at any depth, in order. -/
def repositoryJars : Action (List Text) := do
  let repository ← repository
  if ← Files.isDirectory repository then
    let host ← Action.host
    let files := (← get).files
    match files.locate host.workingDirectory repository with
    | .error _ => return []
    | .ok place =>
      match longPath? files repository place with
      | some path => Action.fail (.file .nameTooLong path.text)
      | none =>
        let paths := ((files.filesBelow place).filter isJar).map fun names =>
          ({ repository with segments := repository.segments ++ names } : Path).text
        return paths.mergeSort Text.precedes
  else Action.fail (.repositoryMissing repository.text)

/-- Adds the jar that a line of a dependency tree names, if it is there and not among those before.
-/
def addDependency (repository : Path) (jars : List Text) (line : Text) : Action (List Text) := do
  match (Coordinate.ofLine? line).bind fun coordinate =>
      Coordinate.jarPath? coordinate repository with
  | none => return jars
  | some path =>
    if ← Files.doesExist path then
      return if jars.contains path.text then jars else jars ++ [path.text]
    else return jars

/-- The paths of a project's dependency jars, in order of first mention. -/
def dependencyJars (project : Text) : Action (List Text) := do
  let command := [← Tool.mavenCommand, "dependency:tree", "-DoutputType=text"]
  match ← (Tool.run command (← Action.config).mavenTimeout (some project)).attempt with
  | .error _ => repositoryJars
  | .ok output =>
    let repository ← repository
    (Text.lines output).foldlM (addDependency repository) []

end JarAtlas.ClassIndex
