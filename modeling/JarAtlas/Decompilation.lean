import JarAtlas.Archive
import JarAtlas.ClassIndex.Lookup
import JarAtlas.Tool

/-!
# Decompiling classes

A class is looked up in the index, its file is extracted into a temporary directory, and the
decompiler is run on it. The project keeps the source, so that the same request is answered again
without any of this.
-/

namespace JarAtlas.Decompilation

/-- The decompiler jar: the one that the caller asks for, or else the one found on the first request
that needed one. -/
def cfrJar (requested : Json) : Action Json := do
  if requested.isTruthy then return requested
  else
    match Tool.given (← Action.memory).cfr with
    | some path => return .text path
    | none =>
      match Tool.given (← Tool.findCfr) with
      | some path =>
        Action.remember fun memory => { memory with cfr := some path }
        return .text path
      | none =>
        Action.fail (.toolFailed "cfr"
          "CFR decompiler not found; put a cfr-*.jar in ./lib or set CFR_PATH")

/-- The source of a class file. -/
def decompileFile (file : Text) (cfr : Json) : Action Text := do
  match cfr with
  | .string cfr =>
    let command := [← Tool.javaCommand, "-jar", cfr.display, file, "--silent", "true"]
    let source ← Tool.run command (← Action.config).cfrTimeout none
    if Text.isBlankText source then
      Action.fail (.toolFailed "cfr"
        "no output; the class file may be damaged or the CFR version incompatible")
    else return source
  | other => Action.fail (.wrongType (.notText 2 other.typeName))

/-- The source of a class, made anew. -/
def decompileAfresh (className : JsonString) (project : Text) (cfr : Json) : Action Text := do
  let cfr ← cfrJar cfr
  let jar ← ClassIndex.jarOf (.string className) project
  Files.withTemporary fun directory => do
    let file ← Archive.extractClass jar className directory
    decompileFile file.text cfr

/-- The source of a class. With `useCache` the kept source is answered if there is one, and a new
one is kept. -/
def decompile (className project : Text) (useCache : Bool) (cfr : Json) : Action Text := do
  let cache := ClassName.cachePath className (.ofText project)
  let isKept ← if useCache then Files.doesExist cache else pure false
  if isKept then Files.readText cache
  else
    let source ← decompileAfresh className project cfr
    if useCache then
      Files.ensureDirectories cache.parent
      Files.write cache (.text source)
    return source

/-- Sets the source of a class; a class that has one keeps its place. -/
def setSource (className source : Text) : List (Text × Text) → List (Text × Text)
  | [] => [(className, source)]
  | (other, old) :: rest =>
    if other = className then (className, source) :: rest
    else (other, old) :: setSource className source rest

/-- The sources of several classes, in order of first mention. Where a class has no source, a
comment tells why. -/
def decompileAll (classNames : List Text) (project : Text) (useCache : Bool) (cfr : Json) :
    Action (List (Text × Text)) :=
  classNames.foldlM (fun sources className => do
    match ← (decompile className project useCache cfr).attempt with
    | .ok source => return setSource className source sources
    | .error error =>
      return setSource className ("// Decompilation failed: " ++ error.message) sources) []

end JarAtlas.Decompilation
