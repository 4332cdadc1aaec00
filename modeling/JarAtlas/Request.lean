import JarAtlas.Analysis
import JarAtlas.ClassIndex.Scan
import JarAtlas.Decompilation

/-!
# Requests

The operations that both front ends offer, on arguments as callers give them. A caller may give a
value of any type; one of the wrong type is found out where it is first put to use.
-/

namespace JarAtlas.Request

/-- A project, which goes by a string. -/
def projectOf : Json → Except Error Text
  | .string project => .ok project.display
  | other => .error (.wrongType (.notPath other.typeName))

/-- Scans a project. -/
def scan (project : Json) (force : Bool) : Action ScanSummary := do
  ClassIndex.scan (← Action.ofExcept (projectOf project)) force

/-- The source of a class. There is no file to keep the source of a class whose name is broken. -/
def decompile (className project : Json) (useCache : Bool) (cfr : Json) : Action Text := do
  match className with
  | .string className =>
    let project ← Action.ofExcept (projectOf project)
    match className with
    | .text name => Decompilation.decompile name project useCache cfr
    | .broken _ => Decompilation.decompileAfresh className project cfr
  | other => Action.fail (.wrongType (.noMember other.typeName "rpartition"))

/-- The analysis of a class. -/
def analyze (className project : Json) : Action ClassSummary := do
  Analysis.analyze className (← Action.ofExcept (projectOf project))

end JarAtlas.Request
