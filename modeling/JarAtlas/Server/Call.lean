import JarAtlas.Request
import JarAtlas.Server.Tools

/-!
# Server calls

A call names a tool and gives arguments, and it is always answered with a text: the tool's report,
or the report of a failure with suggestions for that tool. Clients reach the tools through a check
of the arguments, which answers a violation without calling the tool.
-/

namespace JarAtlas.Server

/-- A required argument, which has to be more than nothing. -/
def requiredArgument (given : Arguments) (name : Text) : Except Error Json :=
  match (Json.field? name given).filter Json.isTruthy with
  | some value => .ok value
  | none => .error (.argumentMissing name)

/-- The truth of an argument. -/
def flagArgument (given : Arguments) (name : Text) (standard : Bool) : Bool :=
  ((Json.field? name given).map Json.isTruthy).getD standard

/-- Builds a project's index if it has none. -/
def ensureIndex (project : Json) : Action Unit := do
  let project ← Action.ofExcept (Request.projectOf project)
  unless ← ClassIndex.doesExist project do
    let _ ← ClassIndex.scan project false

/-- The report of a tool. -/
def run (given : Arguments) : Tool → Action Text
  | .scanDependencies => do
    let project ← Action.ofExcept (requiredArgument given "projectPath")
    let summary ← Request.scan project (flagArgument given "forceRefresh" false)
    Action.ofExcept (Report.scan summary)
  | .decompileClass => do
    let className ← Action.ofExcept (requiredArgument given "className")
    let project ← Action.ofExcept (requiredArgument given "projectPath")
    ensureIndex project
    let cfr := (Json.field? "cfrPath" given).getD .null
    let source ← Request.decompile className project (flagArgument given "useCache" true) cfr
    return Report.decompiled className.display source
  | .analyzeClass => do
    let className ← Action.ofExcept (requiredArgument given "className")
    let project ← Action.ofExcept (requiredArgument given "projectPath")
    ensureIndex project
    return Report.analysis (← Request.analyze className project)

/-- The answer to a call. -/
def call (toolName : Text) (given : Arguments) : Action Text := do
  match Tool.ofName? toolName with
  | none =>
    return Report.failure (Error.unknownTool toolName).message Report.defaultSuggestions
  | some tool =>
    match ← (run given tool).attempt with
    | .ok report => return report
    | .error error => return Report.failure error.message tool.suggestions

/-- What a client is answered. -/
structure Reply where
  isError : Bool
  text : Text
deriving DecidableEq, Repr

/-- The reply to a client's call. -/
def reply (toolName : Text) (given : Arguments) : Action Reply := do
  match (Tool.ofName? toolName).bind fun tool => violation? tool given with
  | some violation => return { isError := true, text := "Input validation error: " ++ violation }
  | none => return { isError := false, text := ← call toolName given }

end JarAtlas.Server
