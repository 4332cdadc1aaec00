import JarAtlas.CommandLine.Command
import JarAtlas.Request

/-!
# Running a command line

A command works with services of its own, configured by the environment. It prints what it has
found; an error that is part of the service becomes one line of the error output and an exit status
of one, and a line that does not fit becomes its message and a status of two. Any other error is the
caller's.
-/

namespace JarAtlas.CommandLine

/-- How a command line ends. -/
structure Outcome where
  status : Nat
  output : Text
  errors : Text
  /-- The server was started. -/
  served : Bool
deriving DecidableEq, Repr

/-- Prints the parts in order until one fails, each with a line break behind it. -/
def printParts : List (Action Text) → Action (Text × Option Error)
  | [] => return ([], none)
  | part :: others => do
    match ← part.attempt with
    | .error error => return ([], some error)
    | .ok text =>
      let (rest, failure) ← printParts others
      return (text ++ '\n' :: rest, failure)

/-- Prints the parts; `activity` tells what fails if one does. -/
def report (activity : Text) (parts : List (Action Text)) : Action Outcome := do
  match ← printParts parts with
  | (output, none) => return { status := 0, output, errors := [], served := false }
  | (output, some error) =>
    if error.isReported then
      let errors := "Error " ++ activity ++ ": " ++ error.message ++ "\n"
      return { status := 1, output, errors, served := false }
    else Action.fail error

/-- The ancestors of a class on a line. -/
def hierarchyPart (className project : Text) : Action Text := do
  return "Hierarchy: " ++ Text.join " -> " (← Analysis.hierarchy className project)

/-- The direct subclasses of a class, each on a line under a heading with their number. -/
def subclassesPart (className project : Text) : Action Text := do
  let names ← Analysis.subclasses className project
  let heading := "Direct subclasses (" ++ Text.ofNat names.length ++ "):"
  return Report.unlines (heading :: names.map fun name => "  - " ++ name)

/-- The configuration by which a client launches the server. -/
def clientConfig (environment : Environment) : Json :=
  let setting (name : Text) : JsonString × Json := (name, .text ((environment.get? name).getD []))
  .object
    [ ("mcpServers", .object
        [ ("java-class-analyzer", .object
            [ ("command", .text program),
              ("args", .list [.text "start"]),
              ("env", .object
                [setting "MAVEN_REPO", setting "JAVA_HOME", setting "CFR_PATH"]) ]) ]) ]

/-- Writes the client configuration. -/
def writeClientConfig (output : Json) : Action Text := do
  let path := Path.ofText (← Action.ofExcept (Request.projectOf output))
  let environment := (← Action.host).environment
  Files.write path (.text ((clientConfig environment).write ++ "\n"))
  return "MCP client configuration written to " ++ path.text

/-- Runs a command. -/
def runCommand : Command → Action Outcome
  | .start => return { status := 0, output := [], errors := [], served := true }
  | .scan project force =>
    report ("scanning " ++ project.display)
      [do Action.ofExcept (Report.scan (← Request.scan project force))]
  | .decompile className project useCache cfr =>
    report ("decompiling " ++ className.display)
      [do
        let source ← Request.decompile className project useCache cfr
        return Report.decompiled className.display source]
  | .analyze className project withHierarchy withSubclasses =>
    let parts :=
      (if withHierarchy then [hierarchyPart className.display project.display] else []) ++
        if withSubclasses then [subclassesPart className.display project.display] else []
    report ("analyzing " ++ className.display)
      ((do return Report.analysis (← Request.analyze className project)) :: parts)
  | .config output => do
    return { status := 0, output := (← writeClientConfig output) ++ "\n", errors := [],
             served := false }

/-- Runs a command line. The services that were there before remember what they remembered. -/
def run (line : List Text) : Action Outcome := do
  match parse line with
  | .error .help => return { status := 0, output := [], errors := [], served := false }
  | .error (.usage message) =>
    return { status := 2, output := [], errors := message, served := false }
  | .ok command =>
    let host ← Action.host
    let memory ← Action.memory
    Action.remember fun _ => .empty
    let setting : Setting := { host, config := .ofEnvironment host.environment }
    (Action.withSetting setting (runCommand command)).andThen fun session =>
      { session with memory }

end JarAtlas.CommandLine
