import JarAtlas.Files

/-!
# External tools

Launching the tools and finding them: the Java launcher, the disassembler, Maven, and the jar of the
decompiler.
-/

namespace JarAtlas.Tool

/-- What is in the file that a command is given to read: with `-jar` in the second place, the file
in the fourth. -/
def inputOf (command : List Text) : Action (Option Text) := do
  match command with
  | _ :: flag :: _ :: file :: _ =>
    if flag = ("-jar" : Text) then
      match ← (Files.read file).attempt with
      | .ok (.text value) => return some value
      | _ => return none
    else return none
  | _ => return none

/-- Launches a tool and logs the launch. -/
def launch (command : List Text) (timeout : Binary64) (directory : Option Text) :
    Action ToolResult := do
  let input ← inputOf command
  let launch : Launch := { command, directory, timeout, input }
  modify fun session => { session with launches := session.launches ++ [launch] }
  return (← Action.host).answer launch

/-- The output that a result holds. A failure is told by the tool's own message, its errors or else
its output, and by its status if it says nothing. -/
def outputOf (tool : Text) (timeout : Binary64) : ToolResult → Except Error Text
  | .ended status output errors =>
    if status = 0 then .ok output
    else
      let message := Text.trim (if errors.isEmpty then output else errors)
      .error (.toolFailed tool
        (if message.isEmpty then ("exit status " : Text) ++ Text.ofInt status else message))
  | .timedOut => .error (.toolFailed tool ("timed out after " ++ timeout.general ++ "s"))
  | .notStarted code reason file =>
    .error (.toolFailed tool (systemMessage code reason (file.map JsonString.text)))

/-- The output of a tool. The tool goes by the last segment of its path. -/
def run (command : List Text) (timeout : Binary64) (directory : Option Text) : Action Text := do
  let tool := (Path.ofText (command.head?.getD [])).name
  Action.ofExcept (outputOf tool timeout (← launch command timeout directory))

/-- The file name of a program. -/
def executable (host : Host) (name : Text) : Text := if host.isWindows then name ++ ".exe" else name

/-- A setting that is more than nothing. -/
def given (value : Option Text) : Option Text := value.filter (!·.isEmpty)

/-- The value of the first property line that gives a Java home. -/
def javaHomeIn (properties : Text) : Option Text :=
  (Text.pieces '\n' properties).findSome? fun line =>
    if Text.mentions "java.home" line then
      (Text.cutFirst '=' line).map fun (_, value) => Text.trim value
    else none

/-- The home of the Java launcher, as the launcher itself tells it. -/
def discoverJavaHome : Action (Option Text) := do
  match ← launch ["java", "-XshowSettings:properties", "-version"] (.ofInt 10) none with
  | .ended _ _ errors => return javaHomeIn errors
  | _ => return none

/-- The program of a name in the directory for programs of a home. -/
def programIn (home : Path) (program : Text) : Path := (home.join "bin").join program

/-- The command of the Java launcher. -/
def javaCommand : Action Text := do
  match given (← Action.config).javaHome with
  | some home => return (programIn (.ofText home) (executable (← Action.host) "java")).text
  | none => return "java"

/-- The command of the disassembler: of the configured Java home, or by name alone, or beside the
launcher, whose home may be a runtime inside the development kit's. -/
def javapCommand : Action Text := do
  let host ← Action.host
  let program := executable host "javap"
  match given (← Action.config).javaHome with
  | some home => return (programIn (.ofText home) program).text
  | none =>
    if host.commands.contains "javap" then return "javap"
    else
      match given (← discoverJavaHome) with
      | none => return "javap"
      | some home =>
        let home := Path.ofText home
        if ← Files.doesExist (programIn home program) then return (programIn home program).text
        else if ← Files.doesExist (programIn home.parent program) then
          return (programIn home.parent program).text
        else return "javap"

/-- The command of Maven. -/
def mavenCommand : Action Text := do
  let program : Text := if (← Action.host).isWindows then "mvn.cmd" else "mvn"
  match given (← Action.config).mavenHome with
  | some home => return (programIn (.ofText home) program).text
  | none => return program

/-- The name of a decompiler jar: no line break between its fixed beginning and its ending, and at
most one behind. -/
def isCfrJar (name : Text) : Bool :=
  let name := if Text.endsWith "\n" name then name.dropLast else name
  match Text.after? "cfr-" name with
  | none => false
  | some rest => Text.endsWith ".jar" rest && !(Text.dropEnding ".jar" rest).contains '\n'

/-- The first decompiler jar of a directory, by name. -/
def cfrIn (directory : Path) : Action (Option Path) := do
  if ← Files.isDirectory directory then
    return ((← Files.namesIn directory).find? isCfrJar).map directory.join
  else return none

/-- The first decompiler jar of the directories in order. -/
def cfrInAny : List Path → Action (Option Path)
  | [] => return none
  | directory :: others => do
    match ← cfrIn directory with
    | some path => return some path
    | none => cfrInAny others

/-- The directories that are searched for a decompiler jar. -/
def cfrDirectories (setting : Setting) : List Path :=
  let here := Files.pathOf setting.host.workingDirectory
  let program := Files.pathOf setting.host.programRoot
  [here.join "lib", here, program.join "lib", program] ++
    setting.config.extraCfrDirectories.map Path.ofText

/-- The path of the decompiler jar: the configured one, or the first in the searched directories, or
the first on the class path. -/
def findCfr : Action (Option Text) := do
  let setting ← read
  match given setting.config.cfrPath with
  | some path => return some path
  | none =>
    match ← cfrInAny (cfrDirectories setting) with
    | some path => return some path.text
    | none =>
      return (Text.pieces ':' setting.config.classpath).find? fun entry =>
        Text.mentions "cfr" entry && Text.endsWith ".jar" entry

end JarAtlas.Tool
