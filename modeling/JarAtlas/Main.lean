import JarAtlas.CommandLine.Run
import JarAtlas.Text.Utf8
import Std.Time.Format

/-!
# The program

The command line at work on the files below the working directory. They are read before the command
runs, and what the command has changed is written afterwards. No external tool is launched from here
and no archive is unpacked: every launch is answered like that of a command which is not there, and
every file is a text.
-/

namespace JarAtlas.Program

/-- The variables of the environment that commands look at. -/
def variableNames : List String :=
  ["HOME", "JAVA_HOME", "MAVEN_HOME", "MAVEN_REPO", "CFR_PATH", "CLASSPATH"]

/-- The variables that are set, with their values. -/
def readEnvironment : IO Environment :=
  variableNames.filterMapM fun name => do
    return (← IO.getEnv name).map fun value => (name.toList, value.toList)

/-- The present time in the form that an index records. -/
def presentTime : IO Text := do
  let now ← Std.Time.Timestamp.now
  let civil := Std.Time.PlainDateTime.ofWallTime (.ofDuration now.toDurationSinceUnixEpoch)
  return (toString civil).toList.take 26 ++ "+00:00"

/-- The path of a place as the system takes it. -/
def systemPath (place : Place) : String := String.ofList (Files.pathOf place).text

/-- A file whose text commands read. Of any other file they see only that it is there. -/
def isRead (name : Text) : Bool := name == ClassIndex.fileName || Text.endsWith ".java" name

/-- A directory and all that stands below it. Links to directories are not followed. -/
partial def nodesAt (place : Place) : IO (List (Place × Node)) := do
  let directory ← IO.FS.realPath (systemPath place)
  let mut nodes := [(place, Node.directory)]
  for entry in ← directory.readDir do
    let name := entry.fileName.toList
    let place := place ++ [name]
    if (← entry.path.symlinkMetadata).type == .dir then nodes := nodes ++ (← nodesAt place)
    else
      let value ←
        if isRead name then pure (Text.decode (← IO.FS.readBinFile entry.path).toList) else pure []
      nodes := nodes ++ [(place, .file (.text value) 0)]
  return nodes

/-- The files below a directory, and the directories above it. -/
def readFiles (place : Place) : IO FileTree := do
  let above := (List.range place.length).map fun length => (place.take length, Node.directory)
  return ⟨above ++ (← nodesAt place)⟩

/-- Takes away the files that are gone, and writes what is new: a written file carries a time. -/
def writeFiles (before after : FileTree) : IO Unit := do
  for (place, _) in before.nodes do
    if (after.node? place).isNone then IO.FS.removeFile (systemPath place)
  for (place, node) in after.nodes do
    match node with
    | .directory => if (before.node? place).isNone then IO.FS.createDirAll (systemPath place)
    | .file (.text value) stamp =>
      if 0 < stamp then IO.FS.writeFile (systemPath place) (String.ofList value)
    | .file (.archive _) _ => pure ()

/-- The machine as far as commands can reach it. -/
def readHost (workingDirectory : Place) : IO Host := do
  return {
    workingDirectory
    temporaryDirectory := ["jar-atlas".toList]
    programRoot := (Path.ofText (← IO.appPath).toString.toList).parent.parent.segments
    environment := ← readEnvironment
    isWindows := false
    commands := []
    time := ← presentTime
    answer := fun launch => .notStarted 2 "No such file or directory" launch.command.head? }

/-- Prints an error, if there is one. -/
def printError (message : Text) : IO Unit :=
  unless message.isEmpty do IO.eprintln (String.ofList (Text.trimEnd message))

/-- Runs a command line and gives the exit status. -/
def run (line : List String) : IO UInt32 := do
  let workingDirectory := (Path.ofText (← IO.currentDir).toString.toList).segments
  let files ← readFiles workingDirectory
  let setting : Setting := { host := ← readHost workingDirectory, config := .standard }
  let session : Session := { files, clock := 1, launches := [], memory := .empty }
  let (result, session) := CommandLine.run (line.map String.toList) setting session
  writeFiles files session.files
  match result with
  | .ok outcome =>
    IO.print (String.ofList outcome.output)
    printError outcome.errors
    return outcome.status.toUInt32
  | .error error =>
    printError error.message
    return 1

end JarAtlas.Program

/-- Runs the command line. -/
def main (line : List String) : IO UInt32 := JarAtlas.Program.run line
