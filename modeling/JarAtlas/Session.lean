import JarAtlas.Config
import JarAtlas.Error

/-!
# Sessions

What operations run in. The host and the configuration stay the same during an operation: among them
is the answer of every external tool, as a function of how it is launched. The session is what an
operation changes: the files, the log of launches, and what the services remember between
operations. An operation either answers or fails, and the session keeps what it had changed in both
cases.
-/

namespace JarAtlas

/-- The launch of an external tool: the command and its arguments, the directory it runs in if not
the working directory, the seconds it may take, and what is in the file that it is given to read. -/
structure Launch where
  command : List Text
  directory : Option Text
  timeout : Binary64
  input : Option Text
deriving DecidableEq, Repr

/-- What a launch comes to. -/
inductive ToolResult
  /-- The tool ended with a status and has written to its two outputs. -/
  | ended (status : Int) (output errors : Text)
  /-- The tool was stopped when its time was over. -/
  | timedOut
  /-- The operating system did not start the tool. -/
  | notStarted (code : Int) (reason : Text) (file : Option Text)
deriving DecidableEq, Repr

/-- The machine that operations run on. -/
structure Host where
  workingDirectory : Place
  /-- Where temporary files are made; nothing else is kept there. -/
  temporaryDirectory : Place
  /-- The directory above the program's own, where it looks for tools that came with it. -/
  programRoot : Place
  environment : Environment
  isWindows : Bool
  /-- The commands that can be launched by name alone. -/
  commands : List Text
  /-- The present time, as an index records it. -/
  time : Text
  answer : Launch → ToolResult

/-- The indexed classes with their jars, in the order of the index. A class goes by what the index
names it, which need not be a text. -/
abbrev LookupTable := List (Json × Json)

/-- What the services remember: the lookup table of each index file with the time of the file it was
read from, the disassembler's command, and the path of the decompiler. -/
structure Memory where
  tables : List (Text × Int × LookupTable)
  javap : Option Text
  cfr : Option Text

/-- Nothing remembered. -/
def Memory.empty : Memory := { tables := [], javap := none, cfr := none }

/-- What operations change. -/
structure Session where
  files : FileTree
  /-- The time that the next written file carries. -/
  clock : Int
  launches : List Launch
  memory : Memory

/-- What stays the same during an operation. -/
structure Setting where
  host : Host
  config : Config

/-- An operation. -/
abbrev Action := ReaderT Setting (ExceptT Error (StateM Session))

namespace Action

/-- Fails. -/
def fail {α : Type} (error : Error) : Action α := throw error

/-- The answer of an operation that has been computed. -/
def ofExcept {α : Type} : Except Error α → Action α
  | .ok answer => pure answer
  | .error error => fail error

/-- The answer of an operation, or its error. -/
def attempt {α : Type} (action : Action α) : Action (Except Error α) := fun setting session =>
  match action setting session with
  | (result, session) => (.ok result, session)

/-- Runs an operation and leaves the session as `restore` changes it, whether it answers or fails.
-/
def andThen {α : Type} (action : Action α) (restore : Session → Session) : Action α :=
  fun setting session =>
    match action setting session with
    | (result, session) => (result, restore session)

/-- Runs an operation in a setting of its own. -/
def withSetting {α : Type} (setting : Setting) (action : Action α) : Action α := fun _ session =>
  action setting session

/-- What the services remember. -/
def memory : Action Memory := do return (← get).memory

/-- Changes what the services remember. -/
def remember (change : Memory → Memory) : Action Unit :=
  modify fun session => { session with memory := change session.memory }

/-- The configuration. -/
def config : Action Config := do return (← read).config

/-- The host. -/
def host : Action Host := do return (← read).host

end Action

end JarAtlas
