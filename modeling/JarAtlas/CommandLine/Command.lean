import JarAtlas.CommandLine.Words

/-!
# Commands

The commands of the program, each with its options and arguments. A line without a command starts
the server.
-/

namespace JarAtlas.CommandLine

/-- The name of the program. -/
def program : Text := "classlens"

/-- What a command line asks for. -/
inductive Command
  | start
  | scan (project : Json) (force : Bool)
  | decompile (className project : Json) (useCache : Bool) (cfr : Json)
  | analyze (className project : Json) (withHierarchy withSubclasses : Bool)
  | config (output : Json)

/-- The form of a command: its name, its options and the names of its arguments. -/
structure Form where
  name : Text
  switches : List Switch
  arguments : List Text

/-- An option that takes no value. -/
def flag (names : List Text) : Switch := { names, takesValue := false }

/-- An option that takes a value. -/
def setting (names : List Text) : Switch := { names, takesValue := true }

/-- The options that stand in front of a command. -/
def commonSwitches : List Switch := [helpSwitch, flag ["-v", "--verbose"]]

/-- The commands. -/
def forms : List Form :=
  [ { name := "start", switches := [helpSwitch], arguments := [] },
    { name := "scan", switches := [helpSwitch, flag ["-f", "--force"]], arguments := ["project"] },
    { name := "decompile"
      switches := [helpSwitch, flag ["--no-cache"], setting ["--cfr"]]
      arguments := ["class_name", "project"] },
    { name := "analyze"
      switches := [helpSwitch, flag ["--hierarchy"], flag ["--subclasses"]]
      arguments := ["class_name", "project"] },
    { name := "config", switches := [helpSwitch, setting ["-o", "--output"]], arguments := [] } ]

/-- The file that `config` writes unless another is given. -/
def standardOutput : Text := "mcp-client-config.json"

/-- Names the program in front of a message. -/
def inProgram {α : Type} (name : Text) : Except Stop α → Except Stop α
  | .error (.usage message) => .error (.usage (name ++ ": error: " ++ message))
  | result => result

/-- The words in front of a command that nobody knows, the command, and the words behind it. -/
def splitCommand : List Word → Except Stop (List Text × Option (Text × List Text))
  | [] => .ok ([], none)
  | .argument name :: rest => .ok ([], some (name, rest.map Word.text))
  | .separator :: rest =>
    if rest.isEmpty then .ok (["--"], none) else .ok ([], some ("--", rest.map Word.text))
  | .option text none :: rest =>
    (splitCommand rest).map fun (unknown, command) => (text :: unknown, command)
  | .option _ (some written) :: rest =>
    match written.cluster commonSwitches with
    | .error stop => .error stop
    | .ok cluster =>
      if (cluster.flags ++ [cluster.last]).contains helpSwitch then .error .help
      else splitCommand rest

/-- The form of a command's name. -/
def formOf (name : Text) : Except Stop Form :=
  match forms.find? fun form => form.name == name with
  | some form => .ok form
  | none =>
    .error (.usage ("argument command: invalid choice: " ++ Text.quoted name ++ " (choose from " ++
      Text.join ", " (forms.map fun form => Text.quoted form.name) ++ ")"))

/-- What the words behind a command give. All of its arguments have to be there. -/
def givenTo (form : Form) (words : List Text) : Except Stop Given := do
  let words ← wordsOf form.switches words
  let given ← take form.switches form.arguments.length false false words
  let missing := form.arguments.drop given.arguments.length
  if missing.isEmpty then pure given
  else throw (.usage ("the following arguments are required: " ++ Text.join ", " missing))

/-- The command that a name and what is given to it make. -/
def commandOf (name : Text) (given : Given) : Command :=
  let argument (position : Nat) : Json := given.arguments[position]?.getD .null
  if name = ("scan" : Text) then .scan (argument 0) (given.has "-f")
  else if name = ("decompile" : Text) then
    .decompile (argument 0) (argument 1) (!given.has "--no-cache")
      ((given.option? "--cfr").getD .null)
  else if name = ("analyze" : Text) then
    .analyze (argument 0) (argument 1) (given.has "--hierarchy") (given.has "--subclasses")
  else if name = ("config" : Text) then
    .config ((given.option? "-o").getD (.text standardOutput))
  else .start

/-- The command that a line asks for. Words that nobody knows are refused last. -/
def parse (line : List Text) : Except Stop Command := do
  let words ← inProgram program (wordsOf commonSwitches line)
  let (unknown, chosen) ← inProgram program (splitCommand words)
  let (command, unknown) ←
    match chosen with
    | none => pure (Command.start, unknown)
    | some (name, words) => do
      let form ← inProgram program (formOf name)
      let given ← inProgram (program ++ ' ' :: name) (givenTo form words)
      pure (commandOf name given, unknown ++ given.others)
  if unknown.isEmpty then pure command
  else
    inProgram program
      (.error (.usage ("unrecognized arguments: " ++ Text.join " " unknown)))

end JarAtlas.CommandLine
