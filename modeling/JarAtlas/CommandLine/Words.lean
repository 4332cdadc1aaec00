import JarAtlas.Json.Basic
import JarAtlas.Text.Digits

/-!
# The words of a command line

How a command line is taken apart into options and arguments. An option goes by its names, by the
beginning of a long name that no other option shares, or, where it has a one-letter name, together
with others behind one dash. Its value stands behind an equals sign, directly behind a one-letter
name, or in the next word. A double dash makes arguments of all words behind it.
-/

namespace JarAtlas.CommandLine

/-- Why a command line is not run. -/
inductive Stop
  /-- The user asks for help. -/
  | help
  /-- The line does not fit; the message is for the user. -/
  | usage (message : Text)
deriving DecidableEq, Repr

/-- An option. It is known by its first name. -/
structure Switch where
  names : List Text
  takesValue : Bool
deriving DecidableEq, Repr

/-- The name that an option is known by. -/
def Switch.key (switch : Switch) : Text := switch.names.head?.getD []

/-- What is wrong with an option. -/
def Switch.complaint (switch : Switch) (reason : Text) : Stop :=
  .usage ("argument " ++ Text.join "/" switch.names ++ ": " ++ reason)

/-- The option that asks for help. Every command has it. -/
def helpSwitch : Switch := { names := ["-h", "--help"], takesValue := false }

/-- An option as a word writes it: the name that is meant, and the value in the same word. -/
structure Written where
  switch : Switch
  name : Text
  value : Option Text
deriving DecidableEq, Repr

/-- A word of a command line. -/
inductive Word
  | argument (text : Text)
  | option (text : Text) (written : Option Written)
  | separator
deriving DecidableEq, Repr

/-- The text of a word. -/
def Word.text : Word → Text
  | argument text => text
  | option text _ => text
  | separator => "--"

/-- All names of options, each with its option. -/
def namesOf (switches : List Switch) : List (Text × Switch) :=
  switches.flatMap fun switch => switch.names.map (·, switch)

/-- The option of exactly this name. -/
def switchNamed? (switches : List Switch) (name : Text) : Option Switch :=
  ((namesOf switches).find? fun (other, _) => other == name).map Prod.snd

/-- A word that writes a negative number. -/
def isNegativeNumber (word : Text) : Bool :=
  match word with
  | '-' :: rest =>
    let rest := if Text.endsWith "\n" rest then rest.dropLast else rest
    let (whole, behind) := rest.span Text.isDigit
    match behind with
    | [] => !whole.isEmpty
    | '.' :: fraction => !fraction.isEmpty && fraction.all Text.isDigit
    | _ => false
  | _ => false

/-- What a word behind two dashes may mean: every option with a name that begins like it. -/
def longMeanings (switches : List Switch) (word : Text) : List Written :=
  let (start, value) :=
    match Text.cutFirst '=' word with
    | some (start, value) => (start, some value)
    | none => (word, none)
  (namesOf switches).filterMap fun (name, switch) =>
    if Text.beginsWith start name then some { switch, name, value } else none

/-- What a word behind one dash may mean: the option of its first letter, with the rest for a value,
and every option with a name that begins like the word. -/
def shortMeanings (switches : List Switch) (word : Text) : List Written :=
  (namesOf switches).filterMap fun (name, switch) =>
    if name == word.take 2 then some { switch, name, value := some (word.drop 2) }
    else if Text.beginsWith word name then some { switch, name, value := none }
    else none

/-- What a word is that is no option by name. -/
def meaningOf (switches : List Switch) (word : Text) : Except Stop Word :=
  let meanings :=
    if Text.beginsWith "--" word then longMeanings switches word else shortMeanings switches word
  match meanings with
  | [written] => .ok (.option word (some written))
  | [] =>
    if isNegativeNumber word || word.contains ' ' then .ok (.argument word)
    else .ok (.option word none)
  | several =>
    .error (.usage ("ambiguous option: " ++ word ++ " could match " ++
      Text.join ", " (several.map Written.name)))

/-- What a word is in front of any separator. -/
def wordOf (switches : List Switch) (word : Text) : Except Stop Word :=
  if !Text.beginsWith "-" word then .ok (.argument word)
  else
    match switchNamed? switches word with
    | some switch => .ok (.option word (some { switch, name := word, value := none }))
    | none =>
      if word.length = 1 then .ok (.argument word)
      else
        let named := do
          let (name, value) ← Text.cutFirst '=' word
          let switch ← switchNamed? switches name
          pure { switch, name, value := some value : Written }
        match named with
        | some written => .ok (.option word (some written))
        | none => meaningOf switches word

/-- What the words of a command line are. -/
def wordsOf (switches : List Switch) : List Text → Except Stop (List Word)
  | [] => .ok []
  | word :: others =>
    if word = ("--" : Text) then .ok (.separator :: others.map .argument)
    else do
      let first ← wordOf switches word
      let rest ← wordsOf switches others
      pure (first :: rest)

/-- The options that a value behind a one-letter name writes: those that take no value, the last
option, and the value of that. -/
structure Cluster where
  flags : List Switch
  last : Switch
  value : Option Text
deriving DecidableEq, Repr

/-- Reads the text behind an option as its value, or else, behind a one-letter name, as further
one-letter names. -/
def clusterOf (switches : List Switch) (switch : Switch) (isShort : Bool) :
    Text → Except Stop Cluster
  | [] =>
    if switch.takesValue then .ok { flags := [], last := switch, value := some [] }
    else .error (switch.complaint ("ignored explicit argument " ++ Text.quoted []))
  | letter :: rest =>
    if switch.takesValue then .ok { flags := [], last := switch, value := some (letter :: rest) }
    else
      match isShort, switchNamed? switches ['-', letter] with
      | true, some next =>
        if rest.isEmpty then .ok { flags := [switch], last := next, value := none }
        else
          (clusterOf switches next true rest).map fun cluster =>
            { cluster with flags := switch :: cluster.flags }
      | _, _ =>
        .error (switch.complaint ("ignored explicit argument " ++ Text.quoted (letter :: rest)))

/-- The options that a word writes. -/
def Written.cluster (switches : List Switch) (written : Written) : Except Stop Cluster :=
  match written.value with
  | none => .ok { flags := [], last := written.switch, value := none }
  | some value =>
    clusterOf switches written.switch (!Text.beginsWith "--" written.name) value

/-- What a command line gives: the options in order with their values, the arguments, and the words
that are neither. -/
structure Given where
  options : List (Text × Json)
  arguments : List Json
  others : List Text

/-- A value or an argument as it is taken over. One double dash is taken out of the words that make
it up; a value that was nothing else is an empty list. -/
def valueOf (text : Text) : Json := if text = ("--" : Text) then .list [] else .text text

/-- Puts options in front of what the words behind give. Help is given before those are looked at.
-/
def Given.withOptions (cluster : Cluster) (value : Json) (behind : Unit → Except Stop Given) :
    Except Stop Given :=
  if (cluster.flags ++ [cluster.last]).contains helpSwitch then .error .help
  else
    (behind ()).map fun given =>
      { given with
        options := cluster.flags.map (fun flag => (flag.key, Json.bool true)) ++
          (cluster.last.key, value) :: given.options }

/-- Takes words apart, of which `wanted` are to be arguments. A separator belongs to the argument in
front of it or else to the one behind it; `behindArgument` and `behindSeparator` tell that such a
one stands directly in front of the words. -/
def take (switches : List Switch) (wanted : Nat) (behindArgument behindSeparator : Bool) :
    List Word → Except Stop Given
  | [] => .ok { options := [], arguments := [], others := [] }
  | .argument text :: rest =>
    if wanted = 0 then
      (take switches 0 false false rest).map fun given =>
        { given with others := text :: given.others }
    else
      (take switches (wanted - 1) true false rest).map fun given =>
        { given with
          arguments := (if behindSeparator then .text text else valueOf text) :: given.arguments }
  | .separator :: rest =>
    if behindArgument then take switches wanted false false rest
    else if wanted = 0 ∨ rest.isEmpty then
      (take switches wanted false false rest).map fun given =>
        { given with others := "--" :: given.others }
    else take switches wanted false true rest
  | .option text none :: rest =>
    (take switches wanted false false rest).map fun given =>
      { given with others := text :: given.others }
  | .option _ (some written) :: rest =>
    match written.cluster switches with
    | .error stop => .error stop
    | .ok cluster =>
      match cluster.last.takesValue, cluster.value, rest with
      | true, none, .argument text :: rest =>
        Given.withOptions cluster (valueOf text) fun () => take switches wanted false false rest
      | true, none, _ => .error (cluster.last.complaint "expected one argument")
      | true, some text, rest =>
        Given.withOptions cluster (valueOf text) fun () => take switches wanted false false rest
      | false, _, rest =>
        Given.withOptions cluster (.bool true) fun () => take switches wanted false false rest

/-- The value of an option: the last one given. -/
def Given.option? (given : Given) (key : Text) : Option Json :=
  (given.options.reverse.find? fun (other, _) => other == key).map Prod.snd

/-- An option is given. -/
def Given.has (given : Given) (key : Text) : Bool := (given.option? key).isSome

end JarAtlas.CommandLine
