import JarAtlas.ClassIndex.Lookup
import JarAtlas.Tool

/-!
# Analysing classes

A class is looked up in the index, disassembled, and its listing is read. Ancestors and subclasses
are found by analysing one class after the other.
-/

namespace JarAtlas.Analysis

/-- The disassembler's command, looked for once. -/
def disassembler : Action Text := do
  match (← Action.memory).javap with
  | some command => return command
  | none =>
    let command ← Tool.javapCommand
    Action.remember fun memory => { memory with javap := some command }
    return command

/-- The command that lists a class in a jar, but for the class, which stands at its end. -/
def listingCommand (jar : Text) : Action (List Text) := do
  let javap ← disassembler
  let visibility : List Text := if (← Action.config).showPrivate then ["-p"] else []
  let place : List Text := ["-cp", jar]
  return javap :: "-v" :: visibility ++ place

/-- The listing of a class in a jar. -/
def disassemble (className jar : Text) : Action Text := do
  let command := (← listingCommand jar) ++ [className]
  let output ← Tool.run command (← Action.config).javapTimeout none
  if Text.isBlankText output then
    Action.fail (.toolFailed "javap" ("no output for " ++ className))
  else return output

/-- The class of a name, as its listing describes it. What is no text cannot be part of a command.
-/
def analyze (className : Json) (project : Text) : Action ClassSummary := do
  let jar ← ClassIndex.jarOf className project
  match className with
  | .text name =>
    let listing ← disassemble name jar.display
    Action.ofExcept ((Listing.parse (some listing) (some name)).mapError .listing)
  | .string (.broken codes) => Action.fail (.ofBroken codes)
  | other =>
    let command ← listingCommand jar.display
    Action.fail (.wrongType (.notText command.length other.typeName))

/-- Puts the ancestors of `current` in front of `chain`, which `current` begins. An ancestor that is
in the chain already ends it, and so does one that cannot be analysed. -/
def ancestors (project : Text) : Nat → List Text → ClassSummary → Action (List Text)
  | 0, chain, _ => return chain
  | fuel + 1, chain, current => do
    match current.superclass.filter (!·.isEmpty) with
    | none => return chain
    | some superclass =>
      if chain.contains superclass then return chain
      else
        match ← (analyze (.text superclass) project).attempt with
        | .ok next => ancestors project fuel (superclass :: chain) next
        | .error error =>
          if error.isReported then return superclass :: chain else Action.fail error

/-- The ancestors of a class from the first one down to the class itself. Each step but the last
analyses one more class of the index. -/
def hierarchy (className project : Text) : Action (List Text) := do
  let summary ← analyze (.text className) project
  let names ← ClassIndex.classNames project
  ancestors project (names.length + 1) [className] summary

/-- A class can be analysed and its superclass is `className`. -/
def directlyExtends (className project : Text) (candidate : Json) : Action Bool := do
  match ← (analyze candidate project).attempt with
  | .ok summary => return summary.superclass == some className
  | .error _ => return false

/-- The direct subclasses of a class among `candidates`, where the analyses end in the order that
`completed` gives. -/
def subclassesAmong (className project : Text) (candidates completed : List Json) :
    Action (List Text) := do
  let found ← completed.filterM (directlyExtends className project)
  return (candidates.filterMap Json.text?).filter (found.filterMap Json.text?).contains

/-- The indexed classes whose direct superclass is the class, in the order of the index. -/
def subclasses (className project : Text) : Action (List Text) := do
  let candidates := (← ClassIndex.classNames project).filter (·.text? != some className)
  if (← Action.config).maxWorkers ≤ 0 then Action.fail .tooFewWorkers
  else subclassesAmong className project candidates candidates

end JarAtlas.Analysis
