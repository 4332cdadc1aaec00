import JarAtlas.Report

/-!
# The offered tools

The three tools of the server, described for its clients: what each does and which arguments it
takes. The description is also what arguments are checked against.
-/

namespace JarAtlas.Server

/-- The name of the server. -/
def name : Text := "java-class-analyzer"

/-- The types of arguments. -/
inductive ArgumentType
  | text
  | flag
deriving DecidableEq, Repr

namespace ArgumentType

/-- The name of a type in a schema. -/
def word : ArgumentType → Text
  | text => "string"
  | flag => "boolean"

/-- A value is of a type. -/
def admits : ArgumentType → Json → Bool
  | text, .string _ => true
  | flag, .bool _ => true
  | _, _ => false

end ArgumentType

/-- An argument of a tool. -/
structure Argument where
  name : Text
  type : ArgumentType
  description : Text
  standard : Option Bool
  isRequired : Bool

/-- A tool. -/
inductive Tool
  | scanDependencies
  | decompileClass
  | analyzeClass
deriving DecidableEq, Repr

namespace Tool

/-- All tools, in the order in which they are offered. -/
def all : List Tool := [scanDependencies, decompileClass, analyzeClass]

/-- The name of a tool. -/
def name : Tool → Text
  | scanDependencies => "scan_dependencies"
  | decompileClass => "decompile_class"
  | analyzeClass => "analyze_class"

/-- The tool of a name. -/
def ofName? (name : Text) : Option Tool := all.find? fun tool => tool.name == name

/-- What a tool does. -/
def description : Tool → Text
  | scanDependencies =>
    "Scan all dependencies of a Maven project and build a class-name to jar index"
  | decompileClass => "Decompile a class from the project's dependencies to Java source"
  | analyzeClass =>
    "Analyze the structure of a class: package, modifiers, superclass, interfaces, " ++
      "fields and methods"

/-- The project argument, which every tool takes. -/
def projectArgument : Argument :=
  { name := "projectPath", type := .text, description := "Path to the Maven project root",
    standard := none, isRequired := true }

/-- The arguments of a tool. -/
def arguments : Tool → List Argument
  | scanDependencies =>
    [ projectArgument,
      { name := "forceRefresh", type := .flag,
        description := "Rebuild the index even if one exists",
        standard := some false, isRequired := false } ]
  | decompileClass =>
    [ { name := "className", type := .text,
        description := "Fully qualified class name, e.g. com.example.QueryBizOrderDO",
        standard := none, isRequired := true },
      projectArgument,
      { name := "useCache", type := .flag,
        description := "Reuse a previously decompiled source",
        standard := some true, isRequired := false },
      { name := "cfrPath", type := .text,
        description := "Path to the CFR jar; discovered automatically when omitted",
        standard := none, isRequired := false } ]
  | analyzeClass =>
    [ { name := "className", type := .text, description := "Fully qualified class name",
        standard := none, isRequired := true },
      projectArgument ]

/-- What is suggested when a tool fails. -/
def suggestions : Tool → List Text
  | scanDependencies =>
    [ "Check that projectPath points at a Maven project with a pom.xml",
      "Make sure mvn is installed or MAVEN_HOME is set",
      "See the server log for details" ]
  | decompileClass =>
    [ "Run scan_dependencies first to build the class index",
      "Check that the CFR decompiler is installed or CFR_PATH is set",
      "Verify the class name is fully qualified" ]
  | analyzeClass =>
    [ "Run scan_dependencies first to build the class index",
      "Check that a JDK with javap is installed or JAVA_HOME is set",
      "Verify the class name is fully qualified" ]

end Tool

/-- The schema of an argument. -/
def Argument.schema (argument : Argument) : Json :=
  let fixed : List (JsonString × Json) :=
    [("type", .text argument.type.word), ("description", .text argument.description)]
  let standard : List (JsonString × Json) :=
    argument.standard.toList.map fun value => ("default", .bool value)
  .object (fixed ++ standard)

/-- The schema of a tool's arguments. -/
def Tool.schema (tool : Tool) : Json :=
  .object
    [ ("type", .text "object"),
      ("properties",
        .object (tool.arguments.map fun argument => (argument.name, argument.schema))),
      ("required",
        .list ((tool.arguments.filter Argument.isRequired).map fun argument =>
          .text argument.name)) ]

/-- The arguments of a call. -/
abbrev Arguments := List (JsonString × Json)

/-- The first required argument that is missing. -/
def missing? (tool : Tool) (given : Arguments) : Option Argument :=
  tool.arguments.find? fun argument =>
    argument.isRequired && (Json.field? argument.name given).isNone

/-- The given values of the wrong type, each with its argument. -/
def mistyped (tool : Tool) (given : Arguments) : List (Argument × Json) :=
  tool.arguments.filterMap fun argument =>
    match Json.field? argument.name given with
    | some value => if argument.type.admits value then none else some (argument, value)
    | none => none

/-- Of several values of the wrong type, the one whose argument's name comes last in order. -/
def lastByName : List (Argument × Json) → Option (Argument × Json)
  | [] => none
  | first :: others =>
    match lastByName others with
    | none => some first
    | some other => if Text.precedes other.1.name first.1.name then some first else some other

/-- What is wrong with the arguments of a call. A missing argument comes before a value of the wrong
type. -/
def violation? (tool : Tool) (given : Arguments) : Option Text :=
  match missing? tool given with
  | some argument => some (Text.quoted argument.name ++ " is a required property")
  | none =>
    (lastByName (mistyped tool given)).map fun (argument, value) =>
      value.inspect ++ " is not of type " ++ Text.quoted argument.type.word

end JarAtlas.Server
