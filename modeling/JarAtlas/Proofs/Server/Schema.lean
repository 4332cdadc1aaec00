import JarAtlas.Server.Tools
import Mathlib.Tactic.Common

/-!
# Arguments and schemas

What it means for a value to satisfy a schema, for the keywords that the schemas of tools are made of:
the type of a value, the fields that an object has to have, and the schemas of its fields. Arguments
are free of violations exactly if they satisfy the schema that the tool is offered with.
-/

namespace JarAtlas

/-- A value is of the type that a schema names. -/
inductive Json.IsOfType : Json → Text → Prop
  | null : IsOfType .null "null"
  | boolean (flag : Bool) : IsOfType (.bool flag) "boolean"
  | integer (number : Int) : IsOfType (.int number) "integer"
  | wholeNumber (number : Int) : IsOfType (.int number) "number"
  | number (number : Binary64) : IsOfType (.real number) "number"
  | string (text : JsonString) : IsOfType (.string text) "string"
  | array (items : List Json) : IsOfType (.list items) "array"
  | object (fields : List (JsonString × Json)) : IsOfType (.object fields) "object"

/-- A value satisfies a schema. A keyword says something only where the schema has it, and other
keywords than these say nothing about values. -/
inductive Satisfies : (schema value : Json) → Prop
  | intro {keywords : List (JsonString × Json)} {value : Json}
      (type : ∀ name, Json.field? ("type" : Text) keywords = some (.text name) →
        value.IsOfType name)
      (required : ∀ names fields, Json.field? ("required" : Text) keywords = some (.list names) →
        value = .object fields →
        ∀ name, .string name ∈ names → (Json.field? name fields).isSome)
      (properties : ∀ schemas fields,
        Json.field? ("properties" : Text) keywords = some (.object schemas) →
        value = .object fields →
        ∀ property ∈ schemas, ∀ item, Json.field? property.1 fields = some item →
          Satisfies property.2 item) :
      Satisfies (.object keywords) value

namespace Server

variable {tool : Tool} {given : Arguments} {argument : Argument}

theorem admits_iff {type : ArgumentType} {value : Json} :
    type.admits value = true ↔ value.IsOfType type.word := by
  constructor
  · intro admitted
    cases type with
    | text =>
      cases value <;> first | contradiction | exact .string _
    | flag =>
      cases value <;> first | contradiction | exact .boolean _
  · intro isOfType
    generalize named : type.word = name at isOfType
    cases isOfType <;> cases type <;> first | rfl | exact absurd named (by decide +kernel)

/-- The keywords in the schemas of arguments. -/
def argumentKeywords : List JsonString :=
  [.text "type", .text "description", .text "default"]

/-- The schema of an argument has a type and no keyword that says something about fields. -/
theorem Argument.exists_schema (argument : Argument) :
    ∃ keywords, argument.schema = .object keywords ∧
      Json.field? ("type" : Text) keywords = some (.text argument.type.word) ∧
      ∀ keyword ∈ keywords, keyword.1 ∈ argumentKeywords := by
  refine ⟨_, rfl, rfl, ?_⟩
  intro keyword isKeyword
  simp only [List.cons_append, List.nil_append, List.mem_cons, List.mem_map] at isKeyword
  rcases isKeyword with rfl | rfl | ⟨value, -, rfl⟩
  · exact .head _
  · exact .tail _ (.head _)
  · exact .tail _ (.tail _ (.head _))

theorem Tool.exists_schema (tool : Tool) :
    ∃ keywords, tool.schema = .object keywords ∧
      Json.field? ("type" : Text) keywords = some (.text "object") ∧
      Json.field? ("properties" : Text) keywords = some (.object (tool.arguments.map fun argument =>
        (argument.name, argument.schema))) ∧
      Json.field? ("required" : Text) keywords =
        some (.list ((tool.arguments.filter Argument.isRequired).map fun argument =>
          .text argument.name)) :=
  ⟨_, rfl, rfl, rfl, rfl⟩

/-- The schema of an argument asks for its type only. -/
theorem satisfies_argument_iff {value : Json} :
    Satisfies argument.schema value ↔ argument.type.admits value = true := by
  rcases argument.exists_schema with ⟨keywords, isSchema, typed, known⟩
  have unknown {name : JsonString} (foreign : name ∉ argumentKeywords) :
      Json.field? name keywords = none := by
    simp only [Json.field?, Option.map_eq_none_iff, List.find?_eq_none, beq_iff_eq]
    rintro keyword isKeyword rfl
    exact foreign (known keyword isKeyword)
  rw [isSchema, admits_iff]
  constructor
  · rintro ⟨type, -, -⟩
    exact type _ typed
  · intro isOfType
    constructor
    · intro name named
      rw [typed] at named
      cases named
      exact isOfType
    · intro names fields named
      rw [unknown (by decide +kernel)] at named
      cases named
    · intro schemas fields named
      rw [unknown (by decide +kernel)] at named
      cases named

/-- The schema of a tool asks for the required arguments, and for values that the schemas of their
arguments admit. -/
theorem satisfies_tool_iff : Satisfies tool.schema (.object given) ↔
    (∀ argument ∈ tool.arguments, argument.isRequired = true →
      (Json.field? argument.name given).isSome) ∧
    ∀ argument ∈ tool.arguments, ∀ value, Json.field? argument.name given = some value →
      argument.type.admits value = true := by
  rcases tool.exists_schema with ⟨keywords, isSchema, isObject, hasProperties, requires⟩
  rw [isSchema]
  constructor
  · rintro ⟨-, required, properties⟩
    constructor
    · intro argument isArgument isRequired
      apply required _ given requires rfl
      exact List.mem_map.mpr ⟨argument, List.mem_filter.mpr ⟨isArgument, isRequired⟩, rfl⟩
    · intro argument isArgument value isGiven
      rw [← satisfies_argument_iff]
      exact properties _ given hasProperties rfl _ (List.mem_map.mpr ⟨argument, isArgument, rfl⟩)
        value isGiven
  · rintro ⟨required, admitted⟩
    constructor
    · intro name named
      rw [isObject] at named
      cases named
      exact .object given
    · intro names fields named given name isName
      rw [requires] at named
      cases named
      cases given
      simp only [List.mem_map, List.mem_filter] at isName
      rcases isName with ⟨argument, ⟨isArgument, isRequired⟩, named⟩
      cases named
      exact required argument isArgument isRequired
    · intro schemas fields named given property isProperty value isGiven
      rw [hasProperties] at named
      cases named
      cases given
      rcases List.mem_map.mp isProperty with ⟨argument, isArgument, rfl⟩
      exact satisfies_argument_iff.mpr (admitted argument isArgument value isGiven)

theorem lastByName_eq_none_iff {values : List (Argument × Json)} :
    lastByName values = none ↔ values = [] := by
  cases values with
  | nil => simp [lastByName]
  | cons first others =>
    unfold lastByName
    cases lastByName others with
    | none => simp
    | some other =>
      dsimp only
      split_ifs <;> simp

theorem missing?_eq_none_iff : missing? tool given = none ↔
    ∀ argument ∈ tool.arguments, argument.isRequired = true →
      (Json.field? argument.name given).isSome := by
  simp [missing?, Option.isSome_iff_ne_none]

theorem mistyped_eq_nil_iff : mistyped tool given = [] ↔
    ∀ argument ∈ tool.arguments, ∀ value, Json.field? argument.name given = some value →
      argument.type.admits value = true := by
  simp only [mistyped, List.filterMap_eq_nil_iff]
  refine forall₂_congr fun argument _ => ?_
  cases Json.field? argument.name given <;> simp

/-- The check of arguments finds nothing wrong exactly if they satisfy the tool's schema. -/
theorem violation?_eq_none_iff :
    violation? tool given = none ↔ Satisfies tool.schema (.object given) := by
  rw [satisfies_tool_iff, ← missing?_eq_none_iff, ← mistyped_eq_nil_iff, ← lastByName_eq_none_iff]
  unfold violation?
  cases missing? tool given <;> simp

end Server

end JarAtlas
