import JarAtlas.Proofs.ClassIndex.LookupCache
import JarAtlas.Proofs.Server.FirstScan
import JarAtlas.Proofs.Server.Schema

/-!
# Every call is answered

Whatever a call asks for, it comes to a text. A call of a tool that is not offered, or without one of
the arguments that its tool requires, is refused before anything is done: it leaves the session as it
is. Clients have their arguments checked first, and a check that finds something wrong leaves the
session as it is, too; otherwise they get the text of the call.
-/

namespace JarAtlas.Server

open Action

variable {setting : Setting} {session : Session} {tool : Tool} {given : Arguments}

/-- A required argument is missing, or it is null, false, zero or empty. -/
structure Lacks (given : Arguments) (argument : Argument) : Prop where
  isRequired : argument.isRequired = true
  untrue : ∀ value, Json.field? argument.name given = some value → value.isTruthy = false

theorem Lacks.requiredArgument {argument : Argument} (lacks : Lacks given argument) :
    requiredArgument given argument.name = .error (.argumentMissing argument.name) := by
  unfold Server.requiredArgument
  cases found : Json.field? argument.name given with
  | none => rfl
  | some value => simp [Option.filter_some, lacks.untrue value found]

theorem exists_of_not_lacks {argument : Argument} (isRequired : argument.isRequired = true)
    (there : ¬ Lacks given argument) :
    ∃ value, requiredArgument given argument.name = .ok value := by
  have truthy : ∃ value, Json.field? argument.name given = some value ∧ value.isTruthy = true := by
    by_contra untrue
    apply there
    refine ⟨isRequired, fun value found => ?_⟩
    simpa using fun truthy => untrue ⟨value, found, truthy⟩
  rcases truthy with ⟨value, found, truthy⟩
  exact ⟨value, by simp [requiredArgument, found, Option.filter_some, truthy]⟩

/-! ### Required arguments -/

theorem run_scanDependencies_eq : ∃ rest : Json → Action Text, run given .scanDependencies =
    (do
      let project ← Action.ofExcept (requiredArgument given "projectPath")
      rest project) :=
  ⟨_, rfl⟩

theorem run_classTool_eq (needsClass : tool ≠ .scanDependencies) :
    ∃ rest : Json → Json → Action Text, run given tool =
      (do
        let className ← Action.ofExcept (requiredArgument given "className")
        let project ← Action.ofExcept (requiredArgument given "projectPath")
        rest className project) := by
  cases tool with
  | scanDependencies => exact absurd rfl needsClass
  | decompileClass => exact ⟨_, rfl⟩
  | analyzeClass => exact ⟨_, rfl⟩

theorem arguments_classTool (needsClass : tool ≠ .scanDependencies) :
    ∃ classArgument others, tool.arguments = classArgument :: Tool.projectArgument :: others ∧
      classArgument.name = "className" ∧ classArgument.isRequired = true ∧
      ∀ other ∈ others, other.isRequired = false := by
  cases tool with
  | scanDependencies => exact absurd rfl needsClass
  | decompileClass => exact ⟨_, _, rfl, rfl, rfl, by simp⟩
  | analyzeClass => exact ⟨_, _, rfl, rfl, rfl, by simp⟩

/-- A tool asks for what it requires before it does anything else. -/
theorem run_of_lacks {argument : Argument} (isArgument : argument ∈ tool.arguments)
    (lacks : Lacks given argument) : ∃ first ∈ tool.arguments, Lacks given first ∧
      run given tool setting session = (.error (.argumentMissing first.name), session) := by
  have isRequired := lacks.isRequired
  by_cases needsClass : tool ≠ .scanDependencies
  · rcases run_classTool_eq needsClass with ⟨rest, isRun⟩
    rcases arguments_classTool needsClass with ⟨classArgument, others, isList, named, requires, free⟩
    rw [isList] at isArgument ⊢
    by_cases lacksClass : Lacks given classArgument
    · refine ⟨classArgument, by simp, lacksClass, ?_⟩
      have refused := lacksClass.requiredArgument
      rw [named] at refused ⊢
      rw [isRun, refused]
      rfl
    · rcases exists_of_not_lacks requires lacksClass with ⟨className, hasClass⟩
      have isProject : argument = Tool.projectArgument := by
        simp only [List.mem_cons] at isArgument
        rcases isArgument with rfl | rfl | isOther
        · exact absurd lacks lacksClass
        · rfl
        · simp [free argument isOther] at isRequired
      subst isProject
      refine ⟨Tool.projectArgument, by simp, lacks, ?_⟩
      rw [named] at hasClass
      rw [isRun, hasClass, show requiredArgument given "projectPath" = _ from lacks.requiredArgument]
      rfl
  · rw [not_not] at needsClass
    subst needsClass
    rcases @run_scanDependencies_eq given with ⟨rest, isRun⟩
    refine ⟨argument, isArgument, lacks, ?_⟩
    simp only [Tool.arguments, List.mem_cons, List.not_mem_nil, or_false] at isArgument
    rcases isArgument with rfl | rfl
    · rw [isRun, show requiredArgument given "projectPath" = _ from lacks.requiredArgument]
      rfl
    · cases isRequired

/-! ### Replies -/

theorem call_unknown {toolName : Text} (unknown : Tool.ofName? toolName = none) :
    call toolName given setting session =
      (.ok (Report.failure (Error.unknownTool toolName).message Report.defaultSuggestions),
        session) := by
  unfold call
  rw [unknown]
  rfl

theorem exists_call (toolName : Text) (given : Arguments) (setting : Setting) (session : Session) :
    ∃ text after, call toolName given setting session = (.ok text, after) := by
  cases named : Tool.ofName? toolName with
  | none => exact ⟨_, _, call_unknown named⟩
  | some tool =>
    have same : tool.name = toolName := by simpa using List.find?_some named
    rw [← same, run_call]
    exact ⟨_, _, rfl⟩

/-- Where the check of the arguments finds nothing wrong, a client gets the text of the call. -/
theorem reply_of_call {toolName text : Text} {after : Session}
    (sound : ∀ tool, Tool.ofName? toolName = some tool → violation? tool given = none)
    (called : call toolName given setting session = (.ok text, after)) :
    reply toolName given setting session = (.ok { isError := false, text }, after) := by
  have unviolated : ((Tool.ofName? toolName).bind fun tool => violation? tool given) = none := by
    simpa [Option.bind_eq_none_iff] using sound
  unfold reply
  rw [unviolated]
  dsimp only
  rw [run_bind, called]
  rfl

theorem reply_of_violation (violated : ¬ Satisfies tool.schema (.object given)) :
    ∃ violation, reply tool.name given setting session =
      (.ok { isError := true, text := "Input validation error: " ++ violation }, session) := by
  rw [← violation?_eq_none_iff, ← ne_eq, Option.ne_none_iff_exists'] at violated
  rcases violated with ⟨violation, found⟩
  refine ⟨violation, ?_⟩
  unfold reply
  rw [ofName?_name, Option.bind_some, found]
  rfl

/-- Every call is answered with a text. A call of a tool that is not offered, or without a required
argument, is answered with the report of that failure and leaves the session as it is. To clients,
arguments that do not satisfy the tool's schema are answered as an error, which leaves the session as
it is, too, and those that do with the text of the call. -/
theorem call_replies (toolName : Text) (tool : Tool) (given : Arguments) (setting : Setting)
    (session : Session) :
    (∃ text after, call toolName given setting session = (.ok text, after)) ∧
    (Tool.ofName? toolName = none →
      let text := Report.failure (Error.unknownTool toolName).message Report.defaultSuggestions
      call toolName given setting session = (.ok text, session) ∧
        reply toolName given setting session = (.ok { isError := false, text }, session)) ∧
    ((∃ argument ∈ tool.arguments, Lacks given argument) →
      ∃ argument ∈ tool.arguments, Lacks given argument ∧
        call tool.name given setting session =
          (.ok (Report.failure (Error.argumentMissing argument.name).message tool.suggestions),
            session)) ∧
    (¬ Satisfies tool.schema (.object given) →
      ∃ violation, reply tool.name given setting session =
        (.ok { isError := true, text := "Input validation error: " ++ violation }, session)) ∧
    (Satisfies tool.schema (.object given) →
      ∃ text after, call tool.name given setting session = (.ok text, after) ∧
        reply tool.name given setting session = (.ok { isError := false, text }, after)) := by
  refine ⟨exists_call toolName given setting session, ?_, ?_, reply_of_violation, ?_⟩
  · intro unknown
    refine ⟨call_unknown unknown, reply_of_call ?_ (call_unknown unknown)⟩
    simp [unknown]
  · rintro ⟨argument, isArgument, lacks⟩
    rcases run_of_lacks isArgument lacks with ⟨first, isFirst, lacksFirst, refused⟩
    refine ⟨first, isFirst, lacksFirst, ?_⟩
    rw [run_call, refused]
  · intro satisfied
    rcases exists_call tool.name given setting session with ⟨text, after, called⟩
    refine ⟨text, after, called, reply_of_call ?_ called⟩
    simp [ofName?_name, violation?_eq_none_iff, satisfied]

/-- A call for a class without a name in a project that is a number, and a call of a tool that is not
offered. -/
theorem call_replies_nameless :
    let session : Session := { files := .empty, clock := 1, launches := [], memory := .empty }
    let given : Arguments := [("className", .text []), ("projectPath", .int 5)]
    call "jar" given ClassIndex.workSetting session =
        (.ok (Report.failure "Unknown tool: jar" Report.defaultSuggestions), session) ∧
      (∃ argument ∈ Tool.analyzeClass.arguments, Lacks given argument ∧
        call Tool.analyzeClass.name given ClassIndex.workSetting session =
          (.ok (Report.failure (Error.argumentMissing argument.name).message
            Tool.analyzeClass.suggestions), session)) ∧
      ∃ violation, reply Tool.analyzeClass.name given ClassIndex.workSetting session =
        (.ok { isError := true, text := "Input validation error: " ++ violation }, session) := by
  intro session given
  have replies := call_replies "jar" .analyzeClass given ClassIndex.workSetting session
  have unsatisfied : ¬ Satisfies Tool.analyzeClass.schema (.object given) := by
    intro satisfied
    have admitted := (satisfies_tool_iff.mp satisfied).2 Tool.projectArgument
      (by simp [Tool.arguments]) (.int 5) rfl
    cases admitted
  refine ⟨(replies.2.1 (by decide)).1, replies.2.2.1 ⟨_, List.mem_cons_self, rfl, ?_⟩,
    replies.2.2.2.1 unsatisfied⟩
  intro value found
  cases found
  rfl

end JarAtlas.Server
