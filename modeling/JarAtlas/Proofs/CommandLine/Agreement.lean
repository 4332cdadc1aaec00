import JarAtlas.Proofs.CommandLine.Tasks
import JarAtlas.Proofs.Server.FirstScan

/-!
# Two front ends

A command and the call of a tool that ask for the same do the same: they change the files alike, and
where one prints an answer the other replies with it. An error that is part of the service ends a
command with its message behind what went wrong, and it is the same message that the reply begins
with.
-/

namespace JarAtlas

open Action

/-- The report of a failure begins with its message. -/
theorem Report.failure_prefix (message : Text) (suggestions : List Text) :
    ("Error: " ++ message : Text) <+: Report.failure message suggestions :=
  Text.prefix_join _ _ _

namespace CommandLine

open Server

variable {setting : Setting} {session : Session} {line : List Text} {command : Command}
  {tool : Tool} {given : Arguments} {project : Text}

/-- A command asks for a project what the call of a tool asks for. -/
inductive AsksFor (project : Text) (given : Arguments) : Command → Tool → Prop
  | scan {force : Bool}
      (hasProject : Json.field? "projectPath" given = some (.text project))
      (nonempty : project ≠ [])
      (forces : flagArgument given "forceRefresh" false = force) :
      AsksFor project given (.scan (.text project) force) .scanDependencies
  | decompile {className : Text} {useCache : Bool} {cfr : Json}
      (hasClass : Json.field? "className" given = some (.text className))
      (nonemptyClass : className ≠ [])
      (hasProject : Json.field? "projectPath" given = some (.text project))
      (nonempty : project ≠ [])
      (caches : flagArgument given "useCache" true = useCache)
      (decompiler : (Json.field? "cfrPath" given).getD .null = cfr) :
      AsksFor project given (.decompile (.text className) (.text project) useCache cfr)
        .decompileClass
  | analyze {className : Text}
      (hasClass : Json.field? "className" given = some (.text className))
      (nonemptyClass : className ≠ [])
      (hasProject : Json.field? "projectPath" given = some (.text project))
      (nonempty : project ≠ []) :
      AsksFor project given (.analyze (.text className) (.text project) false false) .analyzeClass

theorem requiredArgument_of_field? {name value : Text}
    (found : Json.field? name given = some (.text value)) (nonempty : value ≠ []) :
    requiredArgument given name = .ok (.text value) := by
  have truthy : (Json.text value).isTruthy = true := by
    simpa [Json.isTruthy, JsonString.codes] using nonempty
  simp [requiredArgument, found, Option.filter_some, truthy]

/-- The index of a project is not built where there is one. -/
theorem run_ensureIndex_of_lookup {node : Node}
    (found : session.files.lookup setting.host.workingDirectory (ClassIndex.pathOf project) =
      .ok node) :
    ensureIndex (.text project) setting session = (.ok (), session) := by
  rw [run_ensureIndex]
  simp [Request.projectOf, JsonString.display, Files.foundAt_of_lookup found]

/-- A command that asks for what a call asks for consists of what the tool does. -/
theorem AsksFor.exists_part (asks : AsksFor project given command tool)
    (indexed : tool ≠ .scanDependencies → ∃ node,
      session.files.lookup setting.host.workingDirectory (ClassIndex.pathOf project) = .ok node) :
    ∃ activity part, command.task? = some ⟨activity, [part]⟩ ∧
      Server.run given tool setting session = part setting session := by
  cases asks with
  | scan hasProject nonempty forces =>
    refine ⟨_, _, rfl, ?_⟩
    simp only [Server.run, run_bind, run_ofExcept, requiredArgument_of_field? hasProject nonempty,
      forces]
  | decompile hasClass nonemptyClass hasProject nonempty caches decompiler =>
    rcases indexed (by decide) with ⟨node, found⟩
    refine ⟨_, _, rfl, ?_⟩
    simp only [Server.run, run_bind, run_ofExcept,
      requiredArgument_of_field? hasClass nonemptyClass,
      requiredArgument_of_field? hasProject nonempty, run_ensureIndex_of_lookup found, caches,
      decompiler]
  | analyze hasClass nonemptyClass hasProject nonempty =>
    rcases indexed (by decide) with ⟨node, found⟩
    refine ⟨_, _, rfl, ?_⟩
    simp only [Server.run, run_bind, run_ofExcept,
      requiredArgument_of_field? hasClass nonemptyClass,
      requiredArgument_of_field? hasProject nonempty, run_ensureIndex_of_lookup found]

end CommandLine

end JarAtlas
