import JarAtlas.CommandLine.Run
import JarAtlas.Proofs.ClassIndex.LookupCache

/-!
# The tasks of commands

Most commands print the parts of an answer one after the other, and the error of a part that fails
ends them. What such a command comes to is decided by that error alone: it is reported if it is part
of the service, and the caller's otherwise.
-/

namespace JarAtlas.CommandLine

open Action

/-- What a command prints, and what it is busy with meanwhile. -/
structure Task where
  activity : Text
  parts : List (Action Text)

/-- The task of a command, if it prints an answer. -/
def Command.task? : Command → Option Task
  | .scan project force => some {
      activity := "scanning " ++ project.display
      parts := [do Action.ofExcept (Report.scan (← Request.scan project force))] }
  | .decompile className project useCache cfr => some {
      activity := "decompiling " ++ className.display
      parts := [do
        let source ← Request.decompile className project useCache cfr
        return Report.decompiled className.display source] }
  | .analyze className project withHierarchy withSubclasses => some {
      activity := "analyzing " ++ className.display
      parts := (do return Report.analysis (← Request.analyze className project)) ::
        ((if withHierarchy then [hierarchyPart className.display project.display] else []) ++
          if withSubclasses then [subclassesPart className.display project.display] else []) }
  | .start | .config _ => none

/-- The setting of the services that a command line works with. -/
def servicesOf (setting : Setting) : Setting :=
  { host := setting.host, config := .ofEnvironment setting.host.environment }

section

variable {setting : Setting} {session : Session} {line : List Text} {command : Command} {task : Task}

theorem runCommand_eq (isTask : command.task? = some task) :
    runCommand command = report task.activity task.parts := by
  cases command with
  | start => contradiction
  | config output => contradiction
  | scan project force =>
    cases isTask
    rfl
  | decompile className project useCache cfr =>
    cases isTask
    rfl
  | analyze className project withHierarchy withSubclasses =>
    cases isTask
    rfl

/-- A command works with services that remember nothing, and those that were there before remember
what they remembered. -/
theorem run_of_parse (parsed : parse line = .ok command) :
    run line setting session =
      ((runCommand command (servicesOf setting) session.forget).1,
        { (runCommand command (servicesOf setting) session.forget).2 with
          memory := session.memory }) := by
  unfold run
  rw [parsed]
  rfl

/-! ### Parts -/

/-- The error of the first part that fails, each part running behind those in front of it. -/
def firstError? (setting : Setting) : List (Action Text) → Session → Option Error
  | [], _ => none
  | part :: others, session =>
    match part setting session with
    | (.error error, _) => some error
    | (.ok _, after) => firstError? setting others after

/-- An error that is part of the service is printed behind what went wrong. -/
def errorLine (activity : Text) (error : Error) : Text :=
  "Error " ++ activity ++ ": " ++ error.message ++ "\n"

/-- How a task ends that has printed `output` before an error, if any. -/
def outcomeOf (activity output : Text) : Option Error → Except Error Outcome
  | none => .ok { status := 0, output, errors := [], served := false }
  | some error =>
    if error.isReported then
      .ok { status := 1, output, errors := errorLine activity error, served := false }
    else .error error

theorem exists_printParts (setting : Setting) (parts : List (Action Text)) (session : Session) :
    ∃ output after, printParts parts setting session =
      (.ok (output, firstError? setting parts session), after) := by
  induction parts generalizing session with
  | nil => exact ⟨_, _, rfl⟩
  | cons part others ih =>
    unfold printParts firstError?
    rw [run_bind, run_attempt]
    rcases part setting session with ⟨result, after⟩
    cases result with
    | error error => exact ⟨_, _, rfl⟩
    | ok text =>
      rcases ih after with ⟨output, last, printed⟩
      dsimp only
      rw [run_bind, printed]
      exact ⟨_, _, rfl⟩

theorem run_report_of_printParts {activity output : Text} {parts : List (Action Text)}
    {failure : Option Error} {after : Session}
    (printed : printParts parts setting session = (.ok (output, failure), after)) :
    report activity parts setting session = (outcomeOf activity output failure, after) := by
  unfold report
  rw [run_bind, printed]
  cases failure with
  | none => rfl
  | some error =>
    dsimp only [outcomeOf]
    split_ifs <;> rfl

/-- A task ends as its first error has it. -/
theorem exists_outcome_of_task (isTask : command.task? = some task) (setting : Setting)
    (session : Session) :
    ∃ output, (runCommand command setting session).1 =
      outcomeOf task.activity output (firstError? setting task.parts session) := by
  rcases exists_printParts setting task.parts session with ⟨output, after, printed⟩
  refine ⟨output, ?_⟩
  rw [runCommand_eq isTask, run_report_of_printParts printed]

/-- A task of one part prints what the part answers. -/
theorem run_report_singleton (activity : Text) (part : Action Text) (setting : Setting)
    (session : Session) :
    report activity [part] setting session =
      (match (part setting session).1 with
        | .ok text => outcomeOf activity (text ++ "\n") none
        | .error error => outcomeOf activity [] (some error), (part setting session).2) := by
  cases outcome : part setting session with
  | mk result after =>
    cases result with
    | ok text =>
      apply run_report_of_printParts
      unfold printParts
      rw [run_bind, run_attempt, outcome]
      rfl
    | error error =>
      apply run_report_of_printParts
      unfold printParts
      rw [run_bind, run_attempt, outcome]
      rfl

end

end JarAtlas.CommandLine
