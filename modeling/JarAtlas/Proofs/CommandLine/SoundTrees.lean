import JarAtlas.Proofs.Analysis.Failures
import JarAtlas.Proofs.CommandLine.Tasks
import JarAtlas.Proofs.Server.SoundTrees

/-!
# Sound trees under commands

A command prints parts, each of them an operation that keeps a tree sound, or it writes the client
configuration to one file. So whatever stands on a command line, the tree stays sound.
-/

namespace JarAtlas.CommandLine

open Action Files

variable {workingDirectory temporaries : Place}

theorem keepsSound_printParts {parts : List (Action Text)}
    (keeps : ∀ part ∈ parts, KeepsSound workingDirectory temporaries part) :
    KeepsSound workingDirectory temporaries (printParts parts) := by
  induction parts with
  | nil => exact .pure _
  | cons part others ih =>
    apply (keeps part List.mem_cons_self).attempt.bind
    intro result
    cases result with
    | error error => exact .pure _
    | ok text =>
      have rest := ih fun other member => keeps other (List.mem_cons_of_mem _ member)
      exact rest.bind fun _ => .pure _

theorem keepsSound_report (activity : Text) {parts : List (Action Text)}
    (keeps : ∀ part ∈ parts, KeepsSound workingDirectory temporaries part) :
    KeepsSound workingDirectory temporaries (report activity parts) := by
  apply (keepsSound_printParts keeps).bind
  rintro ⟨output, failure⟩
  cases failure with
  | none => exact .pure _
  | some error =>
    dsimp only
    split_ifs
    · exact .pure _
    · exact .fail _

theorem keepsSound_part {command : Command} {task : Task} (isTask : command.task? = some task) :
    ∀ part ∈ task.parts, KeepsSound workingDirectory temporaries part := by
  cases command with
  | start => cases isTask
  | config output => cases isTask
  | scan project force =>
    cases isTask
    rintro part member
    rw [List.mem_singleton.mp member]
    exact (Request.keepsSound_scan project force).bind fun _ => .ofExcept _
  | decompile className project useCache cfr =>
    cases isTask
    intro part member
    rw [List.mem_singleton.mp member]
    exact (Request.keepsSound_decompile className project useCache cfr).bind fun _ => .pure _
  | analyze className project withHierarchy withSubclasses =>
    cases isTask
    intro part member
    rcases List.mem_cons.mp member with rfl | further
    · exact (Request.keepsSound_analyze className project).bind fun _ => .pure _
    · rcases List.mem_append.mp further with ancestors | descendants
      · rw [List.mem_singleton.mp (List.mem_ite_nil_right.mp ancestors).2]
        have keeps := Analysis.keeps_hierarchy className.display project.display
        exact (KeepsSound.of_keeps keeps).bind fun _ => .pure _
      · rw [List.mem_singleton.mp (List.mem_ite_nil_right.mp descendants).2]
        have keeps := Analysis.keeps_subclasses className.display project.display
        exact (KeepsSound.of_keeps keeps).bind fun _ => .pure _

theorem keepsSound_writeClientConfig (output : Json) :
    KeepsSound workingDirectory temporaries (writeClientConfig output) := by
  apply (KeepsSound.ofExcept _).bind
  intro path
  apply (KeepsSound.of_keeps Keeps.host).bind
  intro host
  have writes : Puts (fun _ _ => True) (Files.write (.ofText path)
      (.text ((clientConfig host.environment).write ++ "\n"))) := puts_write fun _ => trivial
  exact (KeepsSound.of_puts writes).bind fun _ => .pure _

theorem keepsSound_runCommand (command : Command) :
    KeepsSound workingDirectory temporaries (runCommand command) := by
  cases isTask : command.task? with
  | some task =>
    rw [runCommand_eq isTask]
    exact keepsSound_report task.activity (keepsSound_part isTask)
  | none =>
    cases command with
    | start => exact .pure _
    | config output => exact (keepsSound_writeClientConfig output).bind fun _ => .pure _
    | scan => cases isTask
    | decompile => cases isTask
    | analyze => cases isTask

/-- Whatever stands on a command line, the tree stays sound. -/
theorem keepsSound_run (line : List Text) :
    KeepsSound workingDirectory temporaries (run line) := by
  intro setting session worksIn sound
  cases parsed : parse line with
  | error stop =>
    unfold run
    rw [parsed]
    cases stop with
    | help => exact sound
    | usage message => exact sound
  | ok command =>
    rw [run_of_parse parsed]
    exact keepsSound_runCommand command (servicesOf setting) session.forget worksIn sound

end JarAtlas.CommandLine
