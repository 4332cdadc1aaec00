import JarAtlas.ClassIndex.Scan
import JarAtlas.Proofs.ClassIndex.IndexFile

/-!
# What scans leave alone

A scan launches Maven, reads jars and writes the index, but it remembers nothing: what lookups have
remembered is theirs alone.
-/

namespace JarAtlas

open Action

namespace Tool

theorem keeps_inputOf {α : Type} {view : Session → α} (command : List Text) :
    Keeps view (inputOf command) := by
  unfold inputOf
  split
  · split_ifs
    · apply (Files.keeps_read _).attempt.bind
      intro read
      split
      · exact .pure _
      · exact .pure _
    · exact .pure _
  · exact .pure _

/-- A launch changes nothing but the log of launches. -/
theorem keeps_launch {α : Type} {view : Session → α} {directory : Option Text}
    (unlogged : ∀ session launch, launch.directory = directory →
      view { session with launches := session.launches ++ [launch] } = view session)
    (command : List Text) (timeout : Binary64) : Keeps view (launch command timeout directory) := by
  apply (keeps_inputOf command).bind
  intro input
  refine Keeps.bind (.modify fun session => unlogged session _ rfl) fun _ => ?_
  exact Keeps.host.bind fun _ => .pure _

theorem keeps_run {α : Type} {view : Session → α} {directory : Option Text}
    (unlogged : ∀ session launch, launch.directory = directory →
      view { session with launches := session.launches ++ [launch] } = view session)
    (command : List Text) (timeout : Binary64) : Keeps view (run command timeout directory) :=
  (keeps_launch unlogged command timeout).bind fun _ => .ofExcept _

theorem keeps_mavenCommand {α : Type} {view : Session → α} : Keeps view mavenCommand := by
  apply Keeps.host.bind
  intro host
  apply Keeps.config.bind
  intro config
  cases given config.mavenHome with
  | none => exact .pure _
  | some home => exact Keeps.host.bind fun _ => .pure _

end Tool

namespace ClassIndex

section Dependencies

variable {α : Type} {view : Session → α}

theorem keeps_repository : Keeps view repository := by
  apply Keeps.config.bind
  intro config
  apply Keeps.host.bind
  intro host
  cases config.repository? host.environment with
  | none => exact .fail _
  | some path => exact .pure _

theorem keeps_repositoryJars : Keeps view repositoryJars := by
  apply keeps_repository.bind
  intro repository
  apply (Files.keeps_isDirectory _).bind
  intro isThere
  cases isThere with
  | false => exact .fail _
  | true =>
    apply Keeps.host.bind
    intro host
    apply Keeps.get.bind
    intro session
    dsimp only
    split
    · exact .pure _
    · split
      · exact .fail _
      · exact .pure _

theorem keeps_addDependency (repository : Path) (jars : List Text) (line : Text) :
    Keeps view (addDependency repository jars line) := by
  unfold addDependency
  split
  · exact .pure _
  · apply (Files.keeps_doesExist _).bind
    intro isThere
    cases isThere with
    | true => exact .pure _
    | false => exact .pure _

/-- Finding the dependencies changes nothing but the log of launches. -/
theorem keeps_dependencyJars {project : Text}
    (unlogged : ∀ session launch, launch.directory = some project →
      view { session with launches := session.launches ++ [launch] } = view session) :
    Keeps view (dependencyJars project) := by
  apply Tool.keeps_mavenCommand.bind
  intro command
  apply Keeps.config.bind
  intro config
  apply (Tool.keeps_run unlogged _ _).attempt.bind
  intro output
  cases output with
  | error error => exact keeps_repositoryJars
  | ok output =>
    exact keeps_repository.bind fun repository => .foldlM (keeps_addDependency repository) _ _

theorem keeps_listClasses (jar : Json) :
    Keeps view (Archive.listClasses jar) :=
  (Archive.keeps_entriesNamed jar).bind fun _ => .pure _

theorem keeps_addClasses (found : Found) (jar : Text) :
    Keeps view (addClasses found jar) := by
  apply (keeps_listClasses _).attempt.bind
  intro names
  cases names with
  | ok names => exact .pure _
  | error error =>
    dsimp only
    split_ifs
    · exact .pure _
    · exact .fail _

/-- A build launches Maven in the project and writes files. -/
theorem keeps_build {project : Text}
    (unlogged : ∀ session launch, launch.directory = some project →
      view { session with launches := session.launches ++ [launch] } = view session)
    (unfiled : ∀ session files clock, view { session with files, clock } = view session) :
    Keeps view (build project) := by
  apply (keeps_dependencyJars unlogged).bind
  intro jars
  apply (Keeps.foldlM keeps_addClasses jars _).bind
  intro found
  apply (Files.keeps_ensureDirectoriesBelow unfiled _ _).bind
  intro _
  apply Keeps.host.bind
  intro host
  exact (Files.keeps_write unfiled _ _).bind fun _ => .pure _

end Dependencies

/-- A scan remembers nothing and forgets nothing. -/
theorem keeps_scan (project : Text) (force : Bool) :
    Keeps Session.memory (scan project force) := by
  have rest : Keeps Session.memory (do
      if ← Files.doesExist (pathOf project) then
        Action.ofExcept (summaryIn (pathOf project) (← read (pathOf project)))
      else build project) := by
    apply (Files.keeps_doesExist _).bind
    intro isThere
    cases isThere with
    | true =>
      refine Keeps.bind ?_ fun _ => .ofExcept _
      intro setting session
      rw [run_read]
    | false => exact keeps_build (fun _ _ _ => rfl) fun _ _ _ => rfl
  apply (Files.keeps_doesExist _).bind
  intro isThere
  dsimp only
  split_ifs
  · exact (Files.keeps_change (fun _ _ _ => rfl) _ _).bind fun _ => rest
  · exact rest

end ClassIndex

end JarAtlas
