import JarAtlas.Proofs.Decompilation.RepeatedRequests
import JarAtlas.Server.Call

/-!
# What requests leave alone

An analysis launches the disassembler and remembers things; a decompilation launches the decompiler,
remembers things and works on files. Both launch their tools in the working directory, so none of the
two runs anything in a project.
-/

namespace JarAtlas

open Action

section

variable {α : Type} {view : Session → α}
  (unlogged : ∀ session launch, launch.directory = none →
    view { session with launches := session.launches ++ [launch] } = view session)
  (forgetful : ∀ session memory, view { session with memory } = view session)

/-! ### Analyses -/

include unlogged in
theorem Tool.keeps_javapCommand : Keeps view javapCommand := by
  apply Keeps.host.bind
  intro host
  apply Keeps.config.bind
  intro config
  cases given config.javaHome with
  | some home => exact .pure _
  | none =>
    dsimp only
    split_ifs
    · exact .pure _
    · have discovers : Keeps view discoverJavaHome := by
        apply (keeps_launch unlogged _ _).bind
        intro result
        split
        · exact .pure _
        · exact .pure _
      apply discovers.bind
      intro home
      split
      · exact .pure _
      · apply (Files.keeps_doesExist _).bind
        intro isThere
        cases isThere with
        | true => exact .pure _
        | false =>
          apply (Files.keeps_doesExist _).bind
          intro isAbove
          cases isAbove with
          | true => exact .pure _
          | false => exact .pure _

namespace Analysis

include unlogged forgetful

theorem keeps_disassembler : Keeps view disassembler := by
  refine Keeps.bind (fun _ _ => rfl) fun memory => ?_
  split
  · exact .pure _
  · apply (Tool.keeps_javapCommand unlogged).bind
    exact fun command => (Keeps.modify fun session => forgetful session _).bind fun _ => .pure _

theorem keeps_listingCommand (jar : Text) : Keeps view (listingCommand jar) := by
  apply (keeps_disassembler unlogged forgetful).bind
  exact fun javap => Keeps.config.bind fun config => .pure _

theorem keeps_disassemble (className jar : Text) : Keeps view (disassemble className jar) := by
  apply (keeps_listingCommand unlogged forgetful jar).bind
  intro command
  apply Keeps.config.bind
  intro config
  apply (Tool.keeps_run unlogged _ _).bind
  intro output
  split_ifs
  · exact .fail _
  · exact .pure _

theorem keeps_analyze (className : Json) (project : Text) :
    Keeps view (analyze className project) := by
  apply (ClassIndex.keeps_jarOf (fun session _ => forgetful session _) _ _).bind
  intro jar
  split
  · exact (keeps_disassemble unlogged forgetful _ _).bind fun _ => .ofExcept _
  · exact .fail _
  · exact (keeps_listingCommand unlogged forgetful _).bind fun _ => .fail _

end Analysis

/-! ### Decompilations -/

variable (unfiled : ∀ session files clock, view { session with files, clock } = view session)

namespace Decompilation

include unlogged forgetful unfiled

theorem keeps_decompileAfresh (className : JsonString) (project : Text) (cfr : Json) :
    Keeps view (decompileAfresh className project cfr) := by
  rw [decompileAfresh_eq]
  apply (keeps_cfrJar (fun session _ => forgetful session _) cfr).bind
  intro decompiler
  apply (ClassIndex.keeps_jarOf (fun session _ => forgetful session _) _ _).bind
  exact fun jar => keeps_extractAndDecompile unlogged unfiled jar decompiler className

theorem keeps_decompile (className project : Text) (useCache : Bool) (cfr : Json) :
    Keeps view (decompile className project useCache cfr) := by
  have afresh := keeps_decompileAfresh unlogged forgetful unfiled (.text className) project cfr
  cases useCache with
  | false =>
    rw [decompile_of_not_useCache]
    exact afresh
  | true =>
    intro setting session
    rw [run_decompile_useCache]
    dsimp only
    split
    · rfl
    · rw [run_readText]
    · refine (afresh.bind fun source => ?_) setting session
      exact (keeps_keepSource unfiled _ _).bind fun _ => .pure _

end Decompilation

/-! ### Requests -/

namespace Request

include unlogged forgetful

theorem keeps_analyze (className project : Json) : Keeps view (analyze className project) :=
  (Keeps.ofExcept _).bind fun project => Analysis.keeps_analyze unlogged forgetful className project

include unfiled

theorem keeps_decompile (className project : Json) (useCache : Bool) (cfr : Json) :
    Keeps view (decompile className project useCache cfr) := by
  unfold decompile
  split
  · apply (Keeps.ofExcept _).bind
    intro project
    split
    · exact Decompilation.keeps_decompile unlogged forgetful unfiled _ project useCache cfr
    · exact Decompilation.keeps_decompileAfresh unlogged forgetful unfiled _ project cfr
  · exact .fail _

end Request

end

/-! ### Files that stand -/

namespace Request

open Files

variable {place : Place}

theorem spares_analyze (className project : Json) : Spares place (analyze className project) :=
  .of_keeps (keeps_analyze (fun _ _ _ => rfl) (fun _ _ => rfl) className project)

/-- A decompilation spares the indexes of all projects. -/
theorem spares_decompile (isIndex : place.getLast? = some ClassIndex.fileName)
    (className project : Json) (useCache : Bool) (cfr : Json) :
    Spares place (decompile className project useCache cfr) := by
  have apart (ending : Text) (noEnding : ¬ ending <:+ ClassIndex.fileName) :
      ∀ last ∈ place.getLast?, ¬ ending <:+ last := by
    intro last isLast
    rw [isIndex] at isLast
    cases isLast
    exact noEnding
  have apartFromClasses := apart ClassName.entryEnding (by decide)
  unfold decompile
  split
  · apply (Spares.ofExcept _).bind
    intro project
    split
    · exact Decompilation.spares_decompile apartFromClasses (apart ".java" (by decide)) _ project
        useCache cfr
    · exact Decompilation.spares_decompileAfresh apartFromClasses _ project cfr
  · exact .fail _

end Request

end JarAtlas
