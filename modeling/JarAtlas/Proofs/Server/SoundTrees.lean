import JarAtlas.Proofs.Files.SoundTrees
import JarAtlas.Proofs.Server.StableIndex

/-!
# Sound trees under the server

Whatever the server is called for, it leaves a sound tree where it finds one. Scans take an index away
and write another, decompilations work in a temporary directory and keep a source, and analyses leave
the files alone.
-/

namespace JarAtlas

open Action Files

variable {workingDirectory temporaries : Place}

namespace Decompilation

theorem keepsSound_extractAndDecompile (jar cfr : Json) (className : JsonString) :
    KeepsSound workingDirectory temporaries (extractAndDecompile jar cfr className) := by
  apply KeepsSound.withTemporary
  intro directory
  apply (KeepsSound.of_puts (Archive.puts_extractClass jar className directory)).bind
  exact fun file => .of_keeps (keeps_decompileFile (fun _ _ _ => rfl) _ _)

theorem keepsSound_decompileAfresh (className : JsonString) (project : Text) (cfr : Json) :
    KeepsSound workingDirectory temporaries (decompileAfresh className project cfr) := by
  rw [decompileAfresh_eq]
  apply (KeepsSound.of_keeps (keeps_cfrJar (fun _ _ => rfl) cfr)).bind
  intro decompiler
  apply (KeepsSound.of_keeps (ClassIndex.keeps_jarOf (fun _ _ => rfl) _ _)).bind
  exact fun jar => keepsSound_extractAndDecompile jar decompiler className

theorem keepsSound_decompile (className project : Text) (useCache : Bool) (cfr : Json) :
    KeepsSound workingDirectory temporaries (decompile className project useCache cfr) := by
  have afresh : KeepsSound workingDirectory temporaries
      (decompileAfresh (.text className) project cfr) := keepsSound_decompileAfresh _ project cfr
  cases useCache with
  | false =>
    rw [decompile_of_not_useCache]
    exact afresh
  | true =>
    intro setting session
    rw [run_decompile_useCache]
    dsimp only
    split
    · exact fun _ sound => sound
    · rw [run_readText]
      exact fun _ sound => sound
    · refine (afresh.bind fun source => ?_) setting session
      exact (KeepsSound.of_puts (puts_keepSource _ source)).bind fun _ => .pure _

theorem keepsSound_decompileAll (classNames : List Text) (project : Text) (useCache : Bool)
    (cfr : Json) :
    KeepsSound workingDirectory temporaries (decompileAll classNames project useCache cfr) := by
  apply KeepsSound.foldlM
  intro sources className
  apply (keepsSound_decompile className project useCache cfr).attempt.bind
  intro result
  cases result with
  | ok source => exact .pure _
  | error error => exact .pure _

end Decompilation

namespace ClassIndex

theorem keepsSound_build (project : Text) :
    KeepsSound workingDirectory temporaries (build project) := by
  apply (KeepsSound.of_keeps (keeps_dependencyJars fun _ _ _ => rfl)).bind
  intro jars
  apply (KeepsSound.of_keeps (Keeps.foldlM keeps_addClasses jars _)).bind
  intro found
  have makes : Puts (fun _ _ => True) (ensureDirectories (pathOf project).parent) :=
    puts_ensureDirectories fun _ _ => trivial
  apply (KeepsSound.of_puts makes).bind
  intro _
  apply (KeepsSound.of_keeps Keeps.host).bind
  intro host
  have writes : Puts (fun _ _ => True) (Files.write (pathOf project)
      (.text (json (summaryOf (pathOf project) found.jars found.entries) found.entries
        host.time).write)) := puts_write fun _ => trivial
  exact (KeepsSound.of_puts writes).bind fun _ => .pure _

theorem keepsSound_scan (project : Text) (force : Bool) :
    KeepsSound workingDirectory temporaries (scan project force) := by
  have rest : KeepsSound workingDirectory temporaries (do
      if ← Files.doesExist (pathOf project) then
        Action.ofExcept (summaryIn (pathOf project) (← read (pathOf project)))
      else build project) := by
    apply (KeepsSound.of_keeps (keeps_doesExist _)).bind
    intro isThere
    cases isThere with
    | true => exact (KeepsSound.of_keeps (keeps_read _)).bind fun _ => .ofExcept _
    | false => exact keepsSound_build project
  apply (KeepsSound.of_keeps (keeps_doesExist _)).bind
  intro isThere
  dsimp only
  split_ifs
  · exact (KeepsSound.unlink _).bind fun _ => rest
  · exact rest

end ClassIndex

namespace Request

theorem keepsSound_scan (project : Json) (force : Bool) :
    KeepsSound workingDirectory temporaries (scan project force) :=
  (KeepsSound.ofExcept _).bind fun project => ClassIndex.keepsSound_scan project force

theorem keepsSound_decompile (className project : Json) (useCache : Bool) (cfr : Json) :
    KeepsSound workingDirectory temporaries (decompile className project useCache cfr) := by
  unfold decompile
  split
  · apply (KeepsSound.ofExcept _).bind
    intro project
    split
    · exact Decompilation.keepsSound_decompile _ project useCache cfr
    · exact Decompilation.keepsSound_decompileAfresh _ project cfr
  · exact .fail _

theorem keepsSound_analyze (className project : Json) :
    KeepsSound workingDirectory temporaries (analyze className project) :=
  .of_keeps (keeps_analyze (fun _ _ _ => rfl) (fun _ _ => rfl) className project)

end Request

namespace Server

theorem keepsSound_ensureIndex (project : Json) :
    KeepsSound workingDirectory temporaries (ensureIndex project) := by
  apply (KeepsSound.ofExcept _).bind
  intro project
  apply (KeepsSound.of_keeps (keeps_doesExist _)).bind
  intro isThere
  cases isThere with
  | true => exact .pure _
  | false => exact (ClassIndex.keepsSound_scan project false).bind fun _ => .pure _

theorem keepsSound_run (given : Arguments) (tool : Tool) :
    KeepsSound workingDirectory temporaries (run given tool) := by
  cases tool with
  | scanDependencies =>
    apply (KeepsSound.ofExcept _).bind
    intro project
    exact (Request.keepsSound_scan project _).bind fun _ => .ofExcept _
  | decompileClass =>
    apply (KeepsSound.ofExcept _).bind
    intro className
    apply (KeepsSound.ofExcept _).bind
    intro project
    apply (keepsSound_ensureIndex project).bind
    intro _
    exact (Request.keepsSound_decompile className project _ _).bind fun _ => .pure _
  | analyzeClass =>
    apply (KeepsSound.ofExcept _).bind
    intro className
    apply (KeepsSound.ofExcept _).bind
    intro project
    apply (keepsSound_ensureIndex project).bind
    intro _
    exact (Request.keepsSound_analyze className project).bind fun _ => .pure _

theorem keepsSound_call (toolName : Text) (given : Arguments) :
    KeepsSound workingDirectory temporaries (call toolName given) := by
  unfold call
  split
  · exact .pure _
  · rename_i tool _
    apply (keepsSound_run given tool).attempt.bind
    intro result
    cases result with
    | ok report => exact .pure _
    | error error => exact .pure _

/-- However the server is called, the tree stays sound. -/
theorem isSound_serve {session : Session} {calls : List Call}
    (sound : session.files.IsSound workingDirectory temporaries)
    (worksIn : ∀ call ∈ calls, WorksIn call.setting.host workingDirectory temporaries) :
    (serve session calls).files.IsSound workingDirectory temporaries := by
  induction calls generalizing session with
  | nil => exact sound
  | cons call calls ih =>
    have first := keepsSound_call call.toolName call.given call.setting session
      (worksIn call List.mem_cons_self) sound
    exact ih first fun other member => worksIn other (List.mem_cons_of_mem _ member)

end Server

end JarAtlas
