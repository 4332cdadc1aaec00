import JarAtlas.Decompilation
import JarAtlas.Proofs.Archive.Extraction
import JarAtlas.Proofs.Files.Comparison

/-!
# Extracting and running the decompiler

The part of a decompilation that goes on in the temporary directory: the class file is extracted, and
the decompiler is run on it. What this comes to depends on the jar alone, not on what else the files
hold or on the time, and nothing is made outside the temporary directory.
-/

namespace JarAtlas

open Action Files

namespace Tool

variable {Alike : Session → Session → Prop} {setting : Setting}

theorem respects_javaCommand : Respects Alike setting javaCommand := by
  apply Respects.config.bind
  intro config
  cases given config.javaHome with
  | none => exact .pure _
  | some home => exact Respects.host.bind fun _ => .pure _

/-- A tool answers the same on inputs that are the same, as its log does not matter. -/
theorem respects_run {command : List Text} (reads : Respects Alike setting (inputOf command))
    (unlogged : ∀ session other launches otherLaunches, Alike session other →
      Alike { session with launches } { other with launches := otherLaunches })
    (timeout : Binary64) (directory : Option Text) :
    Respects Alike setting (run command timeout directory) := by
  refine Respects.bind ?_ fun _ => .ofExcept _
  apply reads.bind
  intro input
  refine Respects.bind ?_ fun _ => Respects.host.bind fun _ => .pure _
  exact fun session other alike => ⟨rfl, unlogged session other _ _ alike⟩

end Tool

namespace Archive

variable {setting : Setting}

theorem respects_readEntry (jar : Json) (entry : JsonString) :
    Respects (fun session other => ∀ text, jar = .text text → ReadsAlike setting text session other)
      setting (readEntry jar entry) := by
  have named : Respects
      (fun session other => ∀ text, jar = .text text → ReadsAlike setting text session other)
      setting (entriesNamed jar) := by
    unfold entriesNamed
    split
    · refine Respects.bind ?_ fun content => ?_
      · intro session other alike
        rw [run_read, run_read]
        exact ⟨alike _ rfl, alike⟩
      · cases content with
        | text value => exact .fail _
        | archive entries => exact .pure _
    · exact .fail _
    · exact .fail _
  apply named.attempt.bind
  intro entries
  cases entries with
  | error error => exact .fail _
  | ok entries =>
    dsimp only
    cases contentOf? entries entry with
    | none => exact .fail _
    | some content => exact .pure _

theorem run_extractClass (jar : Json) (className : JsonString) (destination : Path)
    (session : Session) : extractClass jar className destination setting session =
      let target := destination.join (ClassName.entryOf className).display
      match ensureDirectoryOf (ClassName.entryOf className) target setting session with
      | (.error error, made) => (.error error, made)
      | (.ok (), made) =>
        match (readEntry jar (ClassName.entryOf className) setting made).1 with
        | .error error => (.error error, made)
        | .ok content =>
          match Files.write target (.text content) setting made with
          | (.error error, written) => (.error error, written)
          | (.ok (), written) => (.ok target, written) := by
  unfold extractClass
  dsimp only
  rw [run_bind]
  rcases ensureDirectoryOf (ClassName.entryOf className)
    (destination.join (ClassName.entryOf className).display) setting session with ⟨result, made⟩
  cases result with
  | error error => rfl
  | ok answer =>
    have kept : (readEntry jar (ClassName.entryOf className) setting made).2 = made :=
      @keeps_readEntry Session id jar _ setting made
    dsimp only
    rw [run_bind]
    rcases reads : readEntry jar (ClassName.entryOf className) setting made with ⟨read, between⟩
    rw [reads] at kept
    cases kept
    cases read with
    | error error => rfl
    | ok content =>
      dsimp only
      rw [run_bind]
      rcases Files.write (destination.join (ClassName.entryOf className).display) (.text content)
        setting between with ⟨result, written⟩
      cases result <;> rfl

/-- An extracted class stands where its entry leads to from the destination. -/
theorem lookup_of_run_extractClass {jar : Json} {className : JsonString} {destination file : Path}
    {session after : Session}
    (ran : extractClass jar className destination setting session = (.ok file, after)) :
    file = destination.join (ClassName.entryOf className).display ∧ hasNull file.text = false ∧
      ∃ content stamp,
        after.files.lookup setting.host.workingDirectory file = .ok (.file content stamp) := by
  rw [run_extractClass] at ran
  dsimp only at ran
  split at ran
  · cases ran
  · split at ran
    · cases ran
    · split at ran
      · cases ran
      · rename_i written wrote
        cases ran
        rcases lookup_of_run_write wrote with ⟨noNull, isThere⟩
        exact ⟨rfl, noNull, _, _, isThere⟩

/-! ### In the temporary directory -/

section

variable {session other : Session} {jar : Json} {className : JsonString}

/-- The jar that a value names, if it is a text, holds the same for both sessions, and the way to it
does not lead through the temporary directory. -/
def JarsAlike (setting : Setting) (jar : Json) (session other : Session) : Prop :=
  ∀ text, jar = .text text →
    ReadsAlike setting text session other ∧
      ∀ files ∈ [session.files, other.files],
        files.Avoids setting.host.workingDirectory (.ofText text)
          (setting.host.temporaryDirectory <+: ·)

theorem respects_ensureDirectoryOf {segments : List Text} {target : Place}
    (down : (".." : Text) ∉ segments) (comparable : FileTree.Comparable segments target)
    (entry : JsonString) : Respects (AlikeAround target) setting
      (ensureDirectoryOf entry ⟨.absolute, segments⟩) := by
  unfold ensureDirectoryOf
  dsimp only
  split
  · exact .fail _
  · apply respects_ensureDirectories
    · exact fun up => down (List.dropLast_subset _ up)
    · exact comparable.of_prefix (List.dropLast_prefix _)

/-- What is put into the temporary directory does not change what is read of the jar. -/
theorem JarsAlike.of_puts {α : Type} {names : List Text} {action : Action α}
    (jars : JarsAlike setting jar session other) (scratch : IsScratch setting session.files)
    (otherScratch : IsScratch setting other.files) (down : (".." : Text) ∉ names)
    (puts : Puts (FileTree.LeadsTo ((pathOf setting.host.temporaryDirectory).down names)) action)
    {text : Text} (isText : jar = .text text) :
    ReadsAlike setting text (action setting (withScratch setting session)).2
      (action setting (withScratch setting other)).2 := by
  rcases jars text isText with ⟨same, avoids⟩
  have unchanged := (avoids session.files (by simp)).congr fun _ apart =>
    scratch.node?_of_puts down puts apart
  have otherUnchanged := (avoids other.files (by simp)).congr fun _ apart =>
    otherScratch.node?_of_puts down puts apart
  unfold ReadsAlike at same ⊢
  rw [contentAt_congr unchanged.1, contentAt_congr otherUnchanged.1, same]

/-- Wherever the jar is the same, extracting from it answers the same and gives the same file. -/
theorem extractClass_congr (scratch : IsScratch setting session.files)
    (otherScratch : IsScratch setting other.files)
    (relative : ¬ Path.IsRooted (ClassName.entryOf className).display)
    (jars : JarsAlike setting jar session other) :
    let directory := pathOf setting.host.temporaryDirectory
    let outcome := extractClass jar className directory setting (withScratch setting session)
    let otherOutcome := extractClass jar className directory setting (withScratch setting other)
    otherOutcome.1 = outcome.1 ∧
      ∀ file, outcome.1 = .ok file → ReadsAlike setting file.text outcome.2 otherOutcome.2 := by
  intro directory outcome otherOutcome
  rcases (isBelow_join_entryOf directory relative).exists_down with ⟨names, some, down, isTarget⟩
  have plain : (directory.down names).IsPlain := isTarget ▸ scratch.plain.join _
  have straight : (".." : Text) ∉ setting.host.temporaryDirectory ++ names := by
    rw [List.mem_append, not_or]
    exact ⟨scratch.down, down⟩
  have below : FileTree.Comparable (setting.host.temporaryDirectory ++ names)
      setting.host.temporaryDirectory := .inr (List.prefix_append _ _)
  have around : AlikeAround setting.host.temporaryDirectory (withScratch setting session)
      (withScratch setting other) :=
    FileTree.AlikeAround.set (fun _ comparable => scratch.node?_eq otherScratch comparable) _ _
  have makes : Respects (AlikeAround setting.host.temporaryDirectory) setting
      (ensureDirectoryOf (ClassName.entryOf className) (directory.down names)) :=
    respects_ensureDirectoryOf straight below _
  have reads : ∀ text, jar = .text text → ReadsAlike setting text _ _ := fun _ isText =>
    jars.of_puts scratch otherScratch down
      (puts_ensureDirectoryOf (ClassName.entryOf className) (directory.down names)) isText
  dsimp only [outcome, otherOutcome]
  rw [run_extractClass, run_extractClass, isTarget]
  dsimp only
  rcases makes _ _ around with ⟨sameMade, aroundMade⟩
  rcases made : ensureDirectoryOf (ClassName.entryOf className) (directory.down names) setting
    (withScratch setting session) with ⟨result, ready⟩
  rcases otherMade : ensureDirectoryOf (ClassName.entryOf className) (directory.down names) setting
    (withScratch setting other) with ⟨otherResult, otherReady⟩
  rw [made, otherMade] at sameMade aroundMade reads
  cases sameMade
  cases result with
  | error error => exact ⟨rfl, by simp⟩
  | ok answer =>
    dsimp only
    rw [(respects_readEntry jar _ ready otherReady reads).1]
    cases (readEntry jar (ClassName.entryOf className) setting ready).1 with
    | error error => exact ⟨rfl, by simp⟩
    | ok content =>
      have sameWritten : (Files.write (directory.down names) (.text content) setting otherReady).1 =
          (Files.write (directory.down names) (.text content) setting ready).1 :=
        write_congr straight below _ aroundMade
      dsimp only
      rcases wrote : Files.write (directory.down names) (.text content) setting ready
        with ⟨result, written⟩
      rcases otherWrote : Files.write (directory.down names) (.text content) setting otherReady
        with ⟨otherResult, otherWritten⟩
      rw [wrote, otherWrote] at sameWritten
      cases sameWritten
      cases result with
      | error error => exact ⟨rfl, by simp⟩
      | ok answer =>
        refine ⟨rfl, ?_⟩
        rintro file ⟨⟩
        have someSegments : (directory.down names).segments ≠ [] := by simp [Path.down, some]
        exact (contentAt_of_run_write plain someSegments otherWrote).trans
          (contentAt_of_run_write plain someSegments wrote).symm

end

end Archive

end JarAtlas
