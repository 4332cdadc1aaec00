import JarAtlas.Analysis
import JarAtlas.Proofs.ClassIndex.LookupCache
import JarAtlas.Proofs.Session.Repetition

/-!
# Analyses agree

An analysis reads files, launches tools, and remembers the table of the index and the disassembler's
command. None of this changes what another analysis answers: a remembered table is the one that is
looked up without it, and so is a remembered command. So an analysis answers the same in a session
and in any later one that other analyses have led to.
-/

namespace JarAtlas

open Action ClassIndex

/-! ### Operations that only read files -/

namespace Files

variable {setting : Setting}

theorem readsFiles_find? (path : Path) : ReadsFiles setting (find? path) :=
  .of_keeps (keeps_find? path) fun same => by rw [run_find?, run_find?, same]

theorem readsFiles_doesExist (path : Path) : ReadsFiles setting (doesExist path) :=
  (readsFiles_find? path).bind fun _ => .pure _

theorem readsFiles_read (written : Text) : ReadsFiles setting (read written) :=
  .of_keeps (keeps_read written) fun same => by rw [run_read, run_read, same]

end Files

namespace Tool

variable {setting : Setting}

theorem readsFiles_inputOf (command : List Text) : ReadsFiles setting (inputOf command) := by
  unfold inputOf
  split
  · split_ifs
    · apply (Files.readsFiles_read _).attempt.bind
      intro read
      split
      · exact .pure _
      · exact .pure _
    · exact .pure _
  · exact .pure _

theorem readsFiles_launch (command : List Text) (timeout : Binary64) (directory : Option Text) :
    ReadsFiles setting (launch command timeout directory) := by
  apply (readsFiles_inputOf command).bind
  intro input
  have logs : ReadsFiles setting (modify fun session => { session with
      launches := session.launches ++ [⟨command, directory, timeout, input⟩] } : Action Unit) :=
    { logs := fun _ => ⟨_, rfl⟩, again := fun _ => rfl }
  exact logs.bind fun _ => ReadsFiles.host.bind fun _ => .pure _

theorem readsFiles_run (command : List Text) (timeout : Binary64) (directory : Option Text) :
    ReadsFiles setting (run command timeout directory) :=
  (readsFiles_launch command timeout directory).bind fun _ => .ofExcept _

theorem readsFiles_javapCommand : ReadsFiles setting javapCommand := by
  apply ReadsFiles.host.bind
  intro host
  apply ReadsFiles.config.bind
  intro config
  cases given config.javaHome with
  | some home => exact .pure _
  | none =>
    dsimp only
    split_ifs
    · exact .pure _
    · have discovers : ReadsFiles setting discoverJavaHome := by
        apply (readsFiles_launch _ _ _).bind
        intro result
        split
        · exact .pure _
        · exact .pure _
      apply discovers.bind
      intro home
      split
      · exact .pure _
      · apply (Files.readsFiles_doesExist _).bind
        intro isThere
        cases isThere with
        | true => exact .pure _
        | false =>
          apply (Files.readsFiles_doesExist _).bind
          intro isAbove
          cases isAbove with
          | true => exact .pure _
          | false => exact .pure _

end Tool

namespace Analysis

/-! ### What is remembered -/

section

variable {setting : Setting} {session later : Session} {project : Text}

theorem lookupTable_congr (files : later.files = session.files)
    (tables : later.memory.tables = session.memory.tables) :
    (lookupTable project setting later).1 = (lookupTable project setting session).1 :=
  ClassIndex.lookupTable_congr (by rw [files]) tables

theorem readsFiles_readTable (project : Text) : ReadsFiles setting (readTable (pathOf project)) :=
  .of_keeps (fun setting session => by rw [run_readTable])
    fun same => by rw [run_readTable, run_readTable, same]

theorem remembered?_rememberTable (path : Text) (stamp : Int) (table : LookupTable)
    (memory : Memory) : remembered? (rememberTable path stamp table memory) path stamp = some table := by
  simp [remembered?, rememberTable]

theorem run_disassembler : disassembler setting session =
    match session.memory.javap with
    | some command => (.ok command, session)
    | none =>
      match Tool.javapCommand setting session with
      | (.ok command, session) =>
        (.ok command, { session with memory := { session.memory with javap := some command } })
      | (.error error, session) => (.error error, session) := by
  unfold disassembler
  rw [run_bind, run_memory]
  dsimp only
  cases session.memory.javap with
  | some command => rfl
  | none =>
    dsimp only
    rw [run_bind]
    rcases Tool.javapCommand setting session with ⟨result, after⟩
    cases result <;> rfl

theorem disassembler_congr (files : later.files = session.files)
    (javap : later.memory.javap = session.memory.javap) :
    (disassembler setting later).1 = (disassembler setting session).1 := by
  have same := (@Tool.readsFiles_javapCommand setting).again files
  rw [run_disassembler, run_disassembler, javap]
  split
  · rfl
  · generalize Tool.javapCommand setting session = outcome at same ⊢
    generalize Tool.javapCommand setting later = laterOutcome at same ⊢
    rcases outcome with ⟨result, after⟩
    rcases laterOutcome with ⟨laterResult, laterAfter⟩
    cases same
    cases result <;> rfl

end

/-- A later session of a search: the files are the same, the index of the project and the
disassembler's command are found to be the same, and a command that is remembered stays. -/
structure Agrees (setting : Setting) (project : Text) (session later : Session) : Prop where
  files : later.files = session.files
  table : (lookupTable project setting later).1 = (lookupTable project setting session).1
  command : (disassembler setting later).1 = (disassembler setting session).1
  stays : ∀ command, session.memory.javap = some command → later.memory.javap = some command

variable {setting : Setting} {project : Text} {session later : Session}

instance : IsPreorder Session (Agrees setting project) where
  refl _ := ⟨rfl, rfl, rfl, fun _ => id⟩
  trans _ _ _ first second :=
    ⟨second.files.trans first.files, second.table.trans first.table,
      second.command.trans first.command, fun command known =>
        second.stays command (first.stays command known)⟩

theorem agrees_launches (session : Session) (launches : List Launch) :
    Agrees setting project session { session with launches } where
  files := rfl
  table := lookupTable_congr rfl rfl
  command := disassembler_congr rfl rfl
  stays _ := id

/-- What reads files alone may be part of a search. -/
theorem repeats_of_readsFiles {α : Type} {action : Action α} (reads : ReadsFiles setting action) :
    Repeats (Agrees setting project) setting action :=
  reads.repeats agrees_launches Agrees.files

/-- A table that is looked up is the one that is remembered then. -/
theorem agrees_rememberTable {stamp : Int} {content : Content} {table : LookupTable}
    (found : Files.foundAt session.files setting.host.workingDirectory (pathOf project) =
      .ok (some (.file content stamp)))
    (gives : (lookupTable project setting session).1 = .ok table) :
    Agrees setting project session { session with
      memory := rememberTable (pathOf project).text stamp table session.memory } where
  files := rfl
  table := by
    rw [gives, run_lookupTable, found]
    dsimp only
    rw [remembered?_rememberTable]
  command := disassembler_congr rfl rfl
  stays _ := id

/-- A command that is remembered is the one that is found without it. -/
theorem agrees_rememberCommand {command : Text}
    (gives : (disassembler setting session).1 = .ok command) :
    Agrees setting project session
      { session with memory := { session.memory with javap := some command } } where
  files := rfl
  table := lookupTable_congr rfl rfl
  command := by
    rw [gives]
    exact congrArg Prod.fst run_disassembler
  stays known remembered := by
    rw [run_disassembler, remembered] at gives
    cases gives
    rfl

theorem repeats_lookupTable :
    Repeats (Agrees setting project) setting (lookupTable project) where
  again agrees := agrees.table
  leads session := by
    have refl : Agrees setting project session session := Std.Refl.refl session
    have looked := @run_lookupTable setting session project
    rw [looked]
    split
    · exact refl
    · exact refl
    · rw [run_readTable]
      exact refl
    · rename_i content stamp found
      rw [found] at looked
      split
      · exact refl
      · rename_i nothing
        rw [run_readTable] at looked ⊢
        dsimp only at looked
        rw [nothing] at looked
        cases gives : (valueOf (pathOf project) (Files.contentAt session.files
            setting.host.workingDirectory (pathOf project).text)).bind tableIn with
        | error error => exact refl
        | ok table =>
          rw [gives] at looked
          exact agrees_rememberTable found (congrArg Prod.fst looked)

theorem repeats_disassembler : Repeats (Agrees setting project) setting disassembler where
  again agrees := agrees.command
  leads session := by
    rcases (@Tool.readsFiles_javapCommand setting).logs session with ⟨launches, logged⟩
    have ran := @run_disassembler setting session
    rw [ran]
    split
    · exact Std.Refl.refl session
    · rename_i nothing
      rw [nothing] at ran
      generalize Tool.javapCommand setting session = outcome at logged ran ⊢
      rcases outcome with ⟨result, after⟩
      dsimp only at logged ran
      subst logged
      cases result with
      | error error => exact agrees_launches session launches
      | ok command =>
        have remembers : Agrees setting project session
            { session with memory := { session.memory with javap := some command } } :=
          agrees_rememberCommand (by rw [ran])
        exact IsTrans.trans _ _ _ remembers (agrees_launches _ launches)

/-! ### Analyses -/

theorem repeats_jarOf (className : Json) :
    Repeats (Agrees setting project) setting (jarOf className project) := by
  have looks : Repeats (Agrees setting project) setting (jarOf? className project) :=
    repeats_lookupTable.bind fun _ => (Repeats.ofExcept _).bind fun _ => .pure _
  apply looks.bind
  intro jar
  split
  · exact .pure _
  · exact .fail _

theorem repeats_listingCommand (jar : Text) :
    Repeats (Agrees setting project) setting (listingCommand jar) :=
  repeats_disassembler.bind fun _ => Repeats.config.bind fun _ => .pure _

/-- An analysis answers in a later session what it answered before, and the session behind it is a
later one. -/
theorem repeats_analyze (className : Json) :
    Repeats (Agrees setting project) setting (analyze className project) := by
  apply (repeats_jarOf className).bind
  intro jar
  split
  · refine Repeats.bind ?_ fun _ => .ofExcept _
    apply (repeats_listingCommand _).bind
    intro command
    apply Repeats.config.bind
    intro config
    apply (repeats_of_readsFiles (Tool.readsFiles_run _ _ _)).bind
    intro output
    split_ifs
    · exact .fail _
    · exact .pure _
  · exact .fail _
  · exact (repeats_listingCommand _).bind fun _ => .fail _

end Analysis

end JarAtlas
