import JarAtlas.Proofs.Analysis.Agreement
import JarAtlas.Proofs.Session.Routines

/-!
# An analysis among others

The analyses of a search share what is remembered: the table of the index and the disassembler's
command. Here an analysis is cut where it reads or changes either of them, so that others may come
in between. Taken without a break it is the analysis as it stands, and whatever other analyses do in
between, it comes to the same result.
-/

namespace JarAtlas.Analysis

open Action ClassIndex Routine

/-! ### Routines -/

/-- The lookup of the index: what is remembered is read and changed in steps of their own. -/
def lookupRoutine (setting : Setting) (project : Text) : Routine LookupTable := do
  let path := pathOf project
  match ← single setting (Files.find? path) with
  | none => done (.error (.indexMissing path.text))
  | some .directory => single setting (readTable path)
  | some (.file _ stamp) =>
    match remembered? (← single setting memory) path.text stamp with
    | some table => pure table
    | none =>
      let table ← single setting (readTable path)
      single setting (remember (rememberTable path.text stamp table))
      pure table

/-- The disassembler's command: it is remembered if it was not, and what is remembered then is used.
-/
def disassemblerRoutine (setting : Setting) : Routine Text := do
  if (← single setting memory).javap.isNone then
    let command ← single setting Tool.javapCommand
    single setting (remember fun memory => { memory with javap := some command })
  return (← single setting memory).javap.getD []

/-- The jar of a class that has to be in the index. -/
def jarRoutine (setting : Setting) (className : Json) (project : Text) : Routine Json := do
  let table ← lookupRoutine setting project
  let key ← done (keyOf className)
  match (jarIn? table key).filter Json.isTruthy with
  | some jar => pure jar
  | none => done (.error (.unknownClass className.display))

/-- The command that lists a class in a jar, but for the class. -/
def commandRoutine (setting : Setting) (jar : Text) : Routine (List Text) := do
  let javap ← disassemblerRoutine setting
  let visibility : List Text := if setting.config.showPrivate then ["-p"] else []
  let place : List Text := ["-cp", jar]
  return javap :: "-v" :: visibility ++ place

/-- What follows once the command is known. -/
def listAndParse (name : Text) (command : List Text) : Action ClassSummary := do
  let output ← Tool.run (command ++ [name]) (← config).javapTimeout none
  if Text.isBlankText output then
    fail (.toolFailed "javap" ("no output for " ++ name))
  else Action.ofExcept ((Listing.parse (some output) (some name)).mapError .listing)

/-- The analysis of a class. -/
def analysisRoutine (setting : Setting) (project : Text) (className : Json) :
    Routine ClassSummary := do
  let jar ← jarRoutine setting className project
  match className with
  | .text name =>
    let command ← commandRoutine setting jar.display
    single setting (listAndParse name command)
  | .string (.broken codes) => done (.error (.ofBroken codes))
  | other =>
    let command ← commandRoutine setting jar.display
    done (.error (.wrongType (.notText command.length other.typeName)))

/-! ### Without a break -/

variable {setting : Setting} {project : Text} {session : Session}

theorem run_lookupRoutine :
    (lookupRoutine setting project).run session = lookupTable project setting session := by
  unfold lookupRoutine lookupTable
  rw [Routine.run_bind, run_single, Action.run_bind]
  rcases Files.find? (pathOf project) setting session with ⟨result, after⟩
  cases result with
  | error error => rfl
  | ok found =>
    cases found with
    | none => rfl
    | some node =>
      cases node with
      | directory => rfl
      | file content stamp =>
        dsimp only
        rw [Routine.run_bind, run_single, Action.run_bind, run_memory]
        dsimp only
        cases remembered? after.memory (pathOf project).text stamp with
        | some table => rfl
        | none =>
          dsimp only
          rw [Routine.run_bind, run_single, Action.run_bind]
          rcases readTable (pathOf project) setting after with ⟨read, behind⟩
          cases read <;> rfl

theorem run_disassemblerRoutine :
    (disassemblerRoutine setting).run session = disassembler setting session := by
  unfold disassemblerRoutine
  rw [run_disassembler, Routine.run_bind, run_single, run_memory]
  dsimp only
  cases known : session.memory.javap with
  | some command =>
    rw [Option.isNone_some, if_neg (by decide)]
    change (Except.ok (session.memory.javap.getD []), session) = _
    rw [known]
    rfl
  | none =>
    rw [Option.isNone_none, if_pos rfl, Routine.run_bind, run_single]
    rcases Tool.javapCommand setting session with ⟨result, after⟩
    cases result <;> rfl

theorem run_jarRoutine (className : Json) :
    (jarRoutine setting className project).run session = jarOf className project setting session := by
  unfold jarRoutine jarOf jarOf?
  rw [Routine.run_bind, run_lookupRoutine, Action.run_bind, Action.run_bind]
  rcases lookupTable project setting session with ⟨result, after⟩
  cases result with
  | error error => rfl
  | ok table =>
    dsimp only
    rw [Routine.run_bind, run_done, Action.run_bind, run_ofExcept]
    cases keyOf className with
    | error error => rfl
    | ok key =>
      dsimp only
      rw [Action.run_pure]
      dsimp only
      cases (jarIn? table key).filter Json.isTruthy <;> rfl

theorem run_commandRoutine (jar : Text) :
    (commandRoutine setting jar).run session = listingCommand jar setting session := by
  unfold commandRoutine listingCommand
  rw [Routine.run_bind, run_disassemblerRoutine, Action.run_bind]
  rcases disassembler setting session with ⟨result, after⟩
  cases result <;> rfl

theorem run_disassemble (name jar : Text) :
    (do let listing ← disassemble name jar
        Action.ofExcept ((Listing.parse (some listing) (some name)).mapError .listing))
        setting session =
      (do let command ← listingCommand jar
          listAndParse name command : Action ClassSummary) setting session := by
  unfold disassemble listAndParse
  simp only [Action.run_bind]
  rcases listingCommand jar setting session with ⟨result, after⟩
  cases result with
  | error error => rfl
  | ok command =>
    simp only [run_config]
    rcases Tool.run (command ++ [name]) setting.config.javapTimeout none setting after
      with ⟨output, behind⟩
    cases output with
    | error error => rfl
    | ok output =>
      dsimp only
      split_ifs <;> rfl

/-- The steps of an analysis without a break are the analysis. -/
theorem run_analysisRoutine (className : Json) :
    (analysisRoutine setting project className).run session =
      analyze className project setting session := by
  unfold analysisRoutine analyze
  rw [Routine.run_bind, run_jarRoutine, Action.run_bind]
  rcases jarOf className project setting session with ⟨result, after⟩
  cases result with
  | error error => rfl
  | ok jar =>
    have refused : ∀ type, (do
          let command ← commandRoutine setting jar.display
          done (.error (.wrongType (.notText command.length type))) :
            Routine ClassSummary).run after =
        (do let command ← listingCommand jar.display
            fail (.wrongType (.notText command.length type)) : Action ClassSummary)
          setting after := by
      intro type
      rw [Routine.run_bind, run_commandRoutine, Action.run_bind]
      rcases listingCommand jar.display setting after with ⟨command, behind⟩
      cases command <;> rfl
    cases className with
    | string value =>
      cases value with
      | text name =>
        dsimp only
        rw [run_disassemble, Routine.run_bind, run_commandRoutine, Action.run_bind]
        rcases listingCommand jar.display setting after with ⟨command, behind⟩
        cases command <;> rfl
      | broken codes => rfl
    | _ => exact refused _

/-! ### Among others -/

theorem lookupTable_of_file {content : Content} {stamp : Int}
    (found : Files.foundAt session.files setting.host.workingDirectory (pathOf project) =
      .ok (some (.file content stamp))) :
    (lookupTable project setting session).1 =
      match remembered? session.memory (pathOf project).text stamp with
      | some table => .ok table
      | none => (readTable (pathOf project) setting session).1 := by
  rw [run_lookupTable, found]
  dsimp only
  cases remembered? session.memory (pathOf project).text stamp with
  | some table => rfl
  | none =>
    dsimp only
    rcases readTable (pathOf project) setting session with ⟨result, after⟩
    cases result <;> rfl

/-- A table is remembered once it was read, and is the answer. -/
theorem settlesOn_rememberTable {content : Content} {stamp : Int} {table : LookupTable}
    (found : Files.foundAt session.files setting.host.workingDirectory (pathOf project) =
      .ok (some (.file content stamp)))
    (gives : (lookupTable project setting session).1 = .ok table) :
    SettlesOn (Agrees setting project) (.ok table)
      (do single setting (remember (rememberTable (pathOf project).text stamp table))
          pure table : Routine LookupTable) session := by
  refine settlesOn_single_bind (fun later agrees => ?_) (fun _ _ _ _ => rfl)
    (fun _ _ _ impossible => by cases impossible)
  apply agrees_rememberTable
  · rw [agrees.files, found]
  · rw [agrees.table, gives]

/-- Whatever others remember in between, a lookup comes to the table that it would find by itself. -/
theorem settlesOn_lookupRoutine : (lookupRoutine setting project).SettlesOn
    (Agrees setting project) (lookupTable project setting session).1 session := by
  unfold lookupRoutine
  have finds : Repeats (Agrees setting project) setting (Files.find? (pathOf project)) :=
    repeats_of_readsFiles (Files.readsFiles_find? _)
  have reads : ReadsFiles setting (readTable (pathOf project)) := readsFiles_readTable project
  refine settlesOn_single_bind (fun later _ => finds.leads later) ?_ ?_
  · intro later agrees found? isFound
    rw [Files.run_find?] at isFound ⊢
    dsimp only at isFound
    rw [← agrees.table]
    cases found? with
    | none =>
      change Except.error _ = _
      rw [run_lookupTable, isFound]
    | some node =>
      cases node with
      | directory =>
        intro further agreesFurther
        refine ⟨(repeats_of_readsFiles reads).leads further, ?_⟩
        change (readTable (pathOf project) setting further).1 = _
        rw [run_lookupTable, isFound, reads.again agreesFurther.files]
      | file content stamp =>
        refine settlesOn_single_bind (fun later _ => Std.Refl.refl later) ?_ (by simp [run_memory])
        rintro second agreesSecond memory ⟨⟩
        rw [← agreesSecond.files] at isFound
        rw [← agreesSecond.table]
        have looked := lookupTable_of_file isFound
        cases known : remembered? second.memory (pathOf project).text stamp with
        | some table =>
          rw [known] at looked
          exact looked.symm
        | none =>
          rw [known] at looked
          refine settlesOn_single_bind
            (fun later _ => (repeats_of_readsFiles reads).leads later) ?_ ?_
          · intro third agreesThird table isTable
            change Agrees setting project second third at agreesThird
            change _ = (readTable (pathOf project) setting second).1 at looked
            rw [reads.again agreesThird.files] at isTable
            rw [isTable] at looked
            have agreesAll : Agrees setting project second
                (readTable (pathOf project) setting third).2 :=
              IsTrans.trans _ _ _ agreesThird ((repeats_of_readsFiles reads).leads third)
            rw [looked]
            exact settlesOn_rememberTable (by rw [agreesAll.files, isFound])
              (agreesAll.table.trans looked)
          · intro third agreesThird error isError
            rw [reads.again agreesThird.files] at isError
            exact looked.trans isError
  · intro later agrees error isError
    rw [Files.run_find?] at isError
    dsimp only at isError
    rw [← agrees.table, run_lookupTable, isError]

/-- A remembered command stays until it is used. -/
theorem settlesOn_memory {command : Text} (known : session.memory.javap = some command) :
    SettlesOn (Agrees setting project) (.ok command)
      (do return (← single setting memory).javap.getD [] : Routine Text) session := by
  refine settlesOn_single_bind (fun later _ => Std.Refl.refl later) ?_ (by simp [run_memory])
  rintro later agrees memory ⟨⟩
  change Except.ok (later.memory.javap.getD []) = _
  rw [agrees.stays command known]
  rfl

/-- Whoever remembers the command, it is the same one. -/
theorem settlesOn_rememberCommand {command : Text}
    (gives : (disassembler setting session).1 = .ok command) :
    SettlesOn (Agrees setting project) (.ok command)
      (do single setting (remember fun memory => { memory with javap := some command })
          return (← single setting memory).javap.getD [] : Routine Text) session :=
  settlesOn_single_bind (fun _ agrees => agrees_rememberCommand (agrees.command.trans gives))
    (fun _ _ _ _ => settlesOn_memory rfl) (fun _ _ _ impossible => by cases impossible)

/-- Whichever analysis finds the disassembler first, all use the same command. -/
theorem settlesOn_disassemblerRoutine : (disassemblerRoutine setting).SettlesOn
    (Agrees setting project) (disassembler setting session).1 session := by
  unfold disassemblerRoutine
  refine settlesOn_single_bind (fun later _ => Std.Refl.refl later) ?_ (by simp [run_memory])
  rintro later agrees memory ⟨⟩
  have ran := @run_disassembler setting later
  rw [← agrees.command]
  cases known : later.memory.javap with
  | some command =>
    rw [known] at ran
    rw [Option.isNone_some, if_neg (by decide), ran]
    exact settlesOn_memory known
  | none =>
    rw [Option.isNone_none, if_pos rfl]
    have finds := @Tool.readsFiles_javapCommand setting
    have found : ∀ second, Agrees setting project later second →
        (disassembler setting later).1 = (Tool.javapCommand setting second).1 := by
      intro second agreesSecond
      rw [finds.again agreesSecond.files, ran, known]
      dsimp only
      rcases Tool.javapCommand setting later with ⟨result, after⟩
      cases result <;> rfl
    refine settlesOn_single_bind (fun later _ => (repeats_of_readsFiles finds).leads later) ?_ ?_
    · intro second agreesSecond command isCommand
      have agreesAll : Agrees setting project later (Tool.javapCommand setting second).2 :=
        IsTrans.trans _ _ _ agreesSecond ((repeats_of_readsFiles finds).leads second)
      have gives : (disassembler setting later).1 = .ok command :=
        (found second agreesSecond).trans isCommand
      rw [gives]
      exact settlesOn_rememberCommand (agreesAll.command.trans gives)
    · exact fun second agreesSecond error isError => (found second agreesSecond).trans isError

theorem repeats_listAndParse (name : Text) (command : List Text) :
    Repeats (Agrees setting project) setting (listAndParse name command) := by
  apply Repeats.config.bind
  intro config
  apply (repeats_of_readsFiles (Tool.readsFiles_run _ _ _)).bind
  intro output
  split_ifs
  · exact .fail _
  · exact .ofExcept _

/-- Whatever others do in between, an analysis comes to what it comes to by itself. -/
theorem settlesOn_analysisRoutine (className : Json) :
    (analysisRoutine setting project className).SettlesOn (Agrees setting project)
      (analyze className project setting session).1 session := by
  have lists : ∀ jar, (commandRoutine setting jar).IsSettled (Agrees setting project) session :=
    fun jar => IsSettled.bind ⟨_, settlesOn_disassemblerRoutine⟩ fun _ => .done _
  have settled : (analysisRoutine setting project className).IsSettled (Agrees setting project)
      session := by
    refine IsSettled.bind ?_ fun jar => ?_
    · refine IsSettled.bind ⟨_, settlesOn_lookupRoutine⟩ fun table => ?_
      refine IsSettled.bind (.done _) fun key => ?_
      split
      · exact .done _
      · exact .done _
    · split
      · exact (lists _).bind fun command => .single (repeats_listAndParse _ _)
      · exact .done _
      · exact (lists _).bind fun command => .done _
  rcases settled with ⟨result, settles⟩
  have same := settles.run_fst
  rw [run_analysisRoutine] at same
  rw [same]
  exact settles

end JarAtlas.Analysis
