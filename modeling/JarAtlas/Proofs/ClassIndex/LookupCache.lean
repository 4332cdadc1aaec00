import JarAtlas.Proofs.ClassIndex.Scanning

/-!
# The lookup cache

A lookup remembers the table of an index with the time of the file. What is remembered was read from
the file at some point of the run when it carried that time. So as long as no two contents of an
index ever carry the same time, a lookup answers what it would answer with nothing remembered,
whatever scans, lookups and changes from elsewhere came before.
-/

namespace JarAtlas

/-- The session with nothing remembered. -/
def Session.forget (session : Session) : Session := { session with memory := .empty }

namespace ClassIndex

open Action

/-! ### Lookups step by step -/

/-- The lookup table that an index of the content gives. -/
def tableOf (project : Text) (content : Content) : Except Error LookupTable :=
  (valueOf (pathOf project)
    (if Files.hasNull (pathOf project).text then .error .nullInPath else .ok content)).bind tableIn

section

variable {setting : Setting} {session : Session} {directory : Place} {trees : List FileTree}
  {project : Text}

theorem run_readTable_of_lookup {content : Content} {stamp : Int}
    (found : session.files.lookup setting.host.workingDirectory (pathOf project) =
      .ok (.file content stamp)) :
    readTable (pathOf project) setting session = (tableOf project content, session) := by
  rw [run_readTable, contentAt_pathOf found, tableOf]

theorem run_lookupTable : lookupTable project setting session =
    match Files.foundAt session.files setting.host.workingDirectory (pathOf project) with
    | .error error => (.error error, session)
    | .ok none => (.error (.indexMissing (pathOf project).text), session)
    | .ok (some .directory) => readTable (pathOf project) setting session
    | .ok (some (.file _ stamp)) =>
      match remembered? session.memory (pathOf project).text stamp with
      | some table => (.ok table, session)
      | none =>
        match readTable (pathOf project) setting session with
        | (.ok table, session) =>
          (.ok table,
            { session with
              memory := rememberTable (pathOf project).text stamp table session.memory })
        | (.error error, session) => (.error error, session) := by
  unfold lookupTable
  rw [run_bind, Files.run_find?]
  cases Files.foundAt session.files setting.host.workingDirectory (pathOf project) with
  | error error => rfl
  | ok found =>
    cases found with
    | none => rfl
    | some node =>
      cases node with
      | directory => rfl
      | file content stamp =>
        dsimp only
        rw [run_bind, run_memory]
        dsimp only
        cases remembered? session.memory (pathOf project).text stamp with
        | some table => rfl
        | none =>
          dsimp only
          rw [run_bind]
          rcases readTable (pathOf project) setting session with ⟨result, after⟩
          cases result <;> rfl

/-- What a lookup answers is decided by the index file and the remembered tables. -/
theorem lookupTable_congr {later : Session}
    (found : Files.foundAt later.files setting.host.workingDirectory (pathOf project) =
      Files.foundAt session.files setting.host.workingDirectory (pathOf project))
    (tables : later.memory.tables = session.memory.tables) :
    (lookupTable project setting later).1 = (lookupTable project setting session).1 := by
  have sameContent : ∀ node, Files.foundAt session.files setting.host.workingDirectory
      (pathOf project) = .ok (some node) →
      Files.contentAt later.files setting.host.workingDirectory (pathOf project).text =
        Files.contentAt session.files setting.host.workingDirectory (pathOf project).text := by
    intro node isThere
    have here := Files.lookup_of_foundAt isThere
    have there := Files.lookup_of_foundAt (found.trans isThere)
    rw [Files.contentAt, Files.contentAt, lookupWritten_pathOf, lookupWritten_pathOf, here, there]
  have remembers : ∀ path stamp,
      remembered? later.memory path stamp = remembered? session.memory path stamp := by
    intro path stamp
    unfold remembered?
    rw [tables]
  rw [run_lookupTable, run_lookupTable, found]
  split
  · rfl
  · rfl
  · rename_i isThere
    rw [run_readTable, run_readTable, sameContent _ isThere]
  · rename_i isThere
    rw [remembers]
    split
    · rfl
    · rw [run_readTable, run_readTable, sameContent _ isThere]
      split <;> simp_all

/-! ### What is remembered -/

/-- The trees are told apart by the times of index files: no two contents of one index carry the
same time. -/
def StampsTell (directory : Place) (trees : List FileTree) : Prop :=
  ∀ (project : Text) (content other : Content) (stamp : Int), ∀ first ∈ trees, ∀ second ∈ trees,
    first.lookup directory (pathOf project) = .ok (.file content stamp) →
    second.lookup directory (pathOf project) = .ok (.file other stamp) → content = other

/-- A table was read from a file that carried the time. -/
def WasRead (directory : Place) (trees : List FileTree) (key : Text) (time : Int)
    (table : LookupTable) : Prop :=
  ∃ project content, key = (pathOf project).text ∧ tableOf project content = .ok table ∧
    ∃ tree ∈ trees, tree.lookup directory (pathOf project) = .ok (.file content time)

/-- Everything that is remembered was read. -/
def Remembers (directory : Place) (trees : List FileTree) (memory : Memory) : Prop :=
  ∀ key time table, (key, time, table) ∈ memory.tables → WasRead directory trees key time table

theorem mem_of_remembered? {memory : Memory} {path : Text} {stamp : Int} {table : LookupTable}
    (known : remembered? memory path stamp = some table) : (path, stamp, table) ∈ memory.tables := by
  unfold remembered? at known
  split at known
  · rename_i other time remembered found
    have member := List.mem_of_find?_eq_some found
    have same := List.find?_some found
    simp only [Option.ite_none_right_eq_some, Option.some.injEq] at known
    simp only [beq_iff_eq] at same
    rw [← same, ← known.1, ← known.2]
    exact member
  · cases known

/-- A remembered table is the one that the file gives now. -/
theorem tableOf_of_remembered? {content : Content} {stamp : Int} {table : LookupTable}
    (remembers : Remembers directory trees session.memory) (known : session.files ∈ trees)
    (apart : StampsTell directory trees)
    (found : session.files.lookup directory (pathOf project) = .ok (.file content stamp))
    (again : remembered? session.memory (pathOf project).text stamp = some table) :
    tableOf project content = .ok table := by
  rcases remembers _ _ _ (mem_of_remembered? again)
    with ⟨other, earlier, sameText, reads, tree, inTrees, foundEarlier⟩
  have same : pathOf project = pathOf other := pathOf_eq_of_text_eq sameText
  rw [← same] at foundEarlier
  have sameContent := apart project _ _ _ _ known _ inTrees found foundEarlier
  rw [sameContent, ← reads, tableOf, tableOf, same]

/-- A lookup table is what it would be with nothing remembered. -/
theorem lookupTable_forget (remembers : Remembers directory trees session.memory)
    (known : session.files ∈ trees) (apart : StampsTell directory trees)
    (here : setting.host.workingDirectory = directory) :
    (lookupTable project setting session).1 = (lookupTable project setting session.forget).1 := by
  have sameFiles : session.forget.files = session.files := rfl
  rw [run_lookupTable, run_lookupTable, sameFiles, here]
  cases found : Files.foundAt session.files directory (pathOf project) with
  | error error => rfl
  | ok found? =>
    cases found? with
    | none => rfl
    | some node =>
      cases node with
      | directory =>
        dsimp only
        rw [run_readTable, run_readTable, sameFiles]
      | file content stamp =>
        have looked := Files.lookup_of_foundAt found
        have nothing : remembered? session.forget.memory (pathOf project).text stamp = none := rfl
        have lookedHere : session.files.lookup setting.host.workingDirectory (pathOf project) =
            .ok (.file content stamp) := here ▸ looked
        have fresh : readTable (pathOf project) setting session.forget =
            (tableOf project content, session.forget) := run_readTable_of_lookup lookedHere
        dsimp only
        rw [nothing, fresh, run_readTable_of_lookup lookedHere]
        cases again : remembered? session.memory (pathOf project).text stamp with
        | some table =>
          rw [tableOf_of_remembered? remembers known apart looked again]
        | none => cases tableOf project content <;> rfl

/-- What a lookup remembers was read. -/
theorem remembers_lookupTable (remembers : Remembers directory trees session.memory)
    (known : session.files ∈ trees) (here : setting.host.workingDirectory = directory) :
    Remembers directory trees (lookupTable project setting session).2.memory := by
  rw [run_lookupTable, here]
  cases found : Files.foundAt session.files directory (pathOf project) with
  | error error => exact remembers
  | ok found? =>
    cases found? with
    | none => exact remembers
    | some node =>
      cases node with
      | directory =>
        dsimp only
        rw [run_readTable]
        exact remembers
      | file content stamp =>
        have looked := Files.lookup_of_foundAt found
        dsimp only
        cases again : remembered? session.memory (pathOf project).text stamp with
        | some table => exact remembers
        | none =>
          have reads : readTable (pathOf project) setting session =
              (tableOf project content, session) := run_readTable_of_lookup (here ▸ looked)
          rw [reads]
          cases table : tableOf project content with
          | error error => exact remembers
          | ok table =>
            intro key time other member
            rcases List.mem_cons.mp member with new | old
            · cases new
              exact ⟨project, content, rfl, table, session.files, known, looked⟩
            · exact remembers key time other (List.mem_filter.mp old).1

/-! ### Runs -/

theorem run_jarOf? (className : Json) : jarOf? className project setting session =
    (do let table ← (lookupTable project setting session).1
        let key ← keyOf className
        pure (jarIn? table key),
      (lookupTable project setting session).2) := by
  unfold jarOf?
  rw [run_bind]
  rcases lookupTable project setting session with ⟨result, after⟩
  cases result with
  | error error => rfl
  | ok table =>
    dsimp only
    rw [run_bind, run_ofExcept]
    cases keyOf className <;> rfl

theorem run_classNames : classNames project setting session =
    match Files.foundAt session.files setting.host.workingDirectory (pathOf project) with
    | .error error => (.error error, session)
    | .ok none => (.ok [], session)
    | .ok (some _) =>
      ((lookupTable project setting session).1.map fun table => table.map Prod.fst,
        (lookupTable project setting session).2) := by
  unfold classNames doesExist
  rw [run_bind, Files.run_doesExist]
  cases Files.foundAt session.files setting.host.workingDirectory (pathOf project) with
  | error error => rfl
  | ok found =>
    cases found with
    | none => rfl
    | some node =>
      simp only [Except.map, Option.isSome_some, if_true]
      rw [run_bind]
      rcases lookupTable project setting session with ⟨result, after⟩
      cases result <;> rfl

end

/-- Something that happens to the indexes of projects: a scan, a lookup, or a change of files from
elsewhere. -/
inductive Event
  | scan (project : Text) (force : Bool)
  | find (className : Json) (project : Text)
  | list (project : Text)
  | change (files : FileTree) (clock : Int)

/-- The session behind an event. -/
def Event.after (event : Event) (setting : Setting) (session : Session) : Session :=
  match event with
  | .scan project force => (ClassIndex.scan project force setting session).2
  | .find className project => (jarOf? className project setting session).2
  | .list project => (classNames project setting session).2
  | .change files clock => { session with files, clock }

/-- The sessions of a run: the first, and one behind every event. -/
def sessions (session : Session) : List (Setting × Event) → List Session
  | [] => [session]
  | (setting, event) :: others => session :: sessions (event.after setting session) others

section

variable {directory : Place} {trees : List FileTree}

theorem remembers_after {setting : Setting} {session : Session} (event : Event)
    (remembers : Remembers directory trees session.memory) (known : session.files ∈ trees)
    (here : setting.host.workingDirectory = directory) :
    Remembers directory trees (event.after setting session).memory := by
  cases event with
  | scan project force =>
    have kept := keeps_scan project force setting session
    change Remembers directory trees (ClassIndex.scan project force setting session).2.memory
    rw [kept]
    exact remembers
  | find className project =>
    change Remembers directory trees (jarOf? className project setting session).2.memory
    rw [run_jarOf?]
    exact remembers_lookupTable remembers known here
  | list project =>
    have lookedUp : Remembers directory trees (lookupTable project setting session).2.memory :=
      remembers_lookupTable remembers known here
    change Remembers directory trees (classNames project setting session).2.memory
    rw [run_classNames]
    split
    · exact remembers
    · exact remembers
    · exact lookedUp
  | change files clock => exact remembers

/-- Along a run, everything that is remembered was read. -/
theorem remembers_of_mem_sessions {session : Session} {events : List (Setting × Event)}
    (remembers : Remembers directory trees session.memory)
    (known : ∀ state ∈ sessions session events, state.files ∈ trees)
    (here : ∀ event ∈ events, event.1.host.workingDirectory = directory) :
    ∀ state ∈ sessions session events, Remembers directory trees state.memory := by
  induction events generalizing session with
  | nil =>
    intro state member
    rw [List.mem_singleton.mp member]
    exact remembers
  | cons event others ih =>
    rcases event with ⟨setting, event⟩
    intro state member
    have knownHere : session.files ∈ trees := known session List.mem_cons_self
    have hereFirst : setting.host.workingDirectory = directory := here _ List.mem_cons_self
    rcases List.mem_cons.mp member with rfl | later
    · exact remembers
    · exact ih (remembers_after event remembers knownHere hereFirst)
        (fun state member => known state (List.mem_cons_of_mem _ member))
        (fun event member => here event (List.mem_cons_of_mem _ member)) state later

end

/-- Whatever happened before, a lookup answers what it would answer with nothing remembered, as long
as no two contents of an index ever carried the same time. -/
theorem lookups_forget {directory : Place} {start : Session} {events : List (Setting × Event)}
    (unremembered : start.memory.tables = [])
    (here : ∀ event ∈ events, event.1.host.workingDirectory = directory)
    (apart : StampsTell directory ((sessions start events).map Session.files))
    {session : Session} (reached : session ∈ sessions start events) {setting : Setting}
    (hereNow : setting.host.workingDirectory = directory) (className : Json) (project : Text) :
    (jarOf? className project setting session).1 =
        (jarOf? className project setting session.forget).1 ∧
      (classNames project setting session).1 = (classNames project setting session.forget).1 := by
  let trees := (sessions start events).map Session.files
  have known : ∀ state ∈ sessions start events, state.files ∈ trees := fun state member =>
    List.mem_map_of_mem member
  have nothing : Remembers directory trees start.memory := by
    intro key time table member
    rw [unremembered] at member
    contradiction
  have remembers := remembers_of_mem_sessions nothing known here session reached
  have same : (lookupTable project setting session).1 =
      (lookupTable project setting session.forget).1 :=
    lookupTable_forget remembers (known session reached) apart hereNow
  have sameFiles : session.forget.files = session.files := rfl
  refine ⟨?_, ?_⟩
  · rw [run_jarOf?, run_jarOf?, same]
  · rw [run_classNames, run_classNames, sameFiles, same]
    split <;> rfl

/-- The contents of the files of a tree, each with the time of its file. -/
def stampedContents (tree : FileTree) : List (Int × Content) :=
  tree.nodes.filterMap fun (_, node) =>
    match node with
    | .directory => none
    | .file content stamp => some (stamp, content)

theorem mem_stampedContents_of_lookup {tree : FileTree} {directory : Place} {path : Path}
    {content : Content} {stamp : Int}
    (found : tree.lookup directory path = .ok (.file content stamp)) :
    (stamp, content) ∈ stampedContents tree := by
  unfold FileTree.lookup at found
  split at found
  · contradiction
  · rename_i place located
    split at found
    · contradiction
    · rename_i node standing
      cases found
      unfold FileTree.node? at standing
      split_ifs at standing
      · cases standing
      · rcases Option.map_eq_some_iff.mp standing with ⟨entry, isThere, second⟩
        refine List.mem_filterMap.mpr ⟨entry, List.mem_of_find?_eq_some isThere, ?_⟩
        simp [second]

/-- Times tell contents apart if they do so among all files. -/
theorem stampsTell_of_forall {directory : Place} {trees : List FileTree}
    (apart : ∀ first ∈ trees.flatMap stampedContents, ∀ second ∈ trees.flatMap stampedContents,
      first.1 = second.1 → first.2 = second.2) :
    StampsTell directory trees := by
  intro project content other stamp first firstIn second secondIn found foundOther
  exact apart _ (List.mem_flatMap.mpr ⟨first, firstIn, mem_stampedContents_of_lookup found⟩)
    _ (List.mem_flatMap.mpr ⟨second, secondIn, mem_stampedContents_of_lookup foundOther⟩) rfl

/-- A project with an index that gives a jar for the class `A`, written at a time. -/
def indexedProject (jar : Text) (stamp : Int) : FileTree :=
  ⟨[(["work"], .directory),
    (["work", fileName], .file
      (.text ("\x7b\"class_index\": [\x7b\"class_name\": \"A\", \"jar_path\": \"" ++ jar ++
        "\"\x7d]\x7d")) stamp)]⟩

def workSetting : Setting where
  host :=
    { workingDirectory := ["work"], temporaryDirectory := ["tmp"], programRoot := [],
      environment := [], isWindows := false, commands := [], time := "now",
      answer := fun _ => .timedOut }
  config := .standard

/-- A run in which an index is replaced after a lookup. -/
def replacedIndex : List (Setting × Event) :=
  [(workSetting, .change (indexedProject "old.jar" 1) 2), (workSetting, .find (.text "A") "."),
    (workSetting, .change (indexedProject "new.jar" 2) 3)]

/-- What was remembered of the replaced index is not used. -/
theorem lookups_forget_replaced :
    let start : Session := { files := .empty, clock := 0, launches := [], memory := .empty }
    ∃ session ∈ sessions start replacedIndex, session.memory.tables.length = 1 ∧
      session.files = indexedProject "new.jar" 2 ∧
      (jarOf? (.text "A") "." workSetting session).1 =
        (jarOf? (.text "A") "." workSetting session.forget).1 := by
  intro start
  have apart : StampsTell ["work"] ((sessions start replacedIndex).map Session.files) := by
    apply stampsTell_of_forall
    decide +kernel
  refine ⟨_, .tail _ (.tail _ (.tail _ (.head _))), ?_, rfl, ?_⟩
  · decide +kernel
  · exact (lookups_forget rfl (by decide) apart (.tail _ (.tail _ (.tail _ (.head _)))) rfl
      (.text "A") ".").1

end ClassIndex

end JarAtlas
