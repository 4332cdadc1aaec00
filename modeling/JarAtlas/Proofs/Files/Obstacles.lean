import JarAtlas.Proofs.Files.Temporary

/-!
# Obstacles

What making directories below a directory comes to in a proper tree, where the names are short enough:
it succeeds unless a file stands in the way, and then the path leads to a directory. So it comes to
the same in trees that hold the same files on the way, whichever of the directories are there.
-/

namespace JarAtlas

namespace FileTree

variable {tree other changed : FileTree} {workingDirectory here home place : Place}
  {directory : Path} {names : List Text}

/-! ### What stands in the way -/

/-- The fault of making a directory: a file stands in its place, or in the place of a directory above
it. -/
def obstacle? (tree : FileTree) (here : Place) : List Text → Option FileFault
  | [] => if (tree.file? here).isSome then some .alreadyThere else none
  | name :: names =>
    if (tree.file? here).isSome then some .notDirectory else tree.obstacle? (here ++ [name]) names

theorem file?_isSome : (tree.file? place).isSome ↔
    ∃ content stamp, tree.node? place = some (.file content stamp) := by
  unfold file?
  cases tree.node? place with
  | none => simp
  | some node => cases node <;> simp

theorem obstacle?_append_singleton (last : Text) : tree.obstacle? here (names ++ [last]) =
    if (tree.obstacle? here names).isSome then some .notDirectory
    else if (tree.file? (here ++ names ++ [last])).isSome then some .alreadyThere else none := by
  induction names generalizing here with
  | nil =>
    simp only [List.nil_append, List.append_nil, obstacle?]
    by_cases isFile : (tree.file? here).isSome
    · simp [isFile]
    · simp [isFile]
  | cons name names ih =>
    rw [List.append_cons here name names, List.cons_append, obstacle?, obstacle?, ih]
    by_cases isFile : (tree.file? here).isSome
    · simp [isFile]
    · simp [isFile]

theorem obstacle?_eq_none_iff : tree.obstacle? here names = none ↔
    ∀ front, front <+: names → tree.file? (here ++ front) = none := by
  induction names generalizing here with
  | nil => simp [obstacle?]
  | cons name names ih =>
    have step : tree.obstacle? here (name :: names) = none ↔
        tree.file? here = none ∧ tree.obstacle? (here ++ [name]) names = none := by
      rw [obstacle?]
      split_ifs with isFile
      · simp [Option.isSome_iff_ne_none.mp isFile]
      · simp [Option.not_isSome_iff_eq_none.mp isFile]
    rw [step, ih]
    constructor
    · rintro ⟨noFile, noneBelow⟩ front isPrefix
      cases front with
      | nil => rwa [List.append_nil]
      | cons first front =>
        rcases List.cons_prefix_cons.mp isPrefix with ⟨rfl, isFront⟩
        rw [List.append_cons]
        exact noneBelow front isFront
    · intro none
      refine ⟨?_, fun front isFront => ?_⟩
      · rw [← List.append_nil here]
        exact none [] List.nil_prefix
      · rw [← List.append_cons]
        exact none (name :: front) ((List.prefix_cons_inj name).mpr isFront)

/-- The same files on the way are the same obstacles. -/
theorem obstacle?_congr (same : ∀ front, front <+: names →
      (other.file? (here ++ front)).isSome = (tree.file? (here ++ front)).isSome) :
    other.obstacle? here names = tree.obstacle? here names := by
  induction names generalizing here with
  | nil =>
    have sameHere := same [] (List.prefix_refl _)
    rw [List.append_nil] at sameHere
    rw [obstacle?, obstacle?, sameHere]
  | cons name names ih =>
    have sameHere := same [] List.nil_prefix
    rw [List.append_nil] at sameHere
    have sameBelow : other.obstacle? (here ++ [name]) names =
        tree.obstacle? (here ++ [name]) names := by
      apply ih
      intro front isPrefix
      have below := same (name :: front) ((List.prefix_cons_inj name).mpr isPrefix)
      rwa [List.append_cons] at below
    rw [obstacle?, obstacle?, sameHere, sameBelow]

/-! ### Ways down in a proper tree -/

theorem walk_of_locate_down (located : tree.locate workingDirectory directory = .ok home)
    (further : tree.locate workingDirectory (directory.down names) = .ok place) :
    tree.walk home names = .ok place := by
  have begins := (locate_eq_ok_iff.mp located).2
  have whole := (locate_eq_ok_iff.mp further).2
  change tree.walk (if directory.root = .relative then workingDirectory else [])
    (directory.segments ++ names) = .ok place at whole
  rwa [walk_append, begins] at whole

theorem locate_down (fits : Text.byteCount (directory.down names).text ≤ pathLimit)
    (located : tree.locate workingDirectory directory = .ok home) :
    tree.locate workingDirectory (directory.down names) = tree.walk home names := by
  have begins := (locate_eq_ok_iff.mp located).2
  rw [locate, if_neg (Nat.not_lt.mpr fits), Path.down, walk_append, begins]
  rfl

theorem walk_cons_directory {name : Text} (stands : tree.node? here = some .directory)
    (down : name ≠ "..") (short : Text.byteCount name ≤ nameLimit) :
    tree.walk here (name :: names) = tree.walk (here ++ [name]) names := by
  rw [walk, stands]
  dsimp only
  rw [if_neg (Nat.not_lt.mpr short), if_neg down]

theorem locate_child {path : Path} {last : Text}
    (fits : Text.byteCount (path.down [last]).text ≤ pathLimit)
    (located : tree.locate workingDirectory path = .ok place)
    (stands : tree.node? place = some .directory) (down : last ≠ "..")
    (short : Text.byteCount last ≤ nameLimit) :
    tree.locate workingDirectory (path.down [last]) = .ok (place ++ [last]) := by
  rw [locate_down fits located, walk_cons_directory stands down short, walk]

/-- In a directory that leads somewhere, a name that is too long is noticed. -/
theorem locate_of_long_sibling {path : Path} {last long : Text}
    (located : tree.locate workingDirectory (path.down [last]) = .ok place)
    (isLong : nameLimit < Text.byteCount long) :
    tree.locate workingDirectory (path.down [long]) = .error .nameTooLong := by
  rcases exists_directory_of_walk_append (List.cons_ne_nil last []) (locate_eq_ok_iff.mp located).2
    with ⟨parent, toParent, isDirectory⟩
  by_cases tooLong : pathLimit < Text.byteCount (path.down [long]).text
  · rw [locate, if_pos tooLong]
  · have begins : tree.walk (if (path.down [long]).root = .relative then workingDirectory else [])
        path.segments = .ok parent := toParent
    rw [locate, if_neg tooLong]
    change tree.walk _ (path.segments ++ [long]) = _
    rw [walk_append, begins]
    change tree.walk parent [long] = _
    rw [walk, isDirectory]
    exact if_pos isLong

/-- Nothing stands below a free place. -/
theorem IsTree.node?_append_eq_none (isTree : tree.IsTree) (free : tree.node? here = none)
    (more : Place) : tree.node? (here ++ more) = none := by
  cases stands : tree.node? (here ++ more) with
  | none => rfl
  | some node =>
    by_cases goesOn : more = []
    · rw [goesOn, List.append_nil, free] at stands
      cases stands
    · rw [isTree.above stands goesOn] at free
      cases free

theorem IsTree.obstacle?_of_free (isTree : tree.IsTree) (free : tree.node? here = none) :
    tree.obstacle? here names = none := by
  induction names generalizing here with
  | nil => simp [obstacle?, file?, free]
  | cons name names ih =>
    have freeBelow := ih (isTree.node?_append_eq_none free [name])
    simp [obstacle?, file?, free, freeBelow]

/-- Without an obstacle a way down leads to a directory, or to where nothing stands. -/
theorem IsTree.walk_of_obstacle?_none (isTree : tree.IsTree) (down : (".." : Text) ∉ names)
    (short : ∀ name ∈ names, Text.byteCount name ≤ nameLimit)
    (clear : tree.obstacle? here names = none) :
    tree.walk here names = .ok (here ++ names) ∧ tree.node? (here ++ names) = some .directory ∨
      tree.node? (here ++ names) = none ∧
        (tree.walk here names = .ok (here ++ names) ∨ tree.walk here names = .error .missing) := by
  induction names generalizing here with
  | nil =>
    rw [obstacle?, ite_eq_right_iff, file?_isSome] at clear
    rw [List.append_nil, walk]
    cases stands : tree.node? here with
    | none => exact .inr ⟨rfl, .inl rfl⟩
    | some node =>
      cases node with
      | directory => exact .inl ⟨rfl, rfl⟩
      | file content stamp => cases clear ⟨content, stamp, stands⟩
  | cons name names ih =>
    rw [List.mem_cons, not_or] at down
    cases stands : tree.node? here with
    | none =>
      right
      refine ⟨isTree.node?_append_eq_none stands _, .inr ?_⟩
      rw [walk, stands]
    | some node =>
      cases node with
      | directory =>
        rw [walk_cons_directory stands (Ne.symm down.1) (short name List.mem_cons_self),
          List.append_cons here name names]
        apply ih down.2 fun other member => short other (List.mem_cons_of_mem _ member)
        simpa [obstacle?, file?, stands] using clear
      | file content stamp => simp [obstacle?, file?, stands] at clear

/-- With an obstacle a way down leads to a file, or it ends at one. -/
theorem IsTree.walk_of_obstacle?_some {fault : FileFault} (isTree : tree.IsTree)
    (down : (".." : Text) ∉ names) (short : ∀ name ∈ names, Text.byteCount name ≤ nameLimit)
    (obstructed : tree.obstacle? here names = some fault) :
    fault = .alreadyThere ∧ tree.walk here names = .ok (here ++ names) ∧
        (∃ content stamp, tree.node? (here ++ names) = some (.file content stamp)) ∨
      fault = .notDirectory ∧ tree.walk here names = .error .notDirectory := by
  induction names generalizing here with
  | nil =>
    rw [obstacle?, ite_eq_iff, file?_isSome] at obstructed
    rcases obstructed with ⟨isFile, isFault⟩ | ⟨-, impossible⟩
    · rw [List.append_nil]
      exact .inl ⟨(Option.some.inj isFault).symm, rfl, isFile⟩
    · cases impossible
  | cons name names ih =>
    rw [List.mem_cons, not_or] at down
    cases stands : tree.node? here with
    | none =>
      rw [isTree.obstacle?_of_free stands] at obstructed
      cases obstructed
    | some node =>
      cases node with
      | directory =>
        rw [walk_cons_directory stands (Ne.symm down.1) (short name List.mem_cons_self),
          List.append_cons here name names]
        apply ih down.2 fun other member => short other (List.mem_cons_of_mem _ member)
        simpa [obstacle?, file?, stands] using obstructed
      | file content stamp =>
        simp only [obstacle?, file?, stands, Option.isSome_some, if_true, Option.some.injEq]
          at obstructed
        right
        exact ⟨obstructed.symm, by rw [walk, stands]⟩

/-! ### What is new below a directory -/

/-- Below a directory that is there, what has changed on the way to a target stands under the names that
the target goes on with, where there was no directory. A new directory stands where nothing was. -/
theorem Grows.exists_below (located : tree.locate workingDirectory directory = .ok home)
    (stands : tree.node? home = some .directory) (down : (".." : Text) ∉ names)
    (grows : Grows workingDirectory (LeadsTo (directory.down names)) tree changed)
    (differs : changed.node? place ≠ tree.node? place) :
    ∃ below node, below ≠ [] ∧ below <+: names ∧ place = home ++ below ∧
      tree.node? place ≠ some .directory ∧ changed.node? place = some node ∧
      (below ≠ names → node = .directory) ∧ (node = .directory → tree.node? place = none) := by
  have noDirectory : tree.node? place ≠ some .directory := by
    intro isDirectory
    rw [isDirectory, grows.keepsDirectories place isDirectory] at differs
    exact differs rfl
  induction grows with
  | refl => exact absurd rfl differs
  | @tail between changed earlier put ih =>
    rcases Grows.home_of_locate located stands earlier with ⟨stillLocated, stillStands⟩
    rcases put.exists_below stillLocated stillStands down
      with ⟨below, node, goesOn, isBelow, onTheWay, -, free, -, rfl⟩
    by_cases isPlace : place = home ++ below
    · refine ⟨below, node, goesOn, isBelow, isPlace, noDirectory, ?_, onTheWay, ?_⟩
      · rw [isPlace]
        exact node?_set_self node (by simp [goesOn])
      · intro isDirectory
        have isFree := free isDirectory
        rw [← isPlace] at isFree
        -- Nothing is taken away, so what is free now was free from the beginning.
        by_contra wasThere
        rcases ih (by rw [isFree]; exact Ne.symm wasThere) with ⟨_, _, _, _, _, _, isThere, _⟩
        rw [isFree] at isThere
        cases isThere
    · rw [node?_set_ne node isPlace] at differs ⊢
      exact ih differs

/-- A proper tree stays one when something is put below a directory that is there. -/
theorem Grows.isTree (located : tree.locate workingDirectory directory = .ok home)
    (stands : tree.node? home = some .directory) (down : (".." : Text) ∉ names)
    (grows : Grows workingDirectory (LeadsTo (directory.down names)) tree changed)
    (isTree : tree.IsTree) : changed.IsTree := by
  induction grows with
  | refl => exact isTree
  | @tail between changed earlier put ih =>
    rcases Grows.home_of_locate located stands earlier with ⟨stillLocated, stillStands⟩
    have keeps := put.keepsDirectories
    rcases put.exists_below stillLocated stillStands down
      with ⟨below, node, -, -, -, -, -, belowLocated, rfl⟩
    have walked := walk_of_locate_down stillLocated belowLocated
    exact ih.set keeps (ih.parent_of_walk (ih.parent stillStands) walked)

end FileTree

namespace Files

open Action FileTree

variable {setting : Setting} {session after : Session} {home place : Place} {path directory : Path}
  {names : List Text}

/-! ### Directories that have been made -/

theorem lookup_of_run_makeDirectory
    (made : makeDirectory path setting session = (.ok (), after)) :
    after.files.lookup setting.host.workingDirectory path = .ok .directory := by
  rw [run_makeDirectory] at made
  split_ifs at made
  · cases made
  · split at made
    · rename_i files changed
      cases made
      rcases makeDirectory_eq_ok_iff.mp changed with ⟨place, located, free, rfl⟩
      have nonempty : place ≠ [] := by
        rintro rfl
        cases free
      rw [lookup_eq_directory_iff]
      refine ⟨place, ?_, node?_set_self _ nonempty⟩
      have opens := locate_eq_ok_iff.mp located
      exact locate_eq_ok_iff.mpr ⟨opens.1, walk_set (by simp [free]) opens.2⟩
    · cases made

theorem lookup_of_run_unlessDirectory {error : Error}
    (ran : (do unless ← isDirectory path do Action.fail error : Action Unit) setting session =
      (.ok (), after)) :
    after.files.lookup setting.host.workingDirectory path = .ok .directory := by
  rw [run_unlessDirectory] at ran
  split at ran
  · rename_i found
    cases ran
    exact lookup_of_foundAt found
  · cases ran
  · cases ran

theorem lookup_of_run_ensureDirectory
    (ran : ensureDirectory path setting session = (.ok (), after)) :
    after.files.lookup setting.host.workingDirectory path = .ok .directory := by
  rw [run_ensureDirectory] at ran
  rcases made : makeDirectory path setting session with ⟨result, between⟩
  rw [made] at ran
  cases result with
  | ok answer =>
    cases ran
    exact lookup_of_run_makeDirectory made
  | error refusal =>
    split at ran
    · rename_i same
      cases same
    · cases ran
    · exact lookup_of_run_unlessDirectory ran

theorem lookup_of_run_ensureDirectories
    (ran : ensureDirectories path setting session = (.ok (), after)) :
    after.files.lookup setting.host.workingDirectory path = .ok .directory := by
  rcases path with ⟨root, segments⟩
  unfold ensureDirectories at ran
  cases reversed : segments.reverse with
  | nil =>
    have bare : segments = [] := List.reverse_eq_nil_iff.mp reversed
    subst bare
    exact lookup_of_run_ensureDirectory ran
  | cons segment above =>
    have whole : (segment :: above).reverse = segments := by rw [← reversed, List.reverse_reverse]
    dsimp only at ran
    rw [reversed, run_ensureDirectoriesBelow_cons] at ran
    dsimp only at ran
    rw [whole] at ran
    rcases made : makeDirectory ⟨root, segments⟩ setting session with ⟨result, between⟩
    rw [made] at ran
    cases result with
    | ok answer =>
      cases ran
      exact lookup_of_run_makeDirectory made
    | error refusal =>
      split at ran
      · rename_i same
        cases same
      · rcases exists_of_run_bind ran with ⟨_, _, -, ensured⟩
        exact lookup_of_run_ensureDirectory ensured
      · exact lookup_of_run_unlessDirectory ran

/-! ### Making directories below a directory -/

theorem hasNull_down (directory : Path) (names : List Text) :
    hasNull (directory.down names).text = (hasNull directory.text || names.any hasNull) := by
  rw [hasNull_text, hasNull_text, Path.down, List.any_append]

/-- One directory below a directory that is there. -/
theorem run_ensureDirectory_of_locate (noNull : hasNull path.text = false)
    (located : session.files.locate setting.host.workingDirectory path = .ok place) :
    (ensureDirectory path setting session).1 =
      if (session.files.file? place).isSome then .error (.file .alreadyThere path.text)
      else .ok () := by
  rw [run_ensureDirectory, run_makeDirectory, noNull]
  simp only [Bool.false_eq_true, if_false, FileTree.makeDirectory, located]
  cases stands : session.files.node? place with
  | none => simp [FileTree.file?, stands]
  | some node =>
    have found : session.files.lookup setting.host.workingDirectory path = .ok node := by
      rw [FileTree.lookup, located]
      dsimp only
      rw [stands]
    dsimp only
    rw [run_unlessDirectory, foundAt_of_lookup found]
    cases node <;> simp [FileTree.file?, stands]

theorem run_ensureDirectories_down_singleton (path : Path) (last : Text) :
    ensureDirectories (path.down [last]) setting session =
      match makeDirectory (path.down [last]) setting session with
      | (.ok (), session) => (.ok (), session)
      | (.error (.file .missing _), session) =>
        (do ensureDirectories path; ensureDirectory (path.down [last])) setting session
      | (.error error, session) =>
        (do unless ← isDirectory (path.down [last]) do Action.fail error : Action Unit)
          setting session := by
  rcases path with ⟨root, segments⟩
  have reversed : (segments ++ [last]).reverse = last :: segments.reverse := by simp
  have whole : (last :: segments.reverse).reverse = segments ++ [last] := by simp
  unfold ensureDirectories Path.down
  dsimp only
  rw [reversed, run_ensureDirectoriesBelow_cons]
  dsimp only
  rewrite [whole]
  rfl

/-- Where the directory above is there, only the last one has to be made. -/
theorem run_ensureDirectories_of_locate (path : Path) (last : Text)
    (noNull : hasNull (path.down [last]).text = false)
    (located : session.files.locate setting.host.workingDirectory (path.down [last]) = .ok place) :
    ensureDirectories (path.down [last]) setting session =
      ensureDirectory (path.down [last]) setting session := by
  rw [run_ensureDirectories_down_singleton, run_ensureDirectory, run_makeDirectory, noNull]
  simp only [Bool.false_eq_true, if_false, FileTree.makeDirectory, located]
  cases session.files.node? place <;> rfl

theorem run_ensureDirectories_of_file (path : Path) (last : Text)
    (noNull : hasNull (path.down [last]).text = false)
    (ends : session.files.locate setting.host.workingDirectory (path.down [last]) =
      .error .notDirectory) :
    (ensureDirectories (path.down [last]) setting session).1 =
      .error (.file .notDirectory (path.down [last]).text) := by
  have nowhere : foundAt session.files setting.host.workingDirectory (path.down [last]) =
      .ok none := by
    rw [foundAt, FileTree.lookup, ends]
    exact if_pos (Bool.or_true _)
  rw [run_ensureDirectories_down_singleton, run_makeDirectory, noNull]
  simp only [Bool.false_eq_true, if_false, FileTree.makeDirectory, ends]
  rw [run_unlessDirectory, nowhere]

/-- Where the directory above is missing, it is made first. -/
theorem run_ensureDirectories_of_missing (path : Path) (last : Text)
    (noNull : hasNull (path.down [last]).text = false)
    (missing : session.files.locate setting.host.workingDirectory (path.down [last]) =
      .error .missing)
    (made : ensureDirectories path setting session = (.ok (), after))
    (located : after.files.locate setting.host.workingDirectory (path.down [last]) = .ok place)
    (free : after.files.node? place = none) :
    (ensureDirectories (path.down [last]) setting session).1 = .ok () := by
  rw [run_ensureDirectories_down_singleton, run_makeDirectory, noNull]
  simp only [Bool.false_eq_true, if_false, FileTree.makeDirectory, missing]
  rw [run_bind, made]
  dsimp only
  rw [run_ensureDirectory_of_locate noNull located, FileTree.file?, free]
  rfl

/-- Once directories below a directory have been made, the last of them is there, and what stands in it
stood there before. -/
theorem place_of_run_ensureDirectories
    (located : session.files.locate setting.host.workingDirectory directory = .ok home)
    (stands : session.files.node? home = some .directory) (down : (".." : Text) ∉ names)
    (made : ensureDirectories (directory.down names) setting session = (.ok (), after)) :
    after.files.locate setting.host.workingDirectory (directory.down names) = .ok (home ++ names) ∧
      after.files.node? (home ++ names) = some .directory ∧
      ∀ last, after.files.node? (home ++ names ++ [last]) =
        session.files.node? (home ++ names ++ [last]) := by
  have grows : Grows setting.host.workingDirectory (LeadsTo (directory.down names))
      session.files (ensureDirectories (directory.down names) setting session).2.files :=
    puts_ensureDirectories (fun _ isPrefix => ⟨rfl, isPrefix, fun _ => rfl⟩) _ _
  rw [made] at grows
  rcases Grows.home_of_locate located stands grows with ⟨stillLocated, -⟩
  rcases exists_of_lookup (lookup_of_run_ensureDirectories made) with ⟨place, toPlace, isDirectory⟩
  have isPlace : place = home ++ names :=
    eq_append_of_walk down (walk_of_locate_down stillLocated toPlace)
  subst isPlace
  refine ⟨toPlace, isDirectory, fun last => ?_⟩
  by_contra isNew
  rcases grows.exists_below located stands down isNew with ⟨below, -, -, isBelow, whole, -⟩
  rw [List.append_assoc] at whole
  rw [← List.append_cancel_left whole] at isBelow
  exact absurd isBelow.length_le (by simp)

/-- Making directories below a directory that is there succeeds, unless a file stands in the way. -/
theorem run_ensureDirectories_down (isTree : session.files.IsTree)
    (located : session.files.locate setting.host.workingDirectory directory = .ok home)
    (stands : session.files.node? home = some .directory) (down : (".." : Text) ∉ names)
    (short : ∀ name ∈ names, Text.byteCount name ≤ nameLimit)
    (fits : Text.byteCount (directory.down names).text ≤ pathLimit)
    (noNull : hasNull (directory.down names).text = false) :
    (ensureDirectories (directory.down names) setting session).1 =
      match session.files.obstacle? home names with
      | none => .ok ()
      | some fault => .error (.file fault (directory.down names).text) := by
  induction names using List.reverseRecOn with
  | nil =>
    have isThere : session.files.lookup setting.host.workingDirectory (directory.down []) =
        .ok .directory := by
      rw [Path.down_nil]
      exact lookup_eq_directory_iff.mpr ⟨home, located, stands⟩
    rw [run_ensureDirectories_of_lookup isThere]
    simp [obstacle?, FileTree.file?, stands]
  | append_singleton front last ih =>
    have frontDown : (".." : Text) ∉ front := fun up => down (List.mem_append_left _ up)
    have frontShort : ∀ name ∈ front, Text.byteCount name ≤ nameLimit := fun name member =>
      short name (List.mem_append_left _ member)
    have lastShort : Text.byteCount last ≤ nameLimit := short last (by simp)
    have lastDown : last ≠ "..".toList := fun up => down (by simp [up])
    have toLast := locate_down fits located
    rw [Path.down_append] at fits noNull toLast ⊢
    have frontFits : Text.byteCount (directory.down front).text ≤ pathLimit :=
      byteCount_text_le fits
    cases obstructed : session.files.obstacle? home front with
    | some fault =>
      have blocked : session.files.obstacle? home (front ++ [last]) = some .notDirectory := by
        rw [obstacle?_append_singleton, obstructed]
        rfl
      rw [blocked]
      rcases isTree.walk_of_obstacle?_some down short blocked with ⟨impossible, -⟩ | ⟨-, ends⟩
      · cases impossible
      · exact run_ensureDirectories_of_file _ _ noNull (toLast.trans ends)
    | none =>
      rw [obstacle?_append_singleton, obstructed]
      simp only [Option.isSome_none, Bool.false_eq_true, if_false]
      rcases isTree.walk_of_obstacle?_none frontDown frontShort obstructed
        with ⟨walked, isThere⟩ | ⟨free, walked⟩
      · -- The directory above is there.
        have toFront := (locate_down frontFits located).trans walked
        have toChild := locate_child fits toFront isThere lastDown lastShort
        rw [run_ensureDirectories_of_locate _ _ noNull toChild,
          run_ensureDirectory_of_locate noNull toChild]
        split_ifs <;> rfl
      · have missing : session.files.walk home (front ++ [last]) = .error .missing := by
          rw [walk_append]
          rcases walked with walked | walked
          · rw [walked]
            change session.files.walk (home ++ front) [last] = _
            rw [walk, free]
          · rw [walked]
            rfl
        have freeBelow := isTree.node?_append_eq_none free [last]
        have frontNoNull : hasNull (directory.down front).text = false := by
          rw [hasNull_down, Bool.or_eq_false_iff] at noNull
          exact noNull.1
        have made := ih frontDown frontShort frontFits frontNoNull
        rw [obstructed] at made
        rcases makes : ensureDirectories (directory.down front) setting session with ⟨result, ready⟩
        rw [makes] at made
        cases made
        rcases place_of_run_ensureDirectories located stands frontDown makes
          with ⟨toParent, isParent, asBefore⟩
        have stillFree := (asBefore last).trans freeBelow
        rw [run_ensureDirectories_of_missing _ _ noNull (toLast.trans missing) makes
          (locate_child fits toParent isParent lastDown lastShort) stillFree]
        rw [FileTree.file?, freeBelow]
        rfl

end Files

end JarAtlas
