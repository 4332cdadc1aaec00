import JarAtlas.CommandLine.Command
import JarAtlas.Proofs.Declaration.Soundness

/-!
# What command lines give

An argument of a command is a text, or the empty list that a lone double dash stands for. So is the
value of an option that takes one.
-/

namespace JarAtlas.CommandLine

open Declaration (exists_ok_of_bind)

/-- The value is what a word of a line gives. -/
def IsWord (value : Json) : Prop := value = .list [] ∨ ∃ text, value = .text text

theorem isWord_text (text : Text) : IsWord (.text text) := .inr ⟨text, rfl⟩

theorem isWord_valueOf (text : Text) : IsWord (valueOf text) := by
  unfold valueOf
  split_ifs
  · exact .inl rfl
  · exact isWord_text text

variable {switches : List Switch}

/-! ### Words -/

/-- An option that a word writes is one of the known ones. -/
def Word.IsKnown (switches : List Switch) : Word → Prop
  | .option _ (some written) => written.switch ∈ switches
  | _ => True

theorem mem_of_mem_namesOf {name : Text} {switch : Switch}
    (isName : (name, switch) ∈ namesOf switches) : switch ∈ switches := by
  simp only [namesOf, List.mem_flatMap, List.mem_map, Prod.mk.injEq] at isName
  rcases isName with ⟨other, isSwitch, _, _, _, rfl⟩
  exact isSwitch

theorem mem_of_switchNamed? {name : Text} {switch : Switch}
    (named : switchNamed? switches name = some switch) : switch ∈ switches := by
  rcases Option.map_eq_some_iff.mp named with ⟨⟨other, same⟩, found, rfl⟩
  exact mem_of_mem_namesOf (List.mem_of_find?_eq_some found)

theorem isKnown_meaningOf {text : Text} {word : Word} (means : meaningOf switches text = .ok word) :
    word.IsKnown switches := by
  have known (written : Written) (isMeaning : written ∈
      if Text.beginsWith "--" text then longMeanings switches text
      else shortMeanings switches text) : written.switch ∈ switches := by
    split_ifs at isMeaning
    · simp only [longMeanings, List.mem_filterMap] at isMeaning
      rcases isMeaning with ⟨⟨name, switch⟩, isName, meaning⟩
      split_ifs at meaning
      cases meaning
      exact mem_of_mem_namesOf isName
    · simp only [shortMeanings, List.mem_filterMap] at isMeaning
      rcases isMeaning with ⟨⟨name, switch⟩, isName, meaning⟩
      split_ifs at meaning
      all_goals
        cases meaning
        exact mem_of_mem_namesOf isName
  unfold meaningOf at means
  dsimp only at means
  split at means
  · rename_i written isSingle
    cases means
    exact known written (by rw [isSingle]; exact List.mem_cons_self)
  · split_ifs at means
    all_goals
      cases means
      trivial
  · contradiction

theorem isKnown_wordOf {text : Text} {word : Word} (isWord : wordOf switches text = .ok word) :
    word.IsKnown switches := by
  unfold wordOf at isWord
  split at isWord
  · cases isWord
    trivial
  · split at isWord
    · rename_i switch named
      cases isWord
      exact mem_of_switchNamed? named
    · split at isWord
      · cases isWord
        trivial
      · dsimp only at isWord
        split at isWord
        · rename_i written named
          cases isWord
          simp only [Option.bind_eq_bind, Option.bind_eq_some_iff] at named
          rcases named with ⟨⟨name, value⟩, -, switch, isNamed, isWritten⟩
          cases isWritten
          exact mem_of_switchNamed? isNamed
        · exact isKnown_meaningOf isWord

theorem isKnown_wordsOf {line : List Text} {words : List Word}
    (areWords : wordsOf switches line = .ok words) : ∀ word ∈ words, word.IsKnown switches := by
  induction line generalizing words with
  | nil =>
    cases areWords
    simp
  | cons text others ih =>
    unfold wordsOf at areWords
    split_ifs at areWords
    · cases areWords
      simp [Word.IsKnown]
    · cases first : wordOf switches text with
      | error stop =>
        rw [first] at areWords
        contradiction
      | ok word =>
        cases rest : wordsOf switches others with
        | error stop =>
          rw [first, rest] at areWords
          contradiction
        | ok words =>
          rw [first, rest] at areWords
          cases areWords
          simp only [List.mem_cons, forall_eq_or_imp]
          exact ⟨isKnown_wordOf first, ih rest⟩

/-! ### Options and arguments -/

/-- The options of a cluster are known, and all but the last take no value. -/
structure Cluster.IsKnown (switches : List Switch) (cluster : Cluster) : Prop where
  flags : ∀ flag ∈ cluster.flags, flag ∈ switches ∧ flag.takesValue = false
  last : cluster.last ∈ switches

theorem isKnown_clusterOf {switch : Switch} {isShort : Bool} {text : Text} {cluster : Cluster}
    (isSwitch : switch ∈ switches)
    (written : clusterOf switches switch isShort text = .ok cluster) : cluster.IsKnown switches := by
  induction text generalizing switch isShort cluster with
  | nil =>
    unfold clusterOf at written
    split_ifs at written
    cases written
    exact ⟨by simp, isSwitch⟩
  | cons letter rest ih =>
    unfold clusterOf at written
    split at written
    · cases written
      exact ⟨by simp, isSwitch⟩
    · rename_i takes
      have isFlag : switch ∈ switches ∧ switch.takesValue = false := ⟨isSwitch, by simpa using takes⟩
      split at written
      · rename_i next named
        have isNext := mem_of_switchNamed? named
        split at written
        · cases written
          exact ⟨by simpa using isFlag, isNext⟩
        · cases more : clusterOf switches next true rest with
          | error stop =>
            rw [more] at written
            contradiction
          | ok others =>
            rw [more] at written
            cases written
            have known := ih isNext more
            exact ⟨by simpa using ⟨isFlag, known.flags⟩, known.last⟩
      · contradiction

/-- Everything given is a word, but for the options that take no value. -/
structure Given.IsKnown (switches : List Switch) (given : Given) : Prop where
  arguments : ∀ argument ∈ given.arguments, IsWord argument
  options : ∀ key value, (key, value) ∈ given.options →
    ∃ switch ∈ switches, switch.key = key ∧ (switch.takesValue = true → IsWord value)

theorem isKnown_withOptions {cluster : Cluster} {value : Json} {behind : Unit → Except Stop Given}
    {given : Given} (known : cluster.IsKnown switches)
    (isValue : cluster.last.takesValue = true → IsWord value)
    (others : ∀ rest, behind () = .ok rest → rest.IsKnown switches)
    (gives : Given.withOptions cluster value behind = .ok given) : given.IsKnown switches := by
  unfold Given.withOptions at gives
  split_ifs at gives
  cases rest : behind () with
  | error stop =>
    rw [rest] at gives
    contradiction
  | ok given =>
    rw [rest] at gives
    cases gives
    have knownRest := others given rest
    refine ⟨knownRest.arguments, fun key other isOption => ?_⟩
    simp only [List.mem_append, List.mem_map, List.mem_cons, Prod.mk.injEq] at isOption
    rcases isOption with ⟨flag, isFlag, rfl, rfl⟩ | ⟨rfl, rfl⟩ | isOther
    · rcases known.flags flag isFlag with ⟨isSwitch, takesNone⟩
      exact ⟨flag, isSwitch, rfl, by simp [takesNone]⟩
    · exact ⟨cluster.last, known.last, rfl, isValue⟩
    · exact knownRest.options key other isOther

theorem exists_of_map {α : Type} {result : Except Stop α} {change : α → α} {changed : α}
    (gives : result.map change = .ok changed) :
    ∃ given, result = .ok given ∧ change given = changed := by
  cases result with
  | error stop => contradiction
  | ok given =>
    cases gives
    exact ⟨given, rfl, rfl⟩

theorem isKnown_cluster {written : Written} {cluster : Cluster} (isKnown : written.switch ∈ switches)
    (isCluster : written.cluster switches = .ok cluster) : cluster.IsKnown switches := by
  unfold Written.cluster at isCluster
  split at isCluster
  · cases isCluster
    exact ⟨by simp, isKnown⟩
  · exact isKnown_clusterOf isKnown isCluster

theorem isKnown_take {wanted : Nat} {behindArgument behindSeparator : Bool} {words : List Word}
    {given : Given} (known : ∀ word ∈ words, word.IsKnown switches)
    (takes : take switches wanted behindArgument behindSeparator words = .ok given) :
    given.IsKnown switches := by
  fun_induction take switches wanted behindArgument behindSeparator words generalizing given
  case case1 =>
    cases takes
    exact ⟨by simp, by simp⟩
  all_goals simp only [List.mem_cons, forall_eq_or_imp] at known
  case case2 ih | case5 ih | case7 ih =>
    rcases exists_of_map takes with ⟨rest, taken, rfl⟩
    have isKnown := ih known.2 taken
    exact ⟨isKnown.arguments, isKnown.options⟩
  case case3 ih =>
    rcases exists_of_map takes with ⟨rest, taken, rfl⟩
    have isKnown := ih known.2 taken
    refine ⟨?_, isKnown.options⟩
    simp only [List.mem_cons, forall_eq_or_imp]
    refine ⟨?_, isKnown.arguments⟩
    split_ifs
    · exact isWord_text _
    · exact isWord_valueOf _
  case case4 ih | case6 ih => exact ih known.2 takes
  case case8 | case10 => contradiction
  case case9 isCluster _ _ _ _ ih =>
    exact isKnown_withOptions (isKnown_cluster known.1 isCluster) (fun _ => isWord_valueOf _)
      (fun rest taken => ih known.2.2 taken) takes
  case case11 isCluster _ _ _ _ ih =>
    exact isKnown_withOptions (isKnown_cluster known.1 isCluster) (fun _ => isWord_valueOf _)
      (fun rest taken => ih known.2 taken) takes
  case case12 isCluster _ takesNone ih =>
    exact isKnown_withOptions (isKnown_cluster known.1 isCluster) (by simp [takesNone])
      (fun rest taken => ih known.2 taken) takes

/-! ### Commands -/

/-- The arguments of a command, without its options. -/
def Command.arguments : Command → List Json
  | .start | .config _ => []
  | .scan project _ => [project]
  | .decompile className project _ _ => [className, project]
  | .analyze className project _ _ => [className, project]

theorem isWord_of_option? {given : Given} {key : Text} {value : Json} (known : given.IsKnown switches)
    (takes : ∀ switch ∈ switches, switch.key = key → switch.takesValue = true)
    (found : given.option? key = some value) : IsWord value := by
  rcases Option.map_eq_some_iff.mp found with ⟨⟨other, _⟩, isOption, rfl⟩
  have same : other = key := by simpa using List.find?_some isOption
  have isGiven := List.mem_reverse.mp (List.mem_of_find?_eq_some isOption)
  rcases known.options other _ isGiven with ⟨switch, isSwitch, isKey, isWord⟩
  exact isWord (takes switch isSwitch (isKey.trans same))

theorem isKnown_givenTo {form : Form} {words : List Text} {given : Given}
    (gives : givenTo form words = .ok given) :
    given.IsKnown form.switches ∧ form.arguments.length ≤ given.arguments.length := by
  rcases exists_ok_of_bind gives with ⟨words, areWords, takes⟩
  rcases exists_ok_of_bind takes with ⟨rest, taken, isRest⟩
  dsimp only at isRest
  split_ifs at isRest with complete
  cases isRest
  refine ⟨isKnown_take (isKnown_wordsOf areWords) taken, ?_⟩
  simpa using complete

theorem ok_of_inProgram {α : Type} {name : Text} {result : Except Stop α} {answer : α}
    (answered : inProgram name result = .ok answer) : result = .ok answer := by
  unfold inProgram at answered
  split at answered
  · contradiction
  · exact answered

theorem exists_form_of_formOf {name : Text} {form : Form} (found : formOf name = .ok form) :
    form ∈ forms ∧ form.name = name := by
  unfold formOf at found
  split at found
  · rename_i isForm
    cases found
    exact ⟨List.mem_of_find?_eq_some isForm, by simpa using List.find?_some isForm⟩
  · contradiction

/-- A command is made of its name and of what is given to it. -/
theorem exists_given_of_parse {line : List Text} {command : Command}
    (parsed : parse line = .ok command) : command = .start ∨
      ∃ form ∈ forms, ∃ given : Given, given.IsKnown form.switches ∧
        form.arguments.length ≤ given.arguments.length ∧ command = commandOf form.name given := by
  rcases exists_ok_of_bind parsed with ⟨words, -, splits⟩
  rcases exists_ok_of_bind splits with ⟨⟨unknown, chosen⟩, -, chooses⟩
  have ends (made : Command) (unknown : List Text) (known : (if unknown.isEmpty then pure made else
      inProgram program (.error (.usage ("unrecognized arguments: " ++ Text.join " " unknown)))) =
        .ok command) : command = made := by
    split_ifs at known
    · cases known
      rfl
    · have refused := ok_of_inProgram known
      contradiction
  dsimp only at chooses
  cases chosen with
  | none =>
    rcases exists_ok_of_bind chooses with ⟨_, ⟨⟩, known⟩
    exact .inl (ends _ _ known)
  | some named =>
    rcases named with ⟨name, words⟩
    rcases exists_ok_of_bind chooses with ⟨form, isForm, gives⟩
    rcases exists_ok_of_bind gives with ⟨given, isGiven, makes⟩
    rcases exists_ok_of_bind makes with ⟨_, ⟨⟩, known⟩
    rcases exists_form_of_formOf (ok_of_inProgram isForm) with ⟨isKnownForm, rfl⟩
    rcases isKnown_givenTo (ok_of_inProgram isGiven) with ⟨isKnown, complete⟩
    exact .inr ⟨form, isKnownForm, given, isKnown, complete, ends _ _ known⟩

theorem isWord_argument {given : Given} {position : Nat} (known : given.IsKnown switches)
    (complete : position < given.arguments.length) :
    IsWord (given.arguments[position]?.getD .null) := by
  rw [List.getElem?_eq_getElem complete]
  exact known.arguments _ (List.getElem_mem complete)

/-- The arguments of a command are words. -/
theorem isWord_of_parse {line : List Text} {command : Command} (parsed : parse line = .ok command) :
    ∀ argument ∈ command.arguments, IsWord argument := by
  rcases exists_given_of_parse parsed with rfl | ⟨form, isForm, given, known, complete, rfl⟩
  · simp [Command.arguments]
  · have first (one : 0 < form.arguments.length) :=
      isWord_argument known (Nat.lt_of_lt_of_le one complete)
    have second (two : 1 < form.arguments.length) :=
      isWord_argument known (Nat.lt_of_lt_of_le two complete)
    simp only [forms, List.mem_cons, List.not_mem_nil, or_false] at isForm
    intro argument isArgument
    rcases isForm with rfl | rfl | rfl | rfl | rfl
    · cases isArgument
    · cases List.mem_singleton.mp isArgument
      exact first (by decide)
    · rcases List.mem_cons.mp isArgument with rfl | isArgument
      · exact first (by decide)
      · cases List.mem_singleton.mp isArgument
        exact second (by decide)
    · rcases List.mem_cons.mp isArgument with rfl | isArgument
      · exact first (by decide)
      · cases List.mem_singleton.mp isArgument
        exact second (by decide)
    · cases isArgument

/-- The decompiler that a command asks for, if any, is a word. -/
theorem isWord_cfr_of_parse {line : List Text} {className project cfr : Json} {useCache : Bool}
    (parsed : parse line = .ok (.decompile className project useCache cfr)) :
    cfr = .null ∨ IsWord cfr := by
  rcases exists_given_of_parse parsed with isStart | ⟨form, isForm, given, known, -, made⟩
  · contradiction
  · simp only [forms, List.mem_cons, List.not_mem_nil, or_false] at isForm
    rcases isForm with rfl | rfl | rfl | rfl | rfl
    · cases made
    · cases made
    · cases made
      cases asked : given.option? "--cfr" with
      | none => exact .inl rfl
      | some value => exact .inr (isWord_of_option? known (by decide) asked)
    · cases made
    · cases made

end JarAtlas.CommandLine
