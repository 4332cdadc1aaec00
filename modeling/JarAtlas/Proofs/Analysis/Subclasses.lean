import JarAtlas.Proofs.Analysis.Hierarchy
import JarAtlas.Proofs.Analysis.Pool
import JarAtlas.Proofs.ClassIndex.DistinctKeys

/-!
# The search for subclasses

A search answers the indexed classes whose analyses name the class as their superclass, in the order
of the index. It does not matter in which order the analyses end, nor how the steps of several
workers come one after the other: each analysis comes to what it comes to by itself, a failed one
finds nothing, and what was found is put in order at the end.
-/

namespace JarAtlas.Analysis

open Action ClassIndex

/-- The candidates whose analyses name a class as their superclass. -/
def directSubclasses (className project : Text) (setting : Setting) (session : Session)
    (candidates : List Json) : List Json :=
  candidates.filter fun candidate =>
    hasSuperclass className (analyze candidate project setting session).1

variable {setting : Setting} {session later : Session} {className project : Text}
  {candidates found : List Json} {answer : List Text}

/-! ### What was found -/

/-- If nothing but texts is kept, keeping values is keeping their texts. -/
theorem map_text_filter {kept : Text → Bool} {holds : Json → Bool} {values : List Json}
    (agree : ∀ name, .text name ∈ values → kept name = holds (.text name))
    (texts : ∀ value, holds value = true → ∃ name, value = .text name) :
    ((values.filterMap Json.text?).filter kept).map Json.text = values.filter holds := by
  induction values with
  | nil => rfl
  | cons value values ih =>
    have rest := ih fun name member => agree name (List.mem_cons_of_mem _ member)
    cases isText : value.text? with
    | none =>
      have dropped : holds value = false := by
        rw [Bool.eq_false_iff]
        intro isKept
        rcases texts value isKept with ⟨name, rfl⟩
        cases isText
      rw [List.filterMap_cons_none isText, List.filter_cons, dropped, rest]
      rfl
    | some name =>
      cases Json.text?_eq_some_iff.mp isText
      rw [List.filterMap_cons_some isText, List.filter_cons, List.filter_cons,
        agree name List.mem_cons_self, ← rest]
      split_ifs <;> rfl

/-- Nothing but a text can be analysed. -/
theorem exists_text_of_analyze {name : Json} {summary : ClassSummary}
    (analysed : (analyze name project setting session).1 = .ok summary) :
    ∃ text, name = .text text := by
  rcases exists_of_run_bind (Prod.ext analysed rfl) with ⟨jar, between, -, ran⟩
  split at ran
  · rename_i text
    exact ⟨text, rfl⟩
  · cases ran
  · rcases exists_of_run_bind ran with ⟨command, behind, -, failed⟩
    cases failed

theorem exists_text_of_hasSuperclass {name : Json}
    (named : hasSuperclass className (analyze name project setting session).1 = true) :
    ∃ text, name = .text text := by
  cases analysed : (analyze name project setting session).1 with
  | error error =>
    rw [analysed] at named
    cases named
  | ok summary => exact exists_text_of_analyze analysed

/-- What a search answers once it has found the candidates that it should. -/
theorem map_text_found
    (isFound : ∀ candidate, candidate ∈ found ↔
      candidate ∈ directSubclasses className project setting session candidates) :
    ((candidates.filterMap Json.text?).filter (found.filterMap Json.text?).contains).map Json.text =
      directSubclasses className project setting session candidates := by
  apply map_text_filter
  · intro name member
    have listed : name ∈ found.filterMap Json.text? ↔ .text name ∈ found := by
      rw [List.mem_filterMap]
      constructor
      · rintro ⟨value, inFound, isText⟩
        rwa [← Json.text?_eq_some_iff.mp isText]
      · exact fun inFound => ⟨_, inFound, rfl⟩
    rw [Bool.eq_iff_iff, List.contains_iff_mem, listed, isFound, directSubclasses, List.mem_filter]
    exact and_iff_right member
  · exact fun value => exists_text_of_hasSuperclass

/-- The direct subclasses are texts. -/
theorem exists_map_text_eq (className project : Text) (setting : Setting) (session : Session)
    (candidates : List Json) : ∃ answer : List Text,
      answer.map Json.text = directSubclasses className project setting session candidates :=
  ⟨_, map_text_found fun _ => .rfl⟩

/-! ### One analysis after the other -/

theorem run_directlyExtends (candidate : Json) :
    directlyExtends className project candidate setting session =
      (.ok (hasSuperclass className (analyze candidate project setting session).1),
        (analyze candidate project setting session).2) := by
  unfold directlyExtends
  rw [run_bind, run_attempt]
  rcases analyze candidate project setting session with ⟨result, after⟩
  cases result <;> rfl

theorem repeats_directlyExtends (candidate : Json) :
    Repeats (Agrees setting project) setting (directlyExtends className project candidate) := by
  apply (repeats_analyze candidate).attempt.bind
  intro result
  cases result with
  | ok summary => exact .pure _
  | error error => exact .pure _

/-- In whichever order the analyses end. -/
theorem subclassesAmong_eq {completed : List Json} (isOrder : completed.Perm candidates)
    (agrees : Agrees setting project session later)
    (isAnswer : answer.map Json.text =
      directSubclasses className project setting session candidates) :
    (subclassesAmong className project candidates completed setting later).1 = .ok answer := by
  have repeats : ∀ candidate, Repeats (Agrees setting project) setting
      (directlyExtends className project candidate) := repeats_directlyExtends
  rcases Repeats.filterM repeats
    (fun candidate => congrArg Prod.fst (run_directlyExtends candidate)) completed agrees
    with ⟨after, ran, -⟩
  have isFound : ∀ candidate, candidate ∈ completed.filter (fun candidate =>
      hasSuperclass className (analyze candidate project setting session).1) ↔
      candidate ∈ directSubclasses className project setting session candidates := fun _ =>
    (isOrder.filter _).mem_iff
  have same := List.map_injective_iff.mpr Json.text_injective
    ((map_text_found isFound).trans isAnswer.symm)
  unfold subclassesAmong
  rw [run_bind, ran, ← same]
  rfl

/-! ### Several workers -/

namespace Pool

/-- What a search answers when it cannot go on. -/
theorem Holds.map_text_answer {pool : Pool}
    (holds : pool.Holds setting project className session candidates)
    (workers : 0 < setting.config.maxWorkers)
    (isOver : ∀ later, ¬ Step setting project className pool later) :
    pool.answer.map Json.text = directSubclasses className project setting session candidates := by
  have allFinished : ∀ job ∈ pool.jobs, ∃ result, job.2 = .finished result := by
    by_contra unfinished
    push Not at unfinished
    rcases exists_step workers unfinished with ⟨later, step⟩
    exact isOver later step
  unfold answer
  rw [holds.listed]
  apply map_text_found
  intro candidate
  rw [holds.found, directSubclasses, List.mem_filter, ← holds.listed, List.mem_map]
  constructor
  · rintro ⟨stage, member, hasFound⟩
    rcases allFinished _ member with ⟨result, rfl⟩
    have isResult : result = _ := holds.promises _ member
    rw [← isResult]
    exact ⟨⟨_, member, rfl⟩, hasFound⟩
  · rintro ⟨⟨⟨_, stage⟩, member, rfl⟩, named⟩
    rcases allFinished _ member with ⟨result, rfl⟩
    have isResult : result = _ := holds.promises _ member
    rw [← isResult] at named
    exact ⟨_, member, named⟩

/-- The search comes to an answer on every schedule: none goes on for ever, and the answer is there
where one cannot go on. -/
structure ComesTo (setting : Setting) (project className : Text) (pool : Pool)
    (answer : List Text) : Prop where
  ends : Acc (fun later earlier => Step setting project className earlier later) pool
  answers : ∀ last, Relation.ReflTransGen (Step setting project className) pool last →
    (∀ later, ¬ Step setting project className last later) → last.answer = answer

theorem comesTo_start (workers : 0 < setting.config.maxWorkers)
    (agrees : Agrees setting project session later)
    (isAnswer : answer.map Json.text =
      directSubclasses className project setting session candidates) :
    (start later candidates).ComesTo setting project className answer where
  ends := wellFounded_step.apply _
  answers last reached isOver := by
    have holds := holds_of_reached agrees reached
    exact List.map_injective_iff.mpr Json.text_injective
      ((holds.map_text_answer workers isOver).trans isAnswer.symm)

end Pool

/-! ### Searches -/

/-- What there is to search: the indexed classes without duplicates. -/
theorem exists_classNames
    (available :
      Files.foundAt session.files setting.host.workingDirectory (pathOf project) = .ok none ∨
        ∃ table, (lookupTable project setting session).1 = .ok table)
    (remembered : RemembersDistinctKeys session.memory) :
    ∃ names, (classNames project setting session).1 = .ok names ∧ names.Nodup := by
  rcases available with absent | ⟨table, looked⟩
  · refine ⟨[], ?_, List.nodup_nil⟩
    rw [run_classNames, absent]
  · exact ⟨_, classNames_of_lookupTable looked,
      (remembered.lookupTable.1 table looked).nodup_names⟩

/-- A search answers the direct subclasses of a class, each once and in the order of the index, in
whichever order the analyses end and however the steps of the workers follow each other. -/
theorem subclasses_eq (className project : Text)
    (available :
      Files.foundAt session.files setting.host.workingDirectory (pathOf project) = .ok none ∨
        ∃ table, (lookupTable project setting session).1 = .ok table)
    (workers : 0 < setting.config.maxWorkers) (remembered : RemembersDistinctKeys session.memory) :
    ∃ names answer, (classNames project setting session).1 = .ok names ∧
      let behind := (classNames project setting session).2
      let candidates := names.filter (·.text? != some className)
      answer.map Json.text = directSubclasses className project setting session candidates ∧
      answer.Nodup ∧
      (subclasses className project setting session).1 = .ok answer ∧
      (∀ completed, completed.Perm candidates →
        (subclassesAmong className project candidates completed setting behind).1 = .ok answer) ∧
      (Pool.start behind candidates).ComesTo setting project className answer := by
  rcases exists_classNames available remembered with ⟨names, listed, distinct⟩
  rcases exists_map_text_eq className project setting session
    (names.filter (·.text? != some className)) with ⟨answer, isAnswer⟩
  have agrees : Agrees setting project session (classNames project setting session).2 :=
    repeats_classNames.leads session
  refine ⟨names, answer, listed, isAnswer, ?_, ?_, fun completed isOrder => ?_, ?_⟩
  · apply List.Nodup.of_map Json.text
    rw [isAnswer]
    exact (distinct.filter _).filter _
  · unfold subclasses
    rw [run_bind]
    rcases outcome : classNames project setting session with ⟨result, behind⟩
    rw [outcome] at listed agrees
    cases listed
    dsimp only
    rw [run_bind, run_config]
    dsimp only
    rw [if_neg (by omega)]
    exact subclassesAmong_eq (.refl _) agrees isAnswer
  · exact subclassesAmong_eq isOrder agrees isAnswer
  · exact Pool.comesTo_start workers agrees isAnswer

/-- A project with the classes `a.Sub`, `a.Broken` and `a.Base` in one jar. -/
def siblingsSession : Session where
  files := ⟨[(["work"], .directory),
    (["work", fileName], .file
      (.text ("\x7b\"class_index\": [\x7b\"class_name\": \"a.Sub\", \"jar_path\": \"a.jar\"\x7d, " ++
        "\x7b\"class_name\": \"a.Broken\", \"jar_path\": \"a.jar\"\x7d, " ++
        "\x7b\"class_name\": \"a.Base\", \"jar_path\": \"a.jar\"\x7d]\x7d")) 1)]⟩
  clock := 2
  launches := []
  memory := .empty

/-- Only `a.Sub` can be listed. -/
def siblingsSetting : Setting where
  host :=
    { workSetting.host with
      commands := ["javap"]
      answer := fun launch =>
        if launch.command.getLast? = some "a.Sub" then
          .ended 0 "public class a.Sub extends a.Base\n\x7b\n\x7d\n" []
        else .ended 1 [] "class not found" }
  config := .standard

set_option maxRecDepth 100000 in
/-- A class that cannot be analysed is passed over. -/
theorem subclasses_siblings : ∃ names,
    (classNames "." siblingsSetting siblingsSession).1 = .ok names ∧
      names.filterMap Json.text? = (["a.Sub", "a.Broken", "a.Base"] : List Text) ∧
      (analyze (.text "a.Broken") "." siblingsSetting siblingsSession).1.toOption.isNone = true ∧
      (subclasses "a.Base" "." siblingsSetting siblingsSession).1 = .ok ["a.Sub"] ∧
      (Pool.start (classNames "." siblingsSetting siblingsSession).2
        (names.filter (·.text? != some "a.Base"))).ComesTo siblingsSetting "." "a.Base" ["a.Sub"] := by
  have readable : ∃ table, (lookupTable "." siblingsSetting siblingsSession).1 = .ok table := by
    have isRead : (lookupTable "." siblingsSetting siblingsSession).1.toOption.isSome = true := by
      decide +kernel
    cases looked : (lookupTable "." siblingsSetting siblingsSession).1 with
    | ok table => exact ⟨table, rfl⟩
    | error error =>
      rw [looked] at isRead
      contradiction
  have listsAll : (classNames "." siblingsSetting siblingsSession).1.toOption.map
      (List.filterMap Json.text?) = some (["a.Sub", "a.Broken", "a.Base"] : List Text) := by
    decide +kernel
  have fails : (analyze (.text "a.Broken") "." siblingsSetting siblingsSession).1.toOption.isNone =
      true := by
    decide +kernel
  have finds : (subclasses "a.Base" "." siblingsSetting siblingsSession).1.toOption =
      some (["a.Sub"] : List Text) := by
    decide +kernel
  rcases subclasses_eq "a.Base" "." (.inr readable) (by decide) remembersDistinctKeys_empty
    with ⟨names, answer, listed, -, -, ran, -, comesTo⟩
  rw [ran] at finds
  cases finds
  rw [listed] at listsAll
  exact ⟨names, listed, Option.some.inj listsAll, fails, ran, comesTo⟩

end JarAtlas.Analysis
