import JarAtlas.Proofs.Analysis.Agreement
import JarAtlas.Proofs.Listing.Superclass
import Mathlib.Data.List.Chain
import Mathlib.Data.List.Nodup
import Mathlib.Data.List.Perm.Subperm

/-!
# The walk to the first ancestor

The walk from a class to its first ancestor follows what the analyses say: there is one way up from
each class, and it goes on as long as it comes to classes that can be analysed and are new. Such
classes are all in the index, so the walk comes to an end before its bound does. Where it ends
decides the result: at a class without a superclass, at one whose superclass is in the chain, or at
a class that cannot be analysed.
-/

namespace JarAtlas.Analysis

open Action ClassIndex

/-! ### Descents -/

section

variable {analysis : Text → Except Error ClassSummary} {className current superclass : Text}
  {rest chain other : List Text} {result : Except Error (List Text)}

/-- The analysis of a class names its superclass. -/
def NamesSuperclass (analysis : Text → Except Error ClassSummary) (superclass className : Text) :
    Prop :=
  ∃ summary, analysis className = .ok summary ∧ summary.superclass = some superclass

/-- The classes from an ancestor down to a class, each the superclass of the next, none twice. -/
structure IsDescent (analysis : Text → Except Error ClassSummary) (className : Text)
    (chain : List Text) : Prop where
  last : chain.getLast? = some className
  distinct : chain.Nodup
  linked : chain.IsChain (NamesSuperclass analysis)

/-- A walk up a chain ends at its first class, with a result. -/
inductive EndsIn (analysis : Text → Except Error ClassSummary) :
    List Text → Except Error (List Text) → Prop
  /-- The class has no superclass, or one that is in the chain. -/
  | top {first : Text} {rest : List Text} {summary : ClassSummary}
      (analysed : analysis first = .ok summary)
      (nothingNew : ∀ superclass, summary.superclass = some superclass →
        superclass ∈ first :: rest) : EndsIn analysis (first :: rest) (.ok (first :: rest))
  /-- An ancestor cannot be analysed, and this is reported. -/
  | unknown {first next : Text} {rest : List Text} {error : Error}
      (failed : analysis first = .error error) (reported : error.isReported = true) :
      EndsIn analysis (first :: next :: rest) (.ok (first :: next :: rest))
  /-- The class itself cannot be analysed, or an ancestor for an error that is not reported. -/
  | failed {first : Text} {rest : List Text} {error : Error}
      (failed : analysis first = .error error)
      (fatal : rest = [] ∨ error.isReported = false) :
      EndsIn analysis (first :: rest) (.error error)

theorem isDescent_singleton : IsDescent analysis className [className] where
  last := rfl
  distinct := List.nodup_singleton _
  linked := .singleton _

theorem IsDescent.cons (descent : IsDescent analysis className (current :: rest))
    (names : NamesSuperclass analysis superclass current) (isNew : superclass ∉ current :: rest) :
    IsDescent analysis className (superclass :: current :: rest) where
  last := by rw [List.getLast?_cons_cons, descent.last]
  distinct := List.nodup_cons.mpr ⟨isNew, descent.distinct⟩
  linked := List.isChain_cons_cons.mpr ⟨names, descent.linked⟩

theorem IsDescent.tail (descent : IsDescent analysis className (superclass :: current :: rest)) :
    IsDescent analysis className (current :: rest) where
  last := by rw [← descent.last, List.getLast?_cons_cons]
  distinct := descent.distinct.of_cons
  linked := descent.linked.of_cons

/-- A descent that holds another goes on from its first class as the analysis says. -/
theorem IsDescent.eq_or_goesOn (descent : IsDescent analysis className chain)
    (holds : current :: rest <:+ chain) :
    chain = current :: rest ∨ ∃ superclass, superclass :: current :: rest <:+ chain ∧
      NamesSuperclass analysis superclass current ∧ superclass ∉ current :: rest := by
  rcases holds with ⟨above, rfl⟩
  rcases List.eq_nil_or_concat above with rfl | ⟨front, superclass, rfl⟩
  · exact .inl rfl
  · right
    rw [List.concat_eq_append, List.append_assoc] at descent ⊢
    have linked := descent.linked.right_of_append
    have distinct := (List.nodup_append.mp descent.distinct).2.1
    exact ⟨superclass, List.suffix_append _ _, (List.isChain_cons_cons.mp linked).1,
      (List.nodup_cons.mp distinct).1⟩

/-- There is one way up from a class, so one of two descents to it holds the other. -/
theorem IsDescent.comparable (descent : IsDescent analysis className chain)
    (another : IsDescent analysis className other) : chain <:+ other ∨ other <:+ chain := by
  induction chain with
  | nil => exact absurd descent.last (by simp)
  | cons first rest ih =>
    cases rest with
    | nil =>
      left
      have isClass : first = className := by simpa using descent.last
      rcases List.getLast?_eq_some_iff.mp another.last with ⟨front, rfl⟩
      rw [isClass]
      exact List.suffix_append _ _
    | cons next rest =>
      rcases ih descent.tail with inOther | holdsOther
      · rcases another.eq_or_goesOn inOther with rfl | ⟨superclass, goesOn, names, -⟩
        · exact .inr (List.suffix_cons _ _)
        · left
          rcases (List.isChain_cons_cons.mp descent.linked).1 with ⟨summary, analysed, named⟩
          rcases names with ⟨same, analysedToo, namedToo⟩
          cases analysed.symm.trans analysedToo
          cases named.symm.trans namedToo
          exact goesOn
      · exact .inr (holdsOther.trans (List.suffix_cons _ _))

/-- Where a walk ends, no descent goes on. -/
theorem EndsIn.eq_of_suffix (ends : EndsIn analysis chain result)
    (another : IsDescent analysis className other) (holds : chain <:+ other) : other = chain := by
  cases ends with
  | top analysed nothingNew =>
    rcases another.eq_or_goesOn holds with same | ⟨superclass, -, ⟨summary, found, named⟩, isNew⟩
    · exact same
    · cases analysed.symm.trans found
      exact absurd (nothingNew superclass named) isNew
  | unknown failed reported =>
    rcases another.eq_or_goesOn holds with same | ⟨superclass, -, ⟨summary, found, -⟩, -⟩
    · exact same
    · cases failed.symm.trans found
  | failed failed fatal =>
    rcases another.eq_or_goesOn holds with same | ⟨superclass, -, ⟨summary, found, -⟩, -⟩
    · exact same
    · cases failed.symm.trans found

/-- Walks from one class end in one chain. -/
theorem IsDescent.eq_of_endsIn {otherResult : Except Error (List Text)}
    (descent : IsDescent analysis className chain) (ends : EndsIn analysis chain result)
    (another : IsDescent analysis className other) (otherEnds : EndsIn analysis other otherResult) :
    chain = other := by
  rcases descent.comparable another with inOther | holdsOther
  · exact (ends.eq_of_suffix another inOther).symm
  · exact otherEnds.eq_of_suffix descent holdsOther

theorem EndsIn.result_unique {otherResult : Except Error (List Text)}
    (ends : EndsIn analysis chain result) (otherEnds : EndsIn analysis chain otherResult) :
    result = otherResult := by
  cases ends with
  | top analysed nothingNew =>
    cases otherEnds with
    | top => rfl
    | unknown => rfl
    | failed failed fatal => cases analysed.symm.trans failed
  | unknown failed reported =>
    cases otherEnds with
    | top => rfl
    | unknown => rfl
    | failed failedToo fatal =>
      cases failed.symm.trans failedToo
      rcases fatal with alone | unreported
      · contradiction
      · rw [reported] at unreported
        contradiction
  | failed failed fatal =>
    cases otherEnds with
    | top analysed nothingNew => cases failed.symm.trans analysed
    | unknown failedToo reported =>
      cases failed.symm.trans failedToo
      rcases fatal with alone | unreported
      · contradiction
      · rw [reported] at unreported
        contradiction
    | failed failedToo fatal =>
      cases failed.symm.trans failedToo
      rfl

/-- All classes of a descent can be analysed if the first one can. -/
theorem IsDescent.analysed (descent : IsDescent analysis className (current :: rest))
    {summary : ClassSummary} (first : analysis current = .ok summary) :
    ∀ name ∈ current :: rest, ∃ summary, analysis name = .ok summary := by
  induction rest generalizing current summary with
  | nil =>
    intro name member
    rw [List.mem_singleton.mp member]
    exact ⟨summary, first⟩
  | cons next rest ih =>
    intro name member
    rcases List.mem_cons.mp member with rfl | later
    · exact ⟨summary, first⟩
    · rcases (List.isChain_cons_cons.mp descent.linked).1 with ⟨nextSummary, nextAnalysed, -⟩
      exact ih descent.tail nextAnalysed name later

end

/-! ### The walk -/

variable {setting : Setting} {project : Text} {session later : Session}

/-- What can be analysed is in the index. -/
theorem exists_table_of_analyze {name : Text} {summary : ClassSummary}
    (analysed : (analyze (.text name) project setting session).1 = .ok summary) :
    ∃ table, (lookupTable project setting session).1 = .ok table ∧
      .text name ∈ table.map Prod.fst := by
  rcases exists_of_run_bind (Prod.ext analysed rfl) with ⟨jar, between, found, -⟩
  rcases exists_of_run_bind found with ⟨jar?, behind, looked, given⟩
  rw [run_jarOf?] at looked
  cases tableFound : (lookupTable project setting session).1 with
  | error error =>
    rw [tableFound] at looked
    cases looked
  | ok table =>
    rw [tableFound] at looked
    have isIn : jarIn? table (.string (.text name)) = jar? := by
      injection looked with answer
      injection answer
    refine ⟨table, rfl, ?_⟩
    cases jar? with
    | none => cases given
    | some jar =>
      rcases Option.map_eq_some_iff.mp isIn with ⟨entry, entryFound, -⟩
      have same := List.find?_some entryFound
      rw [beq_iff_eq, Json.key?_eq_text_iff] at same
      exact List.mem_map.mpr ⟨entry, List.mem_of_find?_eq_some entryFound, same⟩

theorem superclass_ne_nil_of_analyze {name : Text} {summary : ClassSummary}
    (analysed : (analyze (.text name) project setting session).1 = .ok summary) :
    summary.superclass ≠ some [] := by
  rcases exists_of_run_bind (Prod.ext analysed rfl) with ⟨jar, between, -, ran⟩
  rcases exists_of_run_bind ran with ⟨listing, behind, -, parsed⟩
  rw [run_ofExcept] at parsed
  cases read : Listing.parse (some listing) (some name) with
  | error fault =>
    rw [read] at parsed
    cases parsed
  | ok found =>
    rw [read] at parsed
    cases parsed
    exact Listing.superclass_ne_nil_of_parse read

theorem classNames_of_lookupTable {table : LookupTable}
    (looked : (lookupTable project setting session).1 = .ok table) :
    (classNames project setting session).1 = .ok (table.map Prod.fst) := by
  have ran := @run_lookupTable setting session project
  rw [run_classNames]
  split
  · rename_i error found
    rw [found] at ran
    rw [ran] at looked
    cases looked
  · rename_i found
    rw [found] at ran
    rw [ran] at looked
    cases looked
  · rw [looked]
    rfl

theorem repeats_classNames :
    Repeats (Agrees setting project) setting (classNames project) := by
  apply (repeats_of_readsFiles (Files.readsFiles_doesExist _)).bind
  intro isThere
  cases isThere with
  | true => exact repeats_lookupTable.bind fun _ => .pure _
  | false => exact .pure _

/-- A descent of classes that can be analysed is no longer than the index. -/
theorem IsDescent.length_le {className current : Text} {rest : List Text} {summary : ClassSummary}
    {names : List Json}
    (descent : IsDescent (fun name => (analyze (.text name) project setting session).1) className
      (current :: rest))
    (analysed : (analyze (.text current) project setting session).1 = .ok summary)
    (listed : (classNames project setting session).1 = .ok names) :
    (current :: rest).length ≤ names.length := by
  have indexed : (current :: rest).map Json.text ⊆ names := by
    intro value member
    rcases List.mem_map.mp member with ⟨name, inChain, rfl⟩
    rcases descent.analysed analysed name inChain with ⟨found, nameAnalysed⟩
    rcases exists_table_of_analyze nameAnalysed with ⟨table, looked, inTable⟩
    cases listed.symm.trans (classNames_of_lookupTable looked)
    exact inTable
  have distinct : ((current :: rest).map Json.text).Nodup :=
    descent.distinct.map Json.text_injective
  simpa using (List.subperm_of_subset distinct indexed).length_le

/-- A walk that goes on from a descent ends in one, before its bound does. -/
theorem ancestors_endsIn {className : Text} {names : List Json} {fuel : Nat} {current : Text}
    {rest : List Text} {summary : ClassSummary}
    (descent : IsDescent (fun name => (analyze (.text name) project setting session).1) className
      (current :: rest))
    (analysed : (analyze (.text current) project setting session).1 = .ok summary)
    (listed : (classNames project setting session).1 = .ok names)
    (enough : names.length + 2 ≤ fuel + (current :: rest).length)
    (agrees : Agrees setting project session later) :
    ∃ chain,
      IsDescent (fun name => (analyze (.text name) project setting session).1) className chain ∧
      EndsIn (fun name => (analyze (.text name) project setting session).1) chain
        (ancestors project fuel (current :: rest) summary setting later).1 := by
  induction fuel generalizing current rest summary later with
  | zero =>
    have short := descent.length_le analysed listed
    omega
  | succ fuel ih =>
    have named : summary.superclass.filter (!·.isEmpty) = summary.superclass := by
      have nonempty := superclass_ne_nil_of_analyze analysed
      cases superclass : summary.superclass with
      | none => rfl
      | some name =>
        rw [superclass] at nonempty
        cases name with
        | nil => contradiction
        | cons character name => rfl
    rw [ancestors, named]
    cases found : summary.superclass with
    | none => exact ⟨_, descent, .top analysed (by simp [found])⟩
    | some superclass =>
      dsimp only
      cases isKnown : (current :: rest).contains superclass with
      | true =>
        rw [List.contains_iff_mem] at isKnown
        refine ⟨_, descent, .top analysed ?_⟩
        rintro other same
        cases found.symm.trans same
        exact isKnown
      | false =>
        have isNew : superclass ∉ current :: rest := by simpa using isKnown
        have longer := descent.cons ⟨summary, analysed, found⟩ isNew
        rcases (repeats_analyze (.text superclass)).run_later agrees with ⟨after, ran, agreesAfter⟩
        rw [if_neg (by simp), run_bind, run_attempt, ran]
        dsimp only
        cases above : (analyze (.text superclass) project setting session).1 with
        | ok next =>
          refine ih longer above ?_ agreesAfter
          rw [List.length_cons]
          omega
        | error error =>
          dsimp only
          refine ⟨_, longer, ?_⟩
          cases reported : error.isReported with
          | true => exact .unknown above reported
          | false => exact .failed above (.inr reported)

theorem hierarchy_endsIn (className project : Text) (setting : Setting) (session : Session) :
    ∃ chain,
      IsDescent (fun name => (analyze (.text name) project setting session).1) className chain ∧
      EndsIn (fun name => (analyze (.text name) project setting session).1) chain
        (hierarchy className project setting session).1 := by
  have agrees : Agrees setting project session session := Std.Refl.refl session
  rcases (repeats_analyze (.text className)).run_later agrees with ⟨between, ran, agreesBetween⟩
  unfold hierarchy
  rw [run_bind, ran]
  cases analysed : (analyze (.text className) project setting session).1 with
  | error error => exact ⟨_, isDescent_singleton, .failed analysed (.inl rfl)⟩
  | ok summary =>
    rcases exists_table_of_analyze analysed with ⟨table, looked, -⟩
    have listed := classNames_of_lookupTable looked
    rcases repeats_classNames.run_later agreesBetween with ⟨after, lists, agreesAfter⟩
    dsimp only
    rw [run_bind, lists, listed]
    exact ancestors_endsIn isDescent_singleton analysed listed (by simp) agreesAfter

/-- The walk from a class comes to a result exactly if the classes above it, as far as they are
linked by their analyses, end in that result. -/
theorem hierarchy_eq_iff (className project : Text) (setting : Setting) (session : Session)
    (result : Except Error (List Text)) :
    let analysis := fun name => (analyze (.text name) project setting session).1
    (hierarchy className project setting session).1 = result ↔
      ∃ chain, IsDescent analysis className chain ∧ EndsIn analysis chain result := by
  intro analysis
  constructor
  · rintro rfl
    exact hierarchy_endsIn className project setting session
  · rintro ⟨chain, descent, ends⟩
    rcases hierarchy_endsIn className project setting session with ⟨walked, walkedDescent, walkedEnds⟩
    cases walkedDescent.eq_of_endsIn walkedEnds descent ends
    exact walkedEnds.result_unique ends

/-- A project with the classes `a.Sub` and `a.Base` in one jar. -/
def familySession : Session where
  files := ⟨[(["work"], .directory),
    (["work", fileName], .file
      (.text ("\x7b\"class_index\": [\x7b\"class_name\": \"a.Sub\", \"jar_path\": \"a.jar\"\x7d, " ++
        "\x7b\"class_name\": \"a.Base\", \"jar_path\": \"a.jar\"\x7d]\x7d")) 1)]⟩
  clock := 2
  launches := []
  memory := .empty

/-- The listing of `a.Base` gives a size of too many digits. -/
def familyListing (className : Text) : Text :=
  if className = "a.Sub" then "public class a.Sub extends a.Base\n\x7b\n\x7d\n"
  else
    "public class a.Base\n\x7b\n  public static void swap(int);\n    descriptor: (I)V\n" ++
      "      stack=1, locals=1, args_size=" ++ List.replicate (Text.digitLimit + 1) '1'

def familySetting : Setting where
  host :=
    { workSetting.host with
      commands := ["javap"]
      answer := fun launch => .ended 0 (familyListing (launch.command.getLast?.getD [])) [] }
  config := .standard

/-- The superclass that a result names. -/
def superclassIn? (result : Except Error ClassSummary) : Option Text :=
  result.toOption.bind ClassSummary.superclass

theorem exists_of_superclassIn? {result : Except Error ClassSummary} {superclass : Text}
    (named : superclassIn? result = some superclass) :
    ∃ summary, result = .ok summary ∧ summary.superclass = some superclass := by
  cases result with
  | error error => contradiction
  | ok summary => exact ⟨summary, rfl, named⟩

/-- The result is an error that is not reported. -/
def isUnreported {α : Type} : Except Error α → Bool
  | .ok _ => false
  | .error error => !error.isReported

theorem exists_of_isUnreported {α : Type} {result : Except Error α}
    (unreported : isUnreported result = true) :
    ∃ error, result = .error error ∧ error.isReported = false := by
  cases result with
  | ok answer => contradiction
  | error error => exact ⟨error, rfl, by simpa [isUnreported] using unreported⟩

set_option maxRecDepth 100000 in
/-- A class that can be analysed has no ancestors listed if the analysis of its superclass fails in
a way that is not reported. -/
theorem hierarchy_oversizedBase :
    (∃ summary, (analyze (.text "a.Sub") "." familySetting familySession).1 = .ok summary) ∧
      ∃ error, (hierarchy "a.Sub" "." familySetting familySession).1 = .error error := by
  have names : superclassIn? (analyze (.text "a.Sub") "." familySetting familySession).1 =
      some "a.Base" := by
    decide +kernel
  have fails : isUnreported (analyze (.text "a.Base") "." familySetting familySession).1 = true := by
    decide +kernel
  rcases exists_of_superclassIn? names with ⟨summary, analysed, named⟩
  rcases exists_of_isUnreported fails with ⟨error, failed, unreported⟩
  have descent : IsDescent (fun name => (analyze (.text name) "." familySetting familySession).1)
      "a.Sub" ["a.Base", "a.Sub"] :=
    isDescent_singleton.cons ⟨summary, analysed, named⟩ (by decide)
  rcases hierarchy_endsIn "a.Sub" "." familySetting familySession
    with ⟨walked, walkedDescent, walkedEnds⟩
  cases walkedDescent.eq_of_endsIn walkedEnds descent (.failed failed (.inr unreported))
  exact ⟨⟨summary, analysed⟩, error, walkedEnds.result_unique (.failed failed (.inr unreported))⟩

end JarAtlas.Analysis
