import JarAtlas.Proofs.Analysis.Workers
import Mathlib.Logic.Hydra

/-!
# Searches by several workers

A search for subclasses as a pool of analyses that take turns. Any analysis that is running may take
the next step, and one that waits may begin as long as fewer are running than there are workers.
Every schedule comes to an end, since each step brings one analysis forward and none goes on for
ever. What is found then does not depend on the schedule: no analysis disturbs the result of another.
-/

namespace JarAtlas.Analysis

open Action ClassIndex Routine

/-- How far the analysis of a candidate has come. -/
inductive Stage
  | waiting
  | running (routine : Routine ClassSummary)
  | finished (result : Except Error ClassSummary)

/-- A result names `className` as the superclass. -/
def hasSuperclass (className : Text) : Except Error ClassSummary → Bool
  | .ok summary => summary.superclass == some className
  | .error _ => false

namespace Stage

def isRunning : Stage → Bool
  | running _ => true
  | _ => false

/-- The analysis has come to a result that names `className`. -/
def hasFound (className : Text) : Stage → Bool
  | finished result => hasSuperclass className result
  | _ => false

/-- One stage and the next one. -/
inductive Next : Stage → Stage → Prop
  | start (routine : Routine ClassSummary) : Next waiting (running routine)
  | work (change : Session → Session) (next : Session → Routine ClassSummary) (session : Session) :
      Next (running (.step change next)) (running (next session))
  | finish (result : Except Error ClassSummary) : Next (running (.done result)) (finished result)

/-- Later stages come first. -/
def Follows (later earlier : Stage) : Prop := Next earlier later

theorem acc_finished (result : Except Error ClassSummary) : Acc Follows (finished result) :=
  .intro _ fun _ next => by cases next

theorem acc_running (routine : Routine ClassSummary) : Acc Follows (running routine) := by
  induction routine with
  | done result =>
    refine .intro _ fun later next => ?_
    cases next
    exact acc_finished result
  | step change next ih =>
    refine .intro _ fun later isNext => ?_
    cases isNext with
    | work change next session => exact ih session

/-- No analysis goes on for ever. -/
theorem wellFounded_follows : WellFounded Follows := by
  refine ⟨fun stage => ?_⟩
  cases stage with
  | waiting =>
    refine .intro _ fun later next => ?_
    cases next with
    | start routine => exact acc_running routine
  | running routine => exact acc_running routine
  | finished result => exact acc_finished result

end Stage

/-- A search: the session that all analyses share, the candidates with the stages of their analyses,
and the subclasses among them in the order in which they were found. -/
structure Pool where
  session : Session
  jobs : List (Json × Stage)
  found : List Json

namespace Pool

/-- The search before its first analysis. -/
def start (session : Session) (candidates : List Json) : Pool :=
  { session, jobs := candidates.map fun candidate => (candidate, .waiting), found := [] }

/-- What a search among its candidates answers: those that were found, in the order of the index. -/
def answer (pool : Pool) : List Text :=
  ((pool.jobs.map Prod.fst).filterMap Json.text?).filter
    (pool.found.filterMap Json.text?).contains

/-- A step of a search for the subclasses of `className`. -/
inductive Step (setting : Setting) (project className : Text) : Pool → Pool → Prop
  | start {session : Session} {before after : List (Json × Stage)} {candidate : Json}
      {found : List Json}
      (free : ((before ++ (candidate, .waiting) :: after).countP fun job => job.2.isRunning) <
        setting.config.maxWorkers) :
      Step setting project className ⟨session, before ++ (candidate, .waiting) :: after, found⟩
        ⟨session,
          before ++ (candidate, .running (analysisRoutine setting project candidate)) :: after, found⟩
  | work {session : Session} {before after : List (Json × Stage)} {candidate : Json}
      {found : List Json} {change : Session → Session} {next : Session → Routine ClassSummary} :
      Step setting project className
        ⟨session, before ++ (candidate, .running (.step change next)) :: after, found⟩
        ⟨change session, before ++ (candidate, .running (next session)) :: after, found⟩
  | finish {session : Session} {before after : List (Json × Stage)} {candidate : Json}
      {found : List Json} {result : Except Error ClassSummary} :
      Step setting project className
        ⟨session, before ++ (candidate, .running (.done result)) :: after, found⟩
        ⟨session, before ++ (candidate, .finished result) :: after,
          if hasSuperclass className result then found ++ [candidate] else found⟩

variable {setting : Setting} {project className : Text} {session : Session} {pool later : Pool}
  {candidates : List Json}

/-! ### Every schedule comes to an end -/

/-- A step brings one analysis to its next stage and leaves the others where they are. -/
theorem Step.exists_next (step : Step setting project className pool later) :
    ∃ before candidate stage next after, pool.jobs = before ++ (candidate, stage) :: after ∧
      later.jobs = before ++ (candidate, next) :: after ∧ Stage.Next stage next := by
  cases step with
  | start free => exact ⟨_, _, _, _, _, rfl, rfl, .start _⟩
  | work => exact ⟨_, _, _, _, _, rfl, rfl, .work _ _ _⟩
  | finish => exact ⟨_, _, _, _, _, rfl, rfl, .finish _⟩

/-- The stages of a search. -/
def stages (pool : Pool) : Multiset Stage := pool.jobs.map Prod.snd

theorem wellFounded_step :
    WellFounded fun later earlier : Pool => Step setting project className earlier later := by
  have shrinks : ∀ {later earlier : Pool}, Step setting project className earlier later →
      Relation.CutExpand Stage.Follows later.stages earlier.stages := by
    intro later earlier step
    rcases step.exists_next with ⟨before, candidate, stage, next, after, was, isNow, isNext⟩
    have split : ∀ stage : Stage, ((before ++ (candidate, stage) :: after).map Prod.snd :
        Multiset Stage) = (before.map Prod.snd ++ after.map Prod.snd : Multiset Stage) + {stage} := by
      intro stage
      rw [List.map_append, List.map_cons, ← Multiset.coe_singleton, Multiset.coe_add,
        Multiset.coe_eq_coe]
      exact List.perm_middle.trans (List.perm_append_singleton _ _).symm
    unfold stages
    rw [was, isNow, split, split]
    exact Relation.cutExpand_add_single _ isNext
  exact Subrelation.wf shrinks (InvImage.wf stages Stage.wellFounded_follows.cutExpand)

/-- As long as an analysis is not finished, the search can go on. -/
theorem exists_step (workers : 0 < setting.config.maxWorkers)
    (unfinished : ∃ job ∈ pool.jobs, ∀ result, job.2 ≠ .finished result) :
    ∃ later, Step setting project className pool later := by
  rcases pool with ⟨session, jobs, found⟩
  by_cases isRunning : ∃ candidate routine, (candidate, .running routine) ∈ jobs
  · rcases isRunning with ⟨candidate, routine, member⟩
    rcases List.append_of_mem member with ⟨before, after, rfl⟩
    cases routine with
    | done result => exact ⟨_, .finish⟩
    | step change next => exact ⟨_, .work⟩
  · rcases unfinished with ⟨⟨candidate, stage⟩, member, unfinished⟩
    cases stage with
    | finished result => exact absurd rfl (unfinished result)
    | running routine => exact absurd ⟨candidate, routine, member⟩ isRunning
    | waiting =>
      have idle : (jobs.countP fun job => job.2.isRunning) = 0 := by
        rw [List.countP_eq_zero]
        rintro ⟨other, stage⟩ otherMember runs
        cases stage with
        | running routine => exact isRunning ⟨other, routine, otherMember⟩
        | waiting => contradiction
        | finished result => contradiction
      rcases List.append_of_mem member with ⟨before, after, rfl⟩
      exact ⟨_, .start (by rw [idle]; exact workers)⟩

/-! ### What holds along a search -/

/-- What a stage promises in a session: the result to come, or the one that is there, is the one
that the candidate's analysis comes to by itself. -/
def Promises (setting : Setting) (project : Text) (result : Except Error ClassSummary)
    (session : Session) : Stage → Prop
  | .waiting => True
  | .running routine => routine.SettlesOn (Agrees setting project) result session
  | .finished actual => actual = result

theorem Promises.mono {result : Except Error ClassSummary} {stage : Stage} {later : Session}
    (promises : Promises setting project result session stage)
    (agrees : Agrees setting project session later) :
    Promises setting project result later stage := by
  cases stage with
  | waiting => trivial
  | running routine => exact SettlesOn.mono promises agrees
  | finished actual => exact promises

/-- What holds of a search. Each analysis is compared with itself as it is in one earlier session. -/
structure Holds (setting : Setting) (project className : Text) (session : Session)
    (candidates : List Json) (pool : Pool) : Prop where
  agrees : Agrees setting project session pool.session
  listed : pool.jobs.map Prod.fst = candidates
  promises : ∀ job ∈ pool.jobs,
    Promises setting project (analyze job.1 project setting session).1 pool.session job.2
  found : ∀ candidate, candidate ∈ pool.found ↔
    ∃ stage, (candidate, stage) ∈ pool.jobs ∧ stage.hasFound className = true

theorem holds_start {now : Session} (agrees : Agrees setting project session now)
    (candidates : List Json) :
    (start now candidates).Holds setting project className session candidates where
  agrees := agrees
  listed := by simp [start, Function.comp_def]
  promises := by
    intro job member
    rcases List.mem_map.mp member with ⟨candidate, -, rfl⟩
    trivial
  found := by simp [start, Stage.hasFound]

/-- One analysis comes to its next stage, while the session becomes a later one. -/
theorem Holds.next {before after : List (Json × Stage)} {candidate : Json} {stage next : Stage}
    {now later : Session} {found foundLater : List Json}
    (holds : Holds setting project className session candidates
      ⟨now, before ++ (candidate, stage) :: after, found⟩)
    (agrees : Agrees setting project now later)
    (promises : Promises setting project (analyze candidate project setting session).1 later next)
    (isNext : Stage.Next stage next)
    (adds : ∀ other, other ∈ foundLater ↔
      other ∈ found ∨ other = candidate ∧ next.hasFound className = true) :
    Holds setting project className session candidates
      ⟨later, before ++ (candidate, next) :: after, foundLater⟩ where
  agrees := IsTrans.trans _ _ _ holds.agrees agrees
  listed := by simpa using holds.listed
  promises := by
    intro job member
    rcases List.mem_append.mp member with isBefore | isAfter
    · exact (holds.promises job (List.mem_append_left _ isBefore)).mono agrees
    · rcases List.mem_cons.mp isAfter with rfl | isAfter
      · exact promises
      · have member := List.mem_append_right before (List.mem_cons_of_mem (candidate, stage) isAfter)
        exact (holds.promises job member).mono agrees
  found := by
    -- An analysis that has a next stage has found nothing yet.
    have nothing : stage.hasFound className = false := by cases isNext <;> rfl
    intro other
    rw [adds, holds.found]
    simp only [List.mem_append, List.mem_cons, Prod.mk.injEq]
    constructor
    · rintro (⟨otherStage, isBefore | ⟨rfl, rfl⟩ | isAfter, hasFound⟩ | ⟨rfl, hasFound⟩)
      · exact ⟨otherStage, .inl isBefore, hasFound⟩
      · rw [nothing] at hasFound
        contradiction
      · exact ⟨otherStage, .inr (.inr isAfter), hasFound⟩
      · exact ⟨next, .inr (.inl ⟨rfl, rfl⟩), hasFound⟩
    · rintro ⟨otherStage, isBefore | ⟨rfl, rfl⟩ | isAfter, hasFound⟩
      · exact .inl ⟨otherStage, .inl isBefore, hasFound⟩
      · exact .inr ⟨rfl, hasFound⟩
      · exact .inl ⟨otherStage, .inr (.inr isAfter), hasFound⟩

theorem Holds.step (holds : pool.Holds setting project className session candidates)
    (step : Step setting project className pool later) :
    later.Holds setting project className session candidates := by
  cases step with
  | @start now before after candidate found free =>
    refine holds.next (Std.Refl.refl now) ?_ (.start _) (by simp [Stage.hasFound])
    have settles := @settlesOn_analysisRoutine setting project now candidate
    rw [(repeats_analyze candidate).again holds.agrees] at settles
    exact settles
  | @work now before after candidate found change next =>
    have settles := holds.promises (candidate, .running (.step change next)) (by simp)
    rcases settles now (Std.Refl.refl now) with ⟨agrees, settlesLater⟩
    exact holds.next agrees settlesLater (.work change next now) (by simp [Stage.hasFound])
  | @finish now before after candidate found result =>
    have settled := holds.promises (candidate, .running (.done result)) (by simp)
    refine holds.next (Std.Refl.refl now) settled (.finish result) ?_
    intro other
    cases named : hasSuperclass className result <;> simp [Stage.hasFound, named]

/-- Whatever the schedule. -/
theorem holds_of_reached {now : Session} (agrees : Agrees setting project session now)
    (reached : Relation.ReflTransGen (Step setting project className) (start now candidates) pool) :
    pool.Holds setting project className session candidates := by
  induction reached with
  | refl => exact holds_start agrees candidates
  | tail _ step ih => exact ih.step step

end Pool

end JarAtlas.Analysis
