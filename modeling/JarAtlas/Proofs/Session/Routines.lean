import JarAtlas.Proofs.Session.Repetition

/-!
# Operations cut into steps

An operation that shares its session with others is a routine: steps that each see the session as it
is by then, and between which others may change it. Taken without a break, the steps run as one
operation. A routine is settled if all its steps lead to later sessions and its result is the same
in whichever later sessions they are taken, so that others cannot disturb it.
-/

namespace JarAtlas

/-- An operation step by step: a step changes the session and goes on with what it has seen. -/
inductive Routine (α : Type)
  | done (result : Except Error α)
  | step (change : Session → Session) (next : Session → Routine α)

namespace Routine

variable {α β : Type}

/-- All steps without a break. -/
def run : Routine α → Session → Except Error α × Session
  | done result, session => (result, session)
  | step change next, session => (next session).run (change session)

/-- One routine after another; an error ends both. -/
def andThen : Routine α → (α → Routine β) → Routine β
  | done (.ok answer), next => next answer
  | done (.error error), _ => done (.error error)
  | step change rest, next => step change fun session => (rest session).andThen next

/-- An operation that nothing can come between. -/
def single (setting : Setting) (action : Action α) : Routine α :=
  step (fun session => (action setting session).2) fun session => done (action setting session).1

instance : Monad Routine where
  pure answer := done (.ok answer)
  bind := andThen

theorem run_single (setting : Setting) (action : Action α) (session : Session) :
    (single setting action).run session = action setting session := rfl

theorem run_done (result : Except Error α) (session : Session) :
    (done result).run session = (result, session) := rfl

theorem run_bind (routine : Routine α) (next : α → Routine β) (session : Session) :
    (routine >>= next).run session =
      match routine.run session with
      | (.ok answer, session) => (next answer).run session
      | (.error error, session) => (.error error, session) := by
  change (routine.andThen next).run session = _
  induction routine generalizing session with
  | done result => cases result <;> rfl
  | step change rest ih => exact ih session (change session)

/-! ### Settled routines -/

/-- Whenever its steps are taken, each leads to a later session, and the result is the same. -/
def SettlesOn (Later : Session → Session → Prop) (result : Except Error α) :
    Routine α → Session → Prop
  | done actual, _ => actual = result
  | step change next, session => ∀ later, Later session later →
      Later later (change later) ∧ (next later).SettlesOn Later result (change later)

/-- The routine comes to one result, whatever others do. -/
def IsSettled (Later : Session → Session → Prop) (routine : Routine α) (session : Session) : Prop :=
  ∃ result, routine.SettlesOn Later result session

variable {Later : Session → Session → Prop} [IsPreorder Session Later] {setting : Setting}
  {session : Session} {routine : Routine α} {result : Except Error α}

theorem SettlesOn.mono {later : Session} (settles : routine.SettlesOn Later result session)
    (isLater : Later session later) : routine.SettlesOn Later result later := by
  cases routine with
  | done actual => exact settles
  | step change next =>
    exact fun further isFurther => settles further (IsTrans.trans _ _ _ isLater isFurther)

/-- What a settled routine comes to is what it comes to without a break. -/
theorem SettlesOn.run_fst (settles : routine.SettlesOn Later result session) :
    (routine.run session).1 = result := by
  induction routine generalizing session with
  | done actual => exact settles
  | step change next ih => exact ih session (settles session (Std.Refl.refl session)).2

theorem SettlesOn.andThen {next : α → Routine β} {answer : α} {last : Except Error β}
    (first : routine.SettlesOn Later (.ok answer) session)
    (second : (next answer).SettlesOn Later last session) :
    (routine.andThen next).SettlesOn Later last session := by
  induction routine generalizing session with
  | done actual =>
    cases first
    exact second
  | step change rest ih =>
    intro later isLater
    rcases first later isLater with ⟨leads, settles⟩
    exact ⟨leads, ih later settles (second.mono (IsTrans.trans _ _ _ isLater leads))⟩

omit [IsPreorder Session Later] in
theorem SettlesOn.andThen_error {next : α → Routine β} {error : Error}
    (first : routine.SettlesOn Later (.error error) session) :
    (routine.andThen next).SettlesOn Later (.error error) session := by
  induction routine generalizing session with
  | done actual =>
    cases first
    rfl
  | step change rest ih =>
    intro later isLater
    rcases first later isLater with ⟨leads, settles⟩
    exact ⟨leads, ih later settles⟩

omit [IsPreorder Session Later] in
/-- A routine that begins with one operation settles if it does so behind that operation, in
whichever later session this is run. -/
theorem settlesOn_single_bind {action : Action α} {next : α → Routine β} {last : Except Error β}
    (leads : ∀ later, Later session later → Later later (action setting later).2)
    (settles : ∀ later, Later session later → ∀ answer, (action setting later).1 = .ok answer →
      (next answer).SettlesOn Later last (action setting later).2)
    (fails : ∀ later, Later session later → ∀ error, (action setting later).1 = .error error →
      last = .error error) :
    (single setting action >>= next).SettlesOn Later last session := by
  intro later isLater
  refine ⟨leads later isLater, ?_⟩
  change ((done (action setting later).1).andThen next).SettlesOn Later last _
  cases outcome : (action setting later).1 with
  | error error => exact (fails later isLater error outcome).symm
  | ok answer => exact settles later isLater answer outcome

namespace IsSettled

omit [IsPreorder Session Later] in
theorem done (result : Except Error α) : (done result).IsSettled Later session := ⟨result, rfl⟩

theorem bind {next : α → Routine β} (first : routine.IsSettled Later session)
    (others : ∀ answer, (next answer).IsSettled Later session) :
    (routine >>= next).IsSettled Later session := by
  rcases first with ⟨result, settles⟩
  cases result with
  | error error => exact ⟨.error error, settles.andThen_error⟩
  | ok answer =>
    rcases others answer with ⟨last, settlesToo⟩
    exact ⟨last, settles.andThen settlesToo⟩

omit [IsPreorder Session Later] in
theorem single {action : Action α} (repeats : Action.Repeats Later setting action) :
    (single setting action).IsSettled Later session :=
  ⟨(action setting session).1, fun later isLater => ⟨repeats.leads later, repeats.again isLater⟩⟩

end IsSettled

end Routine

end JarAtlas
