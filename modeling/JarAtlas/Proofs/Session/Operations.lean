import JarAtlas.Session
import Mathlib.Tactic.Common

/-!
# Operations step by step

What running an operation comes to, for each way of building one, and a rule for what operations
leave alone: an operation keeps a view of the session if every part of it does. The rule is applied
to one operation after the other, as they are built.
-/

namespace JarAtlas.Action

variable {α β γ : Type}

/-! ### Runs -/

theorem run_bind (action : Action α) (next : α → Action β) (setting : Setting)
    (session : Session) :
    (action >>= next) setting session =
      match action setting session with
      | (.ok answer, session) => next answer setting session
      | (.error error, session) => (.error error, session) := by
  change ExceptT.bindCont (fun answer => next answer setting) (action setting session).1
    (action setting session).2 = _
  rcases action setting session with ⟨result, after⟩
  cases result <;> rfl

/-- An operation behind one that answers goes on from there. -/
theorem run_bind_of_ok {action : Action α} {next : α → Action β} {setting : Setting}
    {session after : Session} {answer : α} (ran : action setting session = (.ok answer, after)) :
    (action >>= next) setting session = next answer setting after := by
  rw [run_bind, ran]

/-- Two operations in a row answer only if the first answers and the second answers from there. -/
theorem exists_of_run_bind {action : Action α} {next : α → Action β} {setting : Setting}
    {session after : Session} {answer : β}
    (ran : (action >>= next) setting session = (.ok answer, after)) :
    ∃ first between, action setting session = (.ok first, between) ∧
      next first setting between = (.ok answer, after) := by
  rw [run_bind] at ran
  rcases outcome : action setting session with ⟨result, between⟩
  rw [outcome] at ran
  cases result with
  | ok first => exact ⟨first, between, rfl, ran⟩
  | error error => cases ran

/-- Two operations in a row fail where the first fails, or where the second fails from there. -/
theorem error_of_run_bind {action : Action α} {next : α → Action β} {setting : Setting}
    {session after : Session} {error : Error}
    (failed : (action >>= next) setting session = (.error error, after)) :
    action setting session = (.error error, after) ∨
      ∃ first between, action setting session = (.ok first, between) ∧
        next first setting between = (.error error, after) := by
  rw [run_bind] at failed
  rcases outcome : action setting session with ⟨result, between⟩
  rw [outcome] at failed
  cases result with
  | ok first => exact .inr ⟨first, between, rfl, failed⟩
  | error error =>
    cases failed
    exact .inl rfl

theorem run_pure (answer : α) (setting : Setting) (session : Session) :
    (pure answer : Action α) setting session = (.ok answer, session) := rfl

theorem run_ofExcept (result : Except Error α) (setting : Setting) (session : Session) :
    ofExcept result setting session = (result, session) := by
  cases result <;> rfl

theorem run_attempt (action : Action α) (setting : Setting) (session : Session) :
    action.attempt setting session =
      (.ok (action setting session).1, (action setting session).2) := rfl

theorem run_host (setting : Setting) (session : Session) :
    host setting session = (.ok setting.host, session) := rfl

theorem run_config (setting : Setting) (session : Session) :
    config setting session = (.ok setting.config, session) := rfl

theorem run_memory (setting : Setting) (session : Session) :
    memory setting session = (.ok session.memory, session) := rfl

theorem run_get (setting : Setting) (session : Session) :
    (get : Action Session) setting session = (.ok session, session) := rfl

/-! ### What operations keep -/

/-- The operation keeps what `view` shows of the session, whether it answers or fails. -/
def Keeps (view : Session → γ) (action : Action α) : Prop :=
  ∀ setting session, view (action setting session).2 = view session

namespace Keeps

variable {view : Session → γ} {action : Action α}

theorem pure (answer : α) : Keeps view (pure answer : Action α) := fun _ _ => rfl

theorem fail (error : Error) : Keeps view (fail error : Action α) := fun _ _ => rfl

theorem ofExcept (result : Except Error α) : Keeps view (ofExcept result) := by
  intro setting session
  rw [run_ofExcept]

theorem get : Keeps view (get : Action Session) := fun _ _ => rfl

theorem host : Keeps view host := fun _ _ => rfl

theorem config : Keeps view config := fun _ _ => rfl

theorem modify {change : Session → Session} (kept : ∀ session, view (change session) = view session) :
    Keeps view (modify change : Action Unit) := fun _ session => kept session

theorem bind {next : α → Action β} (first : Keeps view action)
    (others : ∀ answer, Keeps view (next answer)) : Keeps view (action >>= next) := by
  intro setting session
  have kept := first setting session
  rw [run_bind]
  generalize action setting session = outcome at kept ⊢
  rcases outcome with ⟨result, after⟩
  cases result with
  | ok answer => exact (others answer setting after).trans kept
  | error error => exact kept

theorem attempt (kept : Keeps view action) : Keeps view action.attempt := kept

/-- What no step changes, none of a list of steps does. -/
theorem foldlM {next : β → α → Action β} (kept : ∀ known item, Keeps view (next known item))
    (items : List α) (known : β) : Keeps view (items.foldlM next known) := by
  induction items generalizing known with
  | nil => exact .pure known
  | cons item items ih =>
    rw [List.foldlM_cons]
    exact (kept known item).bind ih

theorem filterM {test : α → Action Bool} (kept : ∀ item, Keeps view (test item)) (items : List α) :
    Keeps view (items.filterM test) := by
  have gathers (found : List α) : Keeps view (items.filterAuxM test found) := by
    induction items generalizing found with
    | nil => exact .pure found
    | cons item items ih =>
      unfold List.filterAuxM
      exact (kept item).bind fun _ => ih _
  exact (gathers []).bind fun _ => .pure _

end Keeps

end JarAtlas.Action
