import JarAtlas.Proofs.Session.Operations
import Mathlib.Order.Defs.Unbundled

/-!
# Operations that can be repeated

An operation repeats itself over a relation between earlier and later sessions if it leads from each
session to a later one and answers in every later session what it answered in the earlier one. What
is built of such operations repeats itself, too, so it does not matter how often and in which order
they are run. An operation that looks at nothing but the files, and changes nothing but the log of
launches, repeats itself as long as the files stay the same.
-/

namespace JarAtlas.Action

variable {α β : Type}

/-- The operation leads to later sessions, and its answer is the same in all of them. -/
structure Repeats (Later : Session → Session → Prop) (setting : Setting) (action : Action α) :
    Prop where
  leads : ∀ session, Later session (action setting session).2
  again : ∀ {session later}, Later session later →
    (action setting later).1 = (action setting session).1

namespace Repeats

variable {Later : Session → Session → Prop} {setting : Setting} {action : Action α}

theorem attempt (repeats : Repeats Later setting action) : Repeats Later setting action.attempt where
  leads := repeats.leads
  again isLater := congrArg Except.ok (repeats.again isLater)

variable [IsPreorder Session Later]

theorem pure (answer : α) : Repeats Later setting (pure answer : Action α) where
  leads := Std.Refl.refl
  again _ := rfl

theorem fail (error : Error) : Repeats Later setting (fail error : Action α) where
  leads := Std.Refl.refl
  again _ := rfl

theorem ofExcept (result : Except Error α) : Repeats Later setting (ofExcept result) where
  leads session := by
    rw [run_ofExcept]
    exact Std.Refl.refl session
  again _ := by rw [run_ofExcept, run_ofExcept]

theorem config : Repeats Later setting config where
  leads := Std.Refl.refl
  again _ := rfl

theorem bind {next : α → Action β} (first : Repeats Later setting action)
    (others : ∀ answer, Repeats Later setting (next answer)) :
    Repeats Later setting (action >>= next) where
  leads session := by
    have isLater := first.leads session
    rw [run_bind]
    rcases outcome : action setting session with ⟨result, after⟩
    rw [outcome] at isLater
    cases result with
    | error error => exact isLater
    | ok answer => exact IsTrans.trans _ _ _ isLater ((others answer).leads after)
  again {session later} isLater := by
    have same := first.again isLater
    have behind := first.leads session
    have laterBehind := IsTrans.trans _ _ _ isLater (first.leads later)
    rw [run_bind, run_bind]
    rcases outcome : action setting session with ⟨result, after⟩
    rcases laterOutcome : action setting later with ⟨laterResult, laterAfter⟩
    rw [outcome, laterOutcome] at same
    rw [outcome] at behind
    rw [laterOutcome] at laterBehind
    cases same
    cases result with
    | error error => rfl
    | ok answer =>
      -- Both go on from sessions later than the first one, where the next part answers alike.
      exact ((others answer).again laterBehind).trans ((others answer).again behind).symm

/-- The answer in a later session, and that the session behind is later still. -/
theorem run_later (repeats : Repeats Later setting action) {session later : Session}
    (isLater : Later session later) : ∃ after,
      action setting later = ((action setting session).1, after) ∧ Later session after :=
  ⟨(action setting later).2, Prod.ext (repeats.again isLater) rfl,
    IsTrans.trans _ _ _ isLater (repeats.leads later)⟩

/-- Filtering by an operation keeps the items for which it answers that they are kept, in order. -/
theorem filterM {kept : β → Action Bool} {holds : β → Bool} {session : Session}
    (repeats : ∀ item, Repeats Later setting (kept item))
    (answers : ∀ item, (kept item setting session).1 = .ok (holds item)) (items : List β)
    {later : Session} (isLater : Later session later) :
    ∃ after, items.filterM kept setting later = (.ok (items.filter holds), after) ∧
      Later session after := by
  have gathered : ∀ (found : List β) {later : Session}, Later session later →
      ∃ after, items.filterAuxM kept found setting later =
          (.ok ((items.filter holds).reverse ++ found), after) ∧ Later session after := by
    induction items with
    | nil => exact fun found later isLater => ⟨later, rfl, isLater⟩
    | cons item items ih =>
      intro found later isLater
      rcases (repeats item).run_later isLater with ⟨between, answered, isLaterStill⟩
      rw [answers] at answered
      rcases ih (bif holds item then item :: found else found) isLaterStill
        with ⟨after, ran, isLast⟩
      refine ⟨after, ?_, isLast⟩
      rw [List.filterAuxM, run_bind, answered]
      dsimp only
      rw [ran]
      cases decided : holds item <;> simp [decided]
  rcases gathered [] isLater with ⟨after, ran, isLast⟩
  refine ⟨after, ?_, isLast⟩
  rw [List.filterM, run_bind, ran]
  simp [run_pure]

end Repeats

/-- The operation looks at nothing but the files and changes nothing but the log of launches. -/
structure ReadsFiles (setting : Setting) (action : Action α) : Prop where
  logs : ∀ session, ∃ launches, (action setting session).2 = { session with launches }
  again : ∀ {session later : Session}, later.files = session.files →
    (action setting later).1 = (action setting session).1

namespace ReadsFiles

variable {setting : Setting} {action : Action α}

theorem of_keeps (kept : Keeps id action)
    (again : ∀ {session later : Session}, later.files = session.files →
      (action setting later).1 = (action setting session).1) : ReadsFiles setting action where
  logs session := ⟨session.launches, kept setting session⟩
  again := again

theorem pure (answer : α) : ReadsFiles setting (pure answer : Action α) :=
  of_keeps (.pure answer) fun _ => rfl

theorem ofExcept (result : Except Error α) : ReadsFiles setting (ofExcept result) :=
  of_keeps (.ofExcept result) fun _ => by rw [run_ofExcept, run_ofExcept]

theorem host : ReadsFiles setting host := of_keeps .host fun _ => rfl

theorem config : ReadsFiles setting config := of_keeps .config fun _ => rfl

theorem attempt (reads : ReadsFiles setting action) : ReadsFiles setting action.attempt where
  logs := reads.logs
  again same := congrArg Except.ok (reads.again same)

theorem bind {next : α → Action β} (first : ReadsFiles setting action)
    (others : ∀ answer, ReadsFiles setting (next answer)) :
    ReadsFiles setting (action >>= next) where
  logs session := by
    rcases first.logs session with ⟨launches, logged⟩
    rw [run_bind]
    rcases outcome : action setting session with ⟨result, after⟩
    rw [outcome] at logged
    subst logged
    cases result with
    | error error => exact ⟨launches, rfl⟩
    | ok answer => exact (others answer).logs _
  again {session later} same := by
    have sameAnswer := first.again same
    rcases first.logs session with ⟨launches, logged⟩
    rcases first.logs later with ⟨laterLaunches, laterLogged⟩
    rw [run_bind, run_bind]
    rcases outcome : action setting session with ⟨result, after⟩
    rcases laterOutcome : action setting later with ⟨laterResult, laterAfter⟩
    rw [outcome, laterOutcome] at sameAnswer
    rw [outcome] at logged
    rw [laterOutcome] at laterLogged
    cases sameAnswer
    cases result with
    | error error => rfl
    | ok answer =>
      dsimp only at logged laterLogged
      subst logged laterLogged
      exact (others answer).again same

/-- As long as the files stay the same and launches do not matter, reading repeats itself. -/
theorem repeats {Later : Session → Session → Prop} (reads : ReadsFiles setting action)
    (unlogged : ∀ session launches, Later session { session with launches })
    (sameFiles : ∀ {session later}, Later session later → later.files = session.files) :
    Repeats Later setting action where
  leads session := by
    rcases reads.logs session with ⟨launches, logged⟩
    rw [logged]
    exact unlogged session launches
  again isLater := reads.again (sameFiles isLater)

end ReadsFiles

end JarAtlas.Action
