import JarAtlas.Proofs.Session.Operations

/-!
# The errors that operations fail with

Rules for the errors that can come out of an operation, one for each way of building it. Some of them
depend on what the operation starts from, so they are stated for sessions in which a view shows a
certain value; it still does behind every operation that keeps the view.
-/

namespace JarAtlas.Action

variable {α β γ δ : Type}

/-- Run where `view` shows `value`, the operation fails with such errors only. -/
structure FailsWith (setting : Setting) (view : Session → γ) (value : γ) (kind : Error → Prop)
    (action : Action α) : Prop where
  isKind : ∀ session, view session = value → ∀ error,
    (action setting session).1 = .error error → kind error

/-- Run anywhere, the operation fails with such errors only. -/
abbrev Fails (setting : Setting) (kind : Error → Prop) (action : Action α) : Prop :=
  FailsWith setting (fun _ => ()) () kind action

namespace FailsWith

variable {setting : Setting} {view : Session → γ} {value : γ} {kind inner : Error → Prop}
  {action : Action α}

/-- It is enough to start from where one view shows what is needed. -/
theorem of_shows {other : Session → δ} {shown : δ}
    (fails : FailsWith setting other shown kind action)
    (shows : ∀ session, view session = value → other session = shown) :
    FailsWith setting view value kind action :=
  ⟨fun session here => fails.isKind session (shows session here)⟩

theorem of_fails (fails : Fails setting kind action) : FailsWith setting view value kind action :=
  fails.of_shows fun _ _ => rfl

theorem mono (fails : FailsWith setting view value inner action)
    (weaker : ∀ error, inner error → kind error) : FailsWith setting view value kind action :=
  ⟨fun session shows error failed => weaker error (fails.isKind session shows error failed)⟩

/-- An operation that always answers does not fail. -/
theorem of_answers (answers : ∀ session, ∃ answer, (action setting session).1 = .ok answer) :
    FailsWith setting view value kind action := by
  constructor
  intro session _ error failed
  rcases answers session with ⟨answer, answered⟩
  rw [answered] at failed
  contradiction

theorem pure (answer : α) : FailsWith setting view value kind (pure answer : Action α) :=
  of_answers fun _ => ⟨answer, rfl⟩

theorem fail {error : Error} (isKind : kind error) :
    FailsWith setting view value kind (fail error : Action α) := by
  constructor
  intro session _ other failed
  cases failed
  exact isKind

theorem ofExcept {result : Except Error α} (isKind : ∀ error, result = .error error → kind error) :
    FailsWith setting view value kind (ofExcept result) := by
  constructor
  intro session _ error failed
  rw [run_ofExcept] at failed
  exact isKind error failed

/-- What comes behind an answer starts from what the first operation leads to. -/
theorem bind_to {later : Session → δ} {reached : δ} {next : α → Action β}
    (first : FailsWith setting view value kind action)
    (reaches : ∀ session, view session = value → later (action setting session).2 = reached)
    (others : ∀ session answer, view session = value →
      (action setting session).1 = .ok answer → FailsWith setting later reached kind (next answer)) :
    FailsWith setting view value kind (action >>= next) := by
  constructor
  intro session shows error failed
  have shown := reaches session shows
  rw [run_bind] at failed
  rcases outcome : action setting session with ⟨result, after⟩
  rw [outcome] at failed shown
  cases result with
  | ok answer =>
    have answered : (action setting session).1 = .ok answer := by rw [outcome]
    exact (others session answer shows answered).isKind after shown error failed
  | error _ =>
    cases failed
    exact first.isKind session shows error (by rw [outcome])

/-- What comes behind an answer starts where the view still shows the same. -/
theorem bind_of_answer {next : α → Action β} (first : FailsWith setting view value kind action)
    (kept : Keeps view action)
    (others : ∀ session answer, view session = value → (action setting session).1 = .ok answer →
      FailsWith setting view value kind (next answer)) :
    FailsWith setting view value kind (action >>= next) :=
  first.bind_to (fun session shows => (kept setting session).trans shows) others

theorem bind {next : α → Action β} (first : FailsWith setting view value kind action)
    (kept : Keeps view action)
    (others : ∀ answer, FailsWith setting view value kind (next answer)) :
    FailsWith setting view value kind (action >>= next) :=
  first.bind_of_answer kept fun _ answer _ _ => others answer

/-- What comes behind an answer may be run anywhere. -/
theorem andThen_of_answer {next : α → Action β} (first : FailsWith setting view value kind action)
    (others : ∀ session answer, view session = value → (action setting session).1 = .ok answer →
      Fails setting kind (next answer)) :
    FailsWith setting view value kind (action >>= next) :=
  first.bind_to (fun _ _ => rfl) others

theorem andThen {next : α → Action β} (first : FailsWith setting view value kind action)
    (others : ∀ answer, Fails setting kind (next answer)) :
    FailsWith setting view value kind (action >>= next) :=
  first.andThen_of_answer fun _ answer _ _ => others answer

theorem host_bind {next : Host → Action β}
    (others : FailsWith setting view value kind (next setting.host)) :
    FailsWith setting view value kind (host >>= next) := ⟨others.isKind⟩

theorem config_bind {next : Config → Action β}
    (others : FailsWith setting view value kind (next setting.config)) :
    FailsWith setting view value kind (config >>= next) := ⟨others.isKind⟩

/-- An error that has been caught may come out again. -/
theorem attempt_bind {next : Except Error α → Action β}
    (first : FailsWith setting view value inner action) (kept : Keeps view action)
    (answered : ∀ answer, FailsWith setting view value kind (next (.ok answer)))
    (caught : ∀ error, inner error → FailsWith setting view value kind (next (.error error))) :
    FailsWith setting view value kind (action.attempt >>= next) := by
  constructor
  intro session shows error failed
  have stillShows := kept setting session
  rw [run_bind, run_attempt] at failed
  rcases outcome : action setting session with ⟨result, after⟩
  rw [outcome] at failed stillShows
  cases result with
  | ok answer => exact (answered answer).isKind after (stillShows.trans shows) error failed
  | error other =>
    have isInner := first.isKind session shows other (by rw [outcome])
    exact (caught other isInner).isKind after (stillShows.trans shows) error failed

theorem attempt (action : Action α) : FailsWith setting view value kind action.attempt :=
  of_answers fun session => ⟨(action setting session).1, rfl⟩

theorem restoring {restore : Session → Session} (fails : FailsWith setting view value kind action) :
    FailsWith setting view value kind (action.andThen restore) := ⟨fails.isKind⟩

theorem foldlM {next : β → α → Action β}
    (fails : ∀ known item, FailsWith setting view value kind (next known item))
    (kept : ∀ known item, Keeps view (next known item)) (items : List α) (known : β) :
    FailsWith setting view value kind (items.foldlM next known) := by
  induction items generalizing known with
  | nil => exact .pure known
  | cons item items ih =>
    rw [List.foldlM_cons]
    exact (fails known item).bind (kept known item) ih

theorem filterM {test : α → Action Bool} (fails : ∀ item, Fails setting kind (test item))
    (items : List α) : Fails setting kind (items.filterM test) := by
  have gathers (found : List α) : Fails setting kind (items.filterAuxM test found) := by
    induction items generalizing found with
    | nil => exact .pure found
    | cons item items ih =>
      unfold List.filterAuxM
      exact (fails item).andThen fun _ => ih _
  exact (gathers []).andThen fun _ => .pure _

end FailsWith

end JarAtlas.Action
