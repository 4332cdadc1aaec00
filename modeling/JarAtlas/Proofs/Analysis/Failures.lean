import JarAtlas.Proofs.ClassIndex.Failures
import JarAtlas.Proofs.Listing.Prefixes
import JarAtlas.Proofs.Server.Effects

/-!
# How analyses fail

An analysis fails with an error of the lookup, with an error that is part of the service, or because a
number of the listing has too many digits. So does a search for ancestors, and a search for
subclasses takes no notice of what its analyses fail with.
-/

namespace JarAtlas.Analysis

open Action Files ClassIndex

/-- The kind has the errors that keep a class from being analysed. -/
structure CoversAnalyses (setting : Setting) (files : FileTree) (project : Text)
    (kind : Error → Prop) : Prop extends CoversLookups setting files project kind where
  oversized : ∀ digits, Text.digitLimit < digits → kind (.listing (.oversized digits))

section

variable {setting : Setting} {kind : Error → Prop} {files : FileTree} {project : Text}

theorem fails_listingCommand (covers : CoversCommon kind) (jar : Text) :
    Fails setting kind (listingCommand jar) := by
  refine FailsWith.andThen ?_ fun javap => .config_bind (.pure _)
  refine FailsWith.andThen (.of_answers fun _ => ⟨_, rfl⟩) fun memory => ?_
  split
  · exact .pure _
  · apply (Tool.fails_javapCommand covers).andThen
    exact fun command => .of_answers fun _ => ⟨_, rfl⟩

theorem fails_disassemble (covers : CoversCommon kind) (className jar : Text) :
    Fails setting kind (disassemble className jar) := by
  apply (fails_listingCommand covers jar).andThen
  intro command
  apply FailsWith.config_bind
  apply (Tool.fails_run covers _ _ _).andThen
  intro output
  split_ifs
  · exact .fail (covers.reported _ rfl)
  · exact .pure _

variable (covers : CoversAnalyses setting files project kind)

include covers

theorem fails_analyze {className : Json}
    (wrong : (∀ name, className ≠ .text name) → ∀ fault, kind (.wrongType fault))
    (unbroken : ∀ codes, className ≠ .string (.broken codes)) :
    FailsWith setting Session.files files kind (analyze className project) := by
  have unhashable (error : Error) (noKey : keyOf className = .error error) : kind error := by
    unfold keyOf at noKey
    split at noKey
    · contradiction
    · rename_i isNone
      cases noKey
      apply wrong
      rintro name rfl
      cases isNone
  apply (fails_jarOf covers.toCoversLookups unhashable).andThen
  intro jar
  split
  · apply (fails_disassemble covers.toCoversCommon _ _).andThen
    intro listing
    apply FailsWith.ofExcept
    intro error failed
    cases parsed : Listing.parse (some listing) (some _) with
    | ok summary =>
      rw [parsed] at failed
      contradiction
    | error fault =>
      rw [parsed] at failed
      cases failed
      cases fault with
      | empty className => exact covers.reported _ rfl
      | nameless => exact covers.reported _ rfl
      | oversized digits => exact covers.oversized digits (Listing.digitLimit_lt_of_parse parsed)
  · exact absurd rfl (unbroken _)
  · rename_i noText _
    apply (fails_listingCommand covers.toCoversCommon _).andThen
    exact fun command => .fail (wrong (fun name isText => noText name isText) _)

theorem fails_analyze_text (name : Text) :
    FailsWith setting Session.files files kind (analyze (.text name) project) :=
  fails_analyze covers (fun noText => absurd rfl (noText name)) fun _ => by simp

theorem fails_ancestors (fuel : Nat) (chain : List Text) (current : ClassSummary) :
    FailsWith setting Session.files files kind (ancestors project fuel chain current) := by
  induction fuel generalizing chain current with
  | zero => exact .pure _
  | succ fuel ih =>
    unfold ancestors
    split
    · exact .pure _
    · split_ifs
      · exact .pure _
      · apply (fails_analyze_text covers _).attempt_bind
          (keeps_analyze (fun _ _ _ => rfl) (fun _ _ => rfl) _ _)
        · intro next
          exact ih _ _
        · intro error isKind
          dsimp only
          split_ifs
          · exact .pure _
          · exact .fail isKind

theorem fails_hierarchy (className : Text) :
    FailsWith setting Session.files files kind (hierarchy className project) := by
  apply (fails_analyze_text covers className).bind
    (keeps_analyze (fun _ _ _ => rfl) (fun _ _ => rfl) _ _)
  intro summary
  apply (fails_classNames covers.toCoversLookups).bind (keeps_classNames (fun _ _ => rfl) project)
  exact fun names => fails_ancestors covers _ _ _

omit covers in
theorem fails_subclasses (covers : CoversLookups setting files project kind)
    (workers : 0 < setting.config.maxWorkers) (className : Text) :
    FailsWith setting Session.files files kind (subclasses className project) := by
  apply (fails_classNames covers).andThen
  intro names
  apply FailsWith.config_bind
  split_ifs with none
  · omega
  · apply (FailsWith.filterM ?_ _).andThen
    · exact fun found => .pure _
    · intro candidate
      apply (FailsWith.attempt _).andThen
      intro result
      split <;> exact .pure _

end

/-! ### Searches leave the files alone -/

theorem keeps_ancestors (project : Text) (fuel : Nat) (chain : List Text) (current : ClassSummary) :
    Keeps Session.files (ancestors project fuel chain current) := by
  induction fuel generalizing chain current with
  | zero => exact .pure _
  | succ fuel ih =>
    unfold ancestors
    split
    · exact .pure _
    · split_ifs
      · exact .pure _
      · apply (keeps_analyze (fun _ _ _ => rfl) (fun _ _ => rfl) _ _).attempt.bind
        intro result
        cases result with
        | ok next => exact ih _ _
        | error error =>
          dsimp only
          split_ifs
          · exact .pure _
          · exact .fail _

theorem keeps_hierarchy (className project : Text) :
    Keeps Session.files (hierarchy className project) := by
  apply (keeps_analyze (fun _ _ _ => rfl) (fun _ _ => rfl) _ _).bind
  intro summary
  apply (keeps_classNames (fun _ _ => rfl) project).bind
  exact fun names => keeps_ancestors project _ _ _

theorem keeps_directlyExtends (className project : Text) (candidate : Json) :
    Keeps Session.files (directlyExtends className project candidate) := by
  apply (keeps_analyze (fun _ _ _ => rfl) (fun _ _ => rfl) candidate project).attempt.bind
  intro result
  cases result with
  | ok summary => exact .pure _
  | error error => exact .pure _

theorem keeps_subclasses (className project : Text) :
    Keeps Session.files (subclasses className project) := by
  apply (keeps_classNames (fun _ _ => rfl) project).bind
  intro names
  apply Keeps.config.bind
  intro config
  split_ifs
  · exact .fail _
  · exact (Keeps.filterM (keeps_directlyExtends className project) _).bind fun _ => .pure _

end JarAtlas.Analysis
