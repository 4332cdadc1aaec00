import JarAtlas.Text.Basic
import Mathlib.Tactic.Common

/-!
# The order of texts

Texts are in a linear order, so the first text of a kind in a sorted list is decided by which texts
the list holds, in whatever order and how often.
-/

namespace JarAtlas.Text

theorem precedes_total (text other : Text) : precedes text other || precedes other text := by
  induction text generalizing other with
  | nil => rfl
  | cons character text ih =>
    cases other with
    | nil => rfl
    | cons next other =>
      unfold precedes
      by_cases same : character = next
      · simpa [same] using ih other
      · have apart : character.toNat ≠ next.toNat := fun equal => same (Char.toNat_inj.mp equal)
        simp only [same, Ne.symm same, if_false, Bool.or_eq_true, decide_eq_true_eq]
        omega

theorem precedes_trans {first second third : Text} (before : precedes first second)
    (behind : precedes second third) : precedes first third := by
  induction first generalizing second third with
  | nil => rfl
  | cons character first ih =>
    cases second with
    | nil => cases before
    | cons next second =>
      cases third with
      | nil => cases behind
      | cons last third =>
        unfold precedes at before behind ⊢
        split_ifs at before behind ⊢ with equal equal' equal'' <;> simp_all
        · exact ih before behind
        · omega
        · omega

theorem precedes_antisymm {text other : Text} (before : precedes text other)
    (behind : precedes other text) : text = other := by
  induction text generalizing other with
  | nil =>
    cases other with
    | nil => rfl
    | cons next other => cases behind
  | cons character text ih =>
    cases other with
    | nil => cases before
    | cons next other =>
      unfold precedes at before behind
      by_cases same : character = next
      · simp only [same, if_true] at before behind
        rw [same, ih before behind]
      · simp only [same, Ne.symm same, if_false, decide_eq_true_eq] at before behind
        omega

/-- Texts are ordered by the code points of their characters. -/
theorem precedes_iff {text other : Text} : precedes text other = true ↔
    text = other ∨ List.Lex (fun left right => left.toNat < right.toNat) text other := by
  induction text generalizing other with
  | nil =>
    cases other with
    | nil => simp [precedes]
    | cons next other => simp [precedes]
  | cons character text ih =>
    cases other with
    | nil => simp [precedes]
    | cons next other =>
      rw [precedes, List.cons_lex_cons_iff]
      by_cases same : character = next
      · simp [same, ih]
      · simp [same]

/-- The first text of a kind in a sorted list comes before all texts of that kind. -/
theorem precedes_of_find?_mergeSort {texts : List Text} {kind : Text → Bool} {first text : Text}
    (found : (texts.mergeSort precedes).find? kind = some first) (member : text ∈ texts)
    (isOfKind : kind text) : precedes first text := by
  have sorted : (texts.mergeSort precedes).Pairwise fun text other => precedes text other :=
    @List.pairwise_mergeSort _ precedes (fun _ _ _ => precedes_trans) precedes_total texts
  rcases List.find?_eq_some_iff_append.mp found with ⟨-, before, behind, split, noneBefore⟩
  have isThere : text ∈ before ++ first :: behind := by
    rw [← split]
    exact List.mem_mergeSort.mpr member
  rw [split, List.pairwise_append, List.pairwise_cons] at sorted
  rcases List.mem_append.mp isThere with early | late
  · have notOfKind := noneBefore text early
    simp [isOfKind] at notOfKind
  · rcases List.mem_cons.mp late with rfl | later
    · simpa using precedes_total text text
    · exact sorted.2.1.1 text later

/-- The first text of a kind in a sorted list is decided by the texts of that kind in the list. -/
theorem find?_mergeSort_congr {texts others : List Text} {kind : Text → Bool}
    (same : ∀ text, kind text → (text ∈ texts ↔ text ∈ others)) :
    (texts.mergeSort precedes).find? kind = (others.mergeSort precedes).find? kind := by
  have isFound {texts : List Text} {first : Text}
      (found : (texts.mergeSort precedes).find? kind = some first) :
      first ∈ texts ∧ kind first = true :=
    ⟨List.mem_mergeSort.mp (List.mem_of_find?_eq_some found), List.find?_some found⟩
  cases found : (texts.mergeSort precedes).find? kind with
  | none =>
    symm
    rw [List.find?_eq_none] at found ⊢
    intro text member isOfKind
    apply found text _ isOfKind
    rw [List.mem_mergeSort] at member ⊢
    exact (same text isOfKind).mpr member
  | some first =>
    rcases isFound found with ⟨member, isOfKind⟩
    have otherMember := (same first isOfKind).mp member
    cases otherFound : (others.mergeSort precedes).find? kind with
    | none =>
      rw [List.find?_eq_none] at otherFound
      exact absurd isOfKind (otherFound first (List.mem_mergeSort.mpr otherMember))
    | some other =>
      rcases isFound otherFound with ⟨isThere, otherIsOfKind⟩
      have before := precedes_of_find?_mergeSort found ((same other otherIsOfKind).mpr isThere)
        otherIsOfKind
      have behind := precedes_of_find?_mergeSort otherFound otherMember isOfKind
      rw [precedes_antisymm before behind]

end JarAtlas.Text
