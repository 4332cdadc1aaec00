import JarAtlas.Proofs.Member.Splitting

/-!
# Joined parameters

Parameters come back from the list that they are joined to if their commas stand inside angle
brackets that are closed again, and a parameter whose blanks stand inside them is all type.
-/

namespace JarAtlas.Member

/-- Inside `depth` brackets, the brackets are closed at the end of the text and no separator stands
outside them. -/
def closesAround (isSeparator : Char → Bool) : (depth : Nat) → Text → Bool
  | depth, [] => depth == 0
  | depth, character :: rest =>
    !(depth == 0 && isSeparator character) &&
      closesAround isSeparator (depthAfter depth character) rest

/-- A text is closed around commas if it is not cut and leaves no bracket open. -/
theorem closesAround_comma_iff {depth : Nat} {text : Text} :
    closesAround (· == ',') depth text = true ↔
      fragments depth text = [text] ∧ text.foldl depthAfter depth = 0 := by
  induction text generalizing depth with
  | nil => simp [closesAround, fragments]
  | cons character rest ih =>
    rw [closesAround, fragments, List.foldl_cons, Bool.and_eq_true, ih]
    by_cases cut : character = ',' ∧ depth = 0
    · simp [cut]
    · have inside : (depth == 0 && character == ',') = false := by
        rw [Bool.and_eq_false_imp]
        intro outside
        exact beq_eq_false_iff_ne.mpr fun comma => cut ⟨comma, by simpa using outside⟩
      rw [if_neg cut]
      cases pieces : fragments (depthAfter depth character) rest with
      | nil => exact absurd pieces (fragments_ne_nil _ _)
      | cons fragment others => simp [inside]

/-- Parameters come back from the list that they are joined to. -/
theorem splitParameters_join {parameters : List Text}
    (nonempty : ∀ parameter ∈ parameters, parameter ≠ [])
    (trimmed : ∀ parameter ∈ parameters, Text.trim parameter = parameter)
    (closed : ∀ parameter ∈ parameters, closesAround (· == ',') 0 parameter = true) :
    splitParameters (Text.join ", " parameters) = parameters := by
  apply splitParameters_join_of_pairwise
  · intro parameter member
    exact splitParameters_of_fragments (closesAround_comma_iff.mp (closed parameter member)).1
      (nonempty parameter member) (trimmed parameter member)
  · exact List.pairwise_of_forall_mem_list fun parameter member _ _ =>
      (closesAround_comma_iff.mp (closed parameter member)).2

/-- Balanced brackets around all commas close around them. -/
theorem IsNested.closesAround {text : Text} (nested : IsNested text) :
    closesAround (· == ',') 0 text = true :=
  closesAround_comma_iff.mpr ⟨nested.fragments_eq_singleton, nested.openBrackets_eq_zero⟩

theorem cutLastBlank_eq_none {depth : Nat} {text : Text}
    (closed : closesAround Text.isBlank depth text = true) : cutLastBlank depth text = none := by
  induction text generalizing depth with
  | nil => rfl
  | cons character text ih =>
    simp only [closesAround, Bool.and_eq_true, Bool.not_eq_true', Bool.and_eq_false_imp,
      beq_iff_eq] at closed
    rcases closed with ⟨inside, closed⟩
    have notCut : ¬(Text.isBlank character = true ∧ depth = 0) := by
      rintro ⟨blank, outside⟩
      rw [inside outside] at blank
      contradiction
    rw [cutLastBlank, ih closed]
    exact if_neg notCut

/-- A parameter without a blank outside brackets is all type. -/
theorem splitDeclaredName_of_closes {parameter : Text}
    (closed : closesAround Text.isBlank 0 parameter = true) :
    splitDeclaredName parameter = (parameter, none) := by
  rw [splitDeclaredName, cutLastBlank_eq_none closed]

theorem getLast?_of_closes {depth : Nat} {text : Text}
    (closed : closesAround Text.isBlank depth text = true) :
    ∀ character ∈ text.getLast?, Text.isBlank character = false := by
  induction text generalizing depth with
  | nil => simp
  | cons first text ih =>
    simp only [closesAround, Bool.and_eq_true, Bool.not_eq_true', Bool.and_eq_false_imp,
      beq_iff_eq] at closed
    rcases closed with ⟨inside, closed⟩
    cases text with
    | cons second text =>
      rw [List.getLast?_cons_cons]
      exact ih closed
    | nil =>
      intro character last
      rw [List.getLast?_singleton, Option.mem_def, Option.some.injEq] at last
      subst last
      by_contra blank
      rw [Bool.not_eq_false] at blank
      -- a blank is no bracket, so it would stand outside brackets
      simp only [closesAround, depthAfter_of_isBlank blank, beq_iff_eq] at closed
      rw [inside closed] at blank
      contradiction

theorem trim_of_closes {text : Text} (closed : closesAround Text.isBlank 0 text = true) :
    Text.trim text = text := by
  refine Text.trim_eq_self ?_ (getLast?_of_closes closed)
  cases text with
  | nil => simp
  | cons first text =>
    simp only [closesAround, Bool.and_eq_true, Bool.not_eq_true', Bool.and_eq_false_imp,
      beq_iff_eq] at closed
    intro character head
    cases head
    exact closed.1 trivial

end JarAtlas.Member
