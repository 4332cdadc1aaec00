import JarAtlas.Proofs.Member.Splitting

/-!
# How a declared parameter is split

The last blank outside angle brackets parts the type of a parameter from its name. An identifier holds
neither blanks nor brackets, so this is the blank in front of the name, whatever blanks the type
holds, as long as the type leaves no bracket open. A parameter that is not written in this way is all
type.
-/

namespace JarAtlas.Member

open Text

variable {depth : Nat} {text before behind parameter type name : Text}

/-- The angle brackets of a text are balanced. -/
structure IsBalanced (text : Text) : Prop where
  opened : ∀ front ∈ text.inits, front.count '>' ≤ front.count '<'
  closed : text.count '<' = text.count '>'

theorem IsBalanced.openBrackets_eq_zero (balanced : IsBalanced text) : openBrackets text = 0 := by
  rw [openBrackets_of_opened balanced.opened, balanced.closed, Nat.sub_self]

/-- A parameter is written as a type and a name, with white space between them and perhaps in front.
-/
structure IsDeclared (parameter type name : Text) : Prop where
  nonempty : type ≠ []
  trimmed : trim type = type
  closed : openBrackets type = 0
  isName : Declaration.isIdentifier name = true
  written : ∃ front gap : Text, (∀ character ∈ front, isBlank character = true) ∧
    (∀ character ∈ gap, isBlank character = true) ∧ gap ≠ [] ∧
    parameter = front ++ (type ++ (gap ++ name))

/-- A balanced type and an identifier make up a parameter. -/
theorem isDeclared_of_balanced (nonempty : type ≠ []) (trimmed : trim type = type)
    (balanced : IsBalanced type) (isName : Declaration.isIdentifier name = true) :
    IsDeclared (type ++ ' ' :: name) type name where
  nonempty := nonempty
  trimmed := trimmed
  closed := balanced.openBrackets_eq_zero
  isName := isName
  written := ⟨[], [' '], by simp, by simp [isBlank], by simp, by simp⟩

/-! ### The last blank outside brackets -/

/-- Behind `depth` open brackets, every blank of the text stands inside brackets. -/
def BlanksInside (depth : Nat) (text : Text) : Prop :=
  ∀ front blank behind, text = front ++ blank :: behind → isBlank blank = true →
    front.foldl depthAfter depth ≠ 0

theorem blanksInside_cons {character : Char} :
    BlanksInside depth (character :: text) ↔
      (isBlank character = true → depth ≠ 0) ∧ BlanksInside (depthAfter depth character) text := by
  constructor
  · intro inside
    refine ⟨inside [] character text rfl, ?_⟩
    intro front blank behind split
    apply inside (character :: front) blank behind
    rw [split, List.cons_append]
  · rintro ⟨first, others⟩ front blank behind split isBlank
    cases front with
    | nil =>
      cases split
      exact first isBlank
    | cons head front =>
      cases split
      exact others front blank behind rfl isBlank

theorem blanksInside_of_isIdentifier (isName : Declaration.isIdentifier name = true) :
    BlanksInside depth name := by
  rintro front blank behind rfl isBlank
  have part := Declaration.isIdentifierPart_of_mem isName
    (List.mem_append_right front List.mem_cons_self)
  rw [Declaration.isIdentifierPart_eq_false_of_isBlank isBlank] at part
  contradiction

theorem foldl_depthAfter_of_isIdentifier (isName : Declaration.isIdentifier name = true) :
    name.foldl depthAfter depth = depth := by
  have noBracket : '<' ∉ name ∧ '>' ∉ name := by
    constructor
    all_goals
      apply Declaration.not_mem_of_isIdentifier isName
      decide +kernel
  clear isName
  induction name with
  | nil => rfl
  | cons character name ih =>
    simp only [List.mem_cons, not_or] at noBracket
    rw [List.foldl_cons, depthAfter, if_neg (Ne.symm noBracket.1.1),
      if_neg (Ne.symm noBracket.2.1)]
    exact ih ⟨noBracket.1.2, noBracket.2.2⟩

theorem trim_of_isIdentifier (isName : Declaration.isIdentifier name = true) : trim name = name := by
  apply trim_eq_self
  all_goals
    intro character member
    apply Declaration.isBlank_eq_false_of_isIdentifierPart
    apply Declaration.isIdentifierPart_of_mem isName
  · exact List.mem_of_head? member
  · exact List.mem_of_getLast? member

theorem cutLastBlank_eq_none_iff : cutLastBlank depth text = none ↔ BlanksInside depth text := by
  induction text generalizing depth with
  | nil => simp [cutLastBlank, BlanksInside]
  | cons character text ih =>
    rw [blanksInside_cons, ← ih, cutLastBlank]
    cases cutLastBlank (depthAfter depth character) text <;> simp

/-- The cut is made at a blank outside brackets with no other such blank behind it. -/
theorem cutLastBlank_eq_some_iff :
    cutLastBlank depth text = some (before, behind) ↔
      before.foldl depthAfter depth = 0 ∧ BlanksInside 0 behind ∧
        ∃ blank, isBlank blank = true ∧ text = before ++ blank :: behind := by
  constructor
  · intro cut
    induction text generalizing depth before with
    | nil => simp [cutLastBlank] at cut
    | cons character text ih =>
      rw [cutLastBlank] at cut
      cases inner : cutLastBlank (depthAfter depth character) text with
      | some parts =>
        rw [inner] at cut
        cases cut
        rcases ih inner with ⟨outside, last, blank, isBlank, rfl⟩
        exact ⟨outside, last, blank, isBlank, rfl⟩
      | none =>
        rw [inner] at cut
        dsimp only at cut
        split_ifs at cut with here
        cases cut
        have inside := cutLastBlank_eq_none_iff.mp inner
        rw [depthAfter_of_isBlank here.1, here.2] at inside
        exact ⟨here.2, inside, character, here.1, rfl⟩
  · rintro ⟨outside, last, blank, isBlank, rfl⟩
    induction before generalizing depth with
    | nil =>
      cases outside
      rw [List.nil_append, cutLastBlank, depthAfter_of_isBlank isBlank,
        cutLastBlank_eq_none_iff.mpr last]
      simp [isBlank]
    | cons character before ih =>
      rw [List.cons_append, cutLastBlank, ih outside]

/-! ### Types and names -/

/-- What stands behind the last blank outside brackets has no white space around it if an identifier
stands there. -/
theorem eq_trim_of_blanksInside (inside : BlanksInside 0 behind)
    (isName : Declaration.isIdentifier (trim behind) = true) : behind = trim behind := by
  rcases exists_eq_trim behind with ⟨front, rest, blankFront, blankRest, split⟩
  generalize trim behind = name at split isName
  have noFront : front = [] := by
    cases front with
    | nil => rfl
    | cons blank front =>
      have outside := inside [] blank _ split (blankFront blank List.mem_cons_self)
      contradiction
  have noRest : rest = [] := by
    cases rest with
    | nil => rfl
    | cons blank rest =>
      rw [noFront] at split
      have outside := inside name blank rest split (blankRest blank List.mem_cons_self)
      rw [foldl_depthAfter_of_isIdentifier isName] at outside
      contradiction
  rw [split, noFront, noRest, List.nil_append, List.append_nil]

/-- A parameter is split where it is written as a type and a name, and nowhere else. -/
theorem splitDeclaredName_eq_some_iff :
    splitDeclaredName parameter = (type, some name) ↔ IsDeclared parameter type name := by
  constructor
  · intro split
    unfold splitDeclaredName at split
    cases cut : cutLastBlank 0 parameter with
    | none =>
      rw [cut] at split
      cases split
    | some parts =>
      rcases parts with ⟨before, behind⟩
      rw [cut] at split
      dsimp only at split
      have accepted : trim before ≠ [] ∧ Declaration.isIdentifier (trim behind) = true ∧
          trim before = type ∧ trim behind = name := by
        split_ifs at split with refused
        · cases split
        · simp only [Bool.or_eq_true, List.isEmpty_iff, Bool.not_eq_true', not_or,
            Bool.not_eq_false] at refused
          cases split
          exact ⟨refused.1, refused.2, rfl, rfl⟩
      rcases accepted with ⟨nonempty, isName, rfl, rfl⟩
      rcases cutLastBlank_eq_some_iff.mp cut with ⟨outside, inside, blank, isBlank, rfl⟩
      rcases exists_eq_trim before with ⟨front, rest, blankFront, blankRest, whole⟩
      refine ⟨nonempty, trim_trim before, ?_, isName, front, rest ++ [blank], blankFront, ?_,
        by simp, ?_⟩
      · rw [openBrackets_trim]
        exact outside
      · intro character member
        rcases List.mem_append.mp member with inRest | last
        · exact blankRest character inRest
        · rw [List.mem_singleton.mp last]
          exact isBlank
      · rw [← eq_trim_of_blanksInside inside isName]
        conv_lhs => rw [whole]
        simp
  · rintro ⟨nonempty, trimmed, closed, isName, front, gap, blankFront, blankGap, some_, rfl⟩
    rcases List.eq_nil_or_concat gap with none | ⟨rest, blank, rfl⟩
    · contradiction
    have blankRest : ∀ character ∈ rest, isBlank character = true := fun character member =>
      blankGap character (by simp [member])
    have outside : (front ++ (type ++ rest)).foldl depthAfter 0 = 0 := by
      rw [List.foldl_append, List.foldl_append, foldl_depthAfter_of_blank blankFront,
        foldl_depthAfter_of_blank blankRest]
      exact closed
    have cut : cutLastBlank 0 (front ++ (type ++ (rest.concat blank ++ name))) =
        some (front ++ (type ++ rest), name) := by
      apply cutLastBlank_eq_some_iff.mpr
      exact ⟨outside, blanksInside_of_isIdentifier isName, blank, blankGap blank (by simp), by simp⟩
    have isType : trim (front ++ (type ++ rest)) = type := by
      rw [trim_append_of_blank blankFront blankRest, trimmed]
    rw [splitDeclaredName, cut]
    dsimp only
    rw [isType, trim_of_isIdentifier isName, isName]
    simp [nonempty]

/-- A parameter that is not split stays as it is. -/
theorem splitDeclaredName_eq_none (unsplit : ∀ type name, ¬ IsDeclared parameter type name) :
    splitDeclaredName parameter = (parameter, none) := by
  unfold splitDeclaredName
  cases cut : cutLastBlank 0 parameter with
  | none => rfl
  | some parts =>
    dsimp only
    split_ifs with refused
    · rfl
    · have split : splitDeclaredName parameter =
          (trim parts.1, some (trim parts.2)) := by
        rw [splitDeclaredName, cut]
        exact if_neg refused
      exact absurd (splitDeclaredName_eq_some_iff.mp split) (unsplit _ _)

/-- A parameter whose blanks all stand inside brackets is all type. -/
theorem splitDeclaredName_of_blanksInside (inside : BlanksInside 0 parameter) :
    splitDeclaredName parameter = (parameter, none) := by
  rw [splitDeclaredName, cutLastBlank_eq_none_iff.mpr inside]

end JarAtlas.Member
