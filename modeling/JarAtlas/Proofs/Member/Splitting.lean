import JarAtlas.Member.Parameters
import JarAtlas.Proofs.Declaration.Identifier
import JarAtlas.Proofs.Text.Trimming
import Mathlib.Data.List.Infix
import Mathlib.Data.List.Pairwise

/-!
# How parameter lists are split

A comma at which no angle bracket is open parts a list into two that are split on their own, whether
or not the brackets of either are balanced. So each parameter is split no further, and at most the
last one leaves a bracket open: the parameters come back from the list that they are joined to.
-/

namespace JarAtlas.Member

open Text

/-- How many angle brackets are open behind a text. A closing bracket without an opening one does
not count. -/
def openBrackets (text : Text) : Nat := text.foldl depthAfter 0

theorem depthAfter_of_isBlank {character : Char} (blank : isBlank character = true) (depth : Nat) :
    depthAfter depth character = depth := by
  have plain : character ≠ '<' ∧ character ≠ '>' :=
    of_isBlank (fun character => character ≠ '<' ∧ character ≠ '>') (by decide) blank
  rw [depthAfter, if_neg plain.1, if_neg plain.2]

theorem foldl_depthAfter_of_blank {text : Text} (blank : ∀ character ∈ text, isBlank character = true)
    (depth : Nat) : text.foldl depthAfter depth = depth := by
  induction text with
  | nil => rfl
  | cons character text ih =>
    rw [List.foldl_cons, depthAfter_of_isBlank (blank character List.mem_cons_self)]
    exact ih fun character member => blank character (List.mem_cons_of_mem _ member)

/-! ### Fragments -/

theorem fragments_ne_nil (depth : Nat) (text : Text) : fragments depth text ≠ [] := by
  cases text with
  | nil => simp [fragments]
  | cons character rest =>
    rw [fragments]
    split_ifs
    · simp
    · split <;> simp

/-- A comma outside brackets parts a text. -/
theorem fragments_append_comma {depth : Nat} {front : Text} (behind : Text)
    (outside : front.foldl depthAfter depth = 0) :
    fragments depth (front ++ ',' :: behind) = fragments depth front ++ fragments 0 behind := by
  induction front generalizing depth with
  | nil =>
    have unbracketed : depth = 0 := outside
    simp [fragments, unbracketed]
  | cons character front ih =>
    rw [List.foldl_cons] at outside
    rw [List.cons_append, fragments, fragments]
    split_ifs with cut
    · rcases cut with ⟨rfl, rfl⟩
      have behindComma : front.foldl depthAfter 0 = 0 := outside
      rw [ih behindComma, List.cons_append]
    · rw [ih outside]
      cases pieces : fragments (depthAfter depth character) front with
      | nil => exact absurd pieces (fragments_ne_nil _ _)
      | cons fragment others => rfl

/-- A text is not cut if all of its commas stand inside brackets. -/
theorem fragments_of_commas {depth : Nat} {text : Text}
    (inside : ∀ front behind, text = front ++ ',' :: behind → front.foldl depthAfter depth ≠ 0) :
    fragments depth text = [text] := by
  induction text generalizing depth with
  | nil => rfl
  | cons character rest ih =>
    have uncut : ¬(character = ',' ∧ depth = 0) := by
      rintro ⟨rfl, outside⟩
      exact inside [] rest rfl outside
    have insideRest : ∀ front behind, rest = front ++ ',' :: behind →
        front.foldl depthAfter (depthAfter depth character) ≠ 0 := by
      intro front behind split
      exact inside (character :: front) behind (by rw [split, List.cons_append])
    rw [fragments, if_neg uncut, ih insideRest]

/-- A text that is not cut is not cut in either of its parts. -/
theorem fragments_of_append {depth : Nat} {front behind : Text}
    (whole : fragments depth (front ++ behind) = [front ++ behind]) :
    fragments depth front = [front] ∧
      fragments (front.foldl depthAfter depth) behind = [behind] := by
  induction front generalizing depth with
  | nil => exact ⟨rfl, whole⟩
  | cons character front ih =>
    rw [List.cons_append, fragments] at whole
    split_ifs at whole with cut
    · simp at whole
    · cases pieces : fragments (depthAfter depth character) (front ++ behind) with
      | nil => exact absurd pieces (fragments_ne_nil _ _)
      | cons fragment others =>
        rw [pieces] at whole
        obtain ⟨rfl, rfl⟩ : fragment = front ++ behind ∧ others = [] := by simpa using whole
        rcases ih pieces with ⟨uncut, rest⟩
        refine ⟨?_, rest⟩
        rw [fragments, if_neg cut, uncut]

/-- No fragment is cut further, and none but the last leaves a bracket open. -/
theorem exists_fragments (depth : Nat) (text : Text) :
    ∃ first others, fragments depth text = first :: others ∧ fragments depth first = [first] ∧
      (others ≠ [] → first.foldl depthAfter depth = 0) ∧
      (∀ fragment ∈ others, fragments 0 fragment = [fragment]) ∧
      others.Pairwise fun fragment _ => openBrackets fragment = 0 := by
  induction text generalizing depth with
  | nil => exact ⟨[], [], rfl, rfl, by simp, by simp, .nil⟩
  | cons character rest ih =>
    by_cases cut : character = ',' ∧ depth = 0
    · rcases ih 0 with ⟨first, others, pieces, uncut, closed, uncutOthers, closedOthers⟩
      refine ⟨[], first :: others, ?_, rfl, fun _ => cut.2, ?_, ?_⟩
      · rw [fragments, if_pos cut, pieces]
      · intro fragment member
        rcases List.mem_cons.mp member with rfl | later
        · exact uncut
        · exact uncutOthers fragment later
      · refine List.pairwise_cons.mpr ⟨fun other member => ?_, closedOthers⟩
        exact closed (List.ne_nil_of_mem member)
    · rcases ih (depthAfter depth character) with
        ⟨first, others, pieces, uncut, closed, uncutOthers, closedOthers⟩
      refine ⟨character :: first, others, ?_, ?_, closed, uncutOthers, closedOthers⟩
      · rw [fragments, if_neg cut, pieces]
      · rw [fragments, if_neg cut, uncut]

theorem fragments_of_mem {text fragment : Text} (member : fragment ∈ fragments 0 text) :
    fragments 0 fragment = [fragment] := by
  rcases exists_fragments 0 text with ⟨first, others, pieces, uncut, -, uncutOthers, -⟩
  rw [pieces] at member
  rcases List.mem_cons.mp member with rfl | later
  · exact uncut
  · exact uncutOthers fragment later

theorem pairwise_fragments (text : Text) :
    (fragments 0 text).Pairwise fun fragment _ => openBrackets fragment = 0 := by
  rcases exists_fragments 0 text with ⟨first, others, pieces, -, closed, -, closedOthers⟩
  rw [pieces]
  refine List.pairwise_cons.mpr ⟨fun other member => ?_, closedOthers⟩
  exact closed (List.ne_nil_of_mem member)

/-! ### Trimmed fragments -/

theorem openBrackets_trim (text : Text) : openBrackets (trim text) = openBrackets text := by
  rcases exists_eq_trim text with ⟨front, behind, blankFront, blankBehind, split⟩
  conv_rhs => rw [split]
  rw [openBrackets, openBrackets, List.foldl_append, List.foldl_append,
    foldl_depthAfter_of_blank blankFront, foldl_depthAfter_of_blank blankBehind]

theorem fragments_trim {text : Text} (uncut : fragments 0 text = [text]) :
    fragments 0 (trim text) = [trim text] := by
  rcases exists_eq_trim text with ⟨front, behind, blankFront, -, split⟩
  rw [split] at uncut
  have behindFront := (fragments_of_append uncut).2
  rw [foldl_depthAfter_of_blank blankFront] at behindFront
  exact (fragments_of_append behindFront).1

/-! ### Parameters -/

theorem splitParameters_of_fragments {text : Text} (uncut : fragments 0 text = [text])
    (nonempty : text ≠ []) (trimmed : trim text = text) : splitParameters text = [text] := by
  simp [splitParameters, uncut, trimmed, nonempty]

theorem splitParameters_append_comma {front : Text} (behind : Text)
    (outside : openBrackets front = 0) :
    splitParameters (front ++ ',' :: behind) = splitParameters front ++ splitParameters behind := by
  rw [splitParameters, fragments_append_comma behind outside, List.map_append, List.filter_append]
  rfl

theorem splitParameters_cons_blank {character : Char} (blank : isBlank character = true)
    (text : Text) : splitParameters (character :: text) = splitParameters text := by
  have noComma : character ≠ ',' := by
    rintro rfl
    exact absurd blank (by decide)
  have sameTrim : ∀ fragment, trim (character :: fragment) = trim fragment := by
    intro fragment
    rw [trim, trimStart, List.dropWhile_cons_of_pos blank, ← trimStart, ← trim]
  rw [splitParameters, fragments, if_neg (mt And.left noComma), depthAfter_of_isBlank blank,
    splitParameters]
  cases pieces : fragments 0 text with
  | nil => exact absurd pieces (fragments_ne_nil _ _)
  | cons fragment others => rw [List.map_cons, List.map_cons, sameTrim]

/-- Each parameter is trimmed, holds something, and is split no further. -/
theorem splitParameters_of_mem {list parameter : Text} (member : parameter ∈ splitParameters list) :
    parameter ≠ [] ∧ trim parameter = parameter ∧ splitParameters parameter = [parameter] := by
  rcases List.mem_filter.mp member with ⟨isTrimmed, visible⟩
  rcases List.mem_map.mp isTrimmed with ⟨fragment, isFragment, rfl⟩
  have nonempty : trim fragment ≠ [] := by simpa using visible
  have uncut := fragments_trim (fragments_of_mem isFragment)
  exact ⟨nonempty, trim_trim fragment,
    splitParameters_of_fragments uncut nonempty (trim_trim fragment)⟩

theorem pairwise_splitParameters (list : Text) :
    (splitParameters list).Pairwise fun parameter _ => openBrackets parameter = 0 := by
  rw [splitParameters]
  refine List.Pairwise.filter _ (List.pairwise_map.mpr ?_)
  simpa only [openBrackets_trim] using pairwise_fragments list

/-- Parameters come back from the list that they are joined to if each is split no further and none
but the last leaves a bracket open. -/
theorem splitParameters_join_of_pairwise {parameters : List Text}
    (single : ∀ parameter ∈ parameters, splitParameters parameter = [parameter])
    (closed : parameters.Pairwise fun parameter _ => openBrackets parameter = 0) :
    splitParameters (join ", " parameters) = parameters := by
  induction parameters with
  | nil => rfl
  | cons parameter others ih =>
    cases others with
    | nil => exact single parameter List.mem_cons_self
    | cons next others =>
      rcases List.pairwise_cons.mp closed with ⟨closedFirst, closedOthers⟩
      have rest := ih (fun other member => single other (List.mem_cons_of_mem _ member)) closedOthers
      have joined : join ", " (parameter :: next :: others) =
          parameter ++ ',' :: ' ' :: join ", " (next :: others) := join_cons_cons ", " _ _ _
      rw [joined, splitParameters_append_comma _ (closedFirst next List.mem_cons_self),
        splitParameters_cons_blank (by decide), rest, single parameter List.mem_cons_self]
      rfl

/-! ### Balanced brackets -/

/-- The angle brackets of a text are balanced, and all of its commas stand inside them. -/
structure IsNested (text : Text) : Prop where
  opened : ∀ front ∈ text.inits, front.count '>' ≤ front.count '<'
  closed : text.count '<' = text.count '>'
  commas : ∀ front ∈ text.inits, front ++ [','] <+: text → front.count '>' < front.count '<'

/-- While no bracket is closed too early, those are open that are opened and not closed. -/
theorem openBrackets_of_opened {text : Text}
    (opened : ∀ front ∈ text.inits, front.count '>' ≤ front.count '<') :
    openBrackets text = text.count '<' - text.count '>' := by
  induction text using List.reverseRecOn with
  | nil => rfl
  | append_singleton text character ih =>
    have before : ∀ front ∈ text.inits, front.count '>' ≤ front.count '<' := fun front member =>
      opened front ((List.mem_inits _ _).mpr
        (((List.mem_inits _ _).mp member).trans (List.prefix_append _ _)))
    have whole := opened (text ++ [character]) ((List.mem_inits _ _).mpr List.prefix_rfl)
    have front := before text ((List.mem_inits _ _).mpr List.prefix_rfl)
    rw [openBrackets, List.foldl_append, ← openBrackets, ih before]
    rw [List.foldl_cons, List.foldl_nil, depthAfter]
    simp only [List.count_append, List.count_singleton, beq_iff_eq] at whole ⊢
    by_cases opens : character = '<'
    · simp only [opens, if_true, Char.reduceEq, if_false]
      omega
    · simp only [opens, if_false] at whole ⊢
      split_ifs at whole ⊢
      · omega
      · omega

namespace IsNested

variable {text : Text} (nested : IsNested text)

include nested

theorem openBrackets_eq_zero : openBrackets text = 0 := by
  rw [openBrackets_of_opened nested.opened, nested.closed, Nat.sub_self]

theorem fragments_eq_singleton : fragments 0 text = [text] := by
  apply fragments_of_commas
  intro front behind split
  have isPrefix : front ++ [','] <+: text := ⟨behind, by simp [split]⟩
  have begins : front <+: text := (List.prefix_append _ _).trans isPrefix
  have opened : ∀ start ∈ front.inits, start.count '>' ≤ start.count '<' := fun start member =>
    nested.opened start ((List.mem_inits _ _).mpr (((List.mem_inits _ _).mp member).trans begins))
  have inside := nested.commas front ((List.mem_inits _ _).mpr begins) isPrefix
  rw [← openBrackets, openBrackets_of_opened opened]
  omega

end IsNested

/-- Splitting follows the commas outside brackets. A comma at which no bracket is open parts a list
into two that are split on their own. What a list is split into is split no further and comes back
from the list that it is joined to, however unbalanced or empty the list is in places. And any
parameters with balanced brackets around their commas come back from theirs. -/
theorem splitParameters_append_join :
    (∀ front behind, openBrackets front = 0 →
      splitParameters (front ++ ',' :: behind) = splitParameters front ++ splitParameters behind) ∧
    (∀ list,
      (∀ parameter ∈ splitParameters list,
        parameter ≠ [] ∧ trim parameter = parameter ∧ splitParameters parameter = [parameter]) ∧
      splitParameters (join ", " (splitParameters list)) = splitParameters list) ∧
    ∀ parameters : List Text,
      (∀ parameter ∈ parameters, parameter ≠ [] ∧ trim parameter = parameter ∧ IsNested parameter) →
      splitParameters (join ", " parameters) = parameters := by
  refine ⟨fun front behind => splitParameters_append_comma behind, fun list => ⟨?_, ?_⟩, ?_⟩
  · exact fun parameter => splitParameters_of_mem
  · exact splitParameters_join_of_pairwise
      (fun parameter member => (splitParameters_of_mem member).2.2) (pairwise_splitParameters list)
  · intro parameters wellFormed
    have single : ∀ parameter ∈ parameters, splitParameters parameter = [parameter] := by
      intro parameter member
      rcases wellFormed parameter member with ⟨nonempty, trimmed, nested⟩
      exact splitParameters_of_fragments nested.fragments_eq_singleton nonempty trimmed
    have closed : parameters.Pairwise fun parameter _ => openBrackets parameter = 0 :=
      List.pairwise_of_forall_mem_list fun parameter member _ _ =>
        (wellFormed parameter member).2.2.openBrackets_eq_zero
    exact splitParameters_join_of_pairwise single closed

/-- A list whose last parameter leaves a bracket open, with an unopened one and a comma too many in
front, and a list of parameters with balanced brackets. -/
theorem splitParameters_append_join_nested :
    openBrackets ">, a.Pair<K, V>" = 0 ∧
      splitParameters ">, a.Pair<K, V>, , java.util.List<int, long" =
        splitParameters ">, a.Pair<K, V>" ++ splitParameters " , java.util.List<int, long" ∧
      splitParameters (join ", " (splitParameters ">, a.Pair<K, V>, , java.util.List<int, long")) =
        splitParameters ">, a.Pair<K, V>, , java.util.List<int, long" ∧
      splitParameters ">, a.Pair<K, V>, , java.util.List<int, long" =
        ([[ '>' ], "a.Pair<K, V>", "java.util.List<int, long"] : List Text) ∧
      splitParameters "java.util.Map<K, a.Pair<V, int>>, int" =
        (["java.util.Map<K, a.Pair<V, int>>", "int"] : List Text) := by
  have outside : openBrackets ">, a.Pair<K, V>" = 0 := by decide
  have wellFormed : ∀ parameter ∈ (["java.util.Map<K, a.Pair<V, int>>", "int"] : List Text),
      parameter ≠ [] ∧ trim parameter = parameter ∧ IsNested parameter := by
    intro parameter member
    rw [List.mem_pair] at member
    rcases member with rfl | rfl
    · exact ⟨by decide, by decide, by decide +kernel, by decide, by decide +kernel⟩
    · exact ⟨by decide, by decide, by decide +kernel, by decide, by decide +kernel⟩
  exact ⟨outside, splitParameters_append_join.1 _ _ outside, (splitParameters_append_join.2.1 _).2,
    by decide +kernel, splitParameters_append_join.2.2 _ wellFormed⟩

end JarAtlas.Member
