import JarAtlas.Coordinate
import JarAtlas.Proofs.Text.Cuts
import Mathlib.Data.List.TakeDrop
import Mathlib.Data.List.TakeWhile
import Mathlib.Tactic.Common

/-!
# Coordinates in a dependency tree

What stands where a coordinate is found: five or six parts, as many as there are. The art in front
of an artifact in a tree holds no coordinate, so what is found in the line is the artifact's own
coordinate, whole.
-/

namespace JarAtlas.Coordinate

open Text

/-- A part of a coordinate. -/
def IsPart (part : Text) : Prop := part ≠ [] ∧ ∀ character ∈ part, isPart character = true

instance (part : Text) : Decidable (IsPart part) :=
  have := List.decidableBAll (fun character => isPart character = true) part
  inferInstanceAs (Decidable (_ ∧ _))

/-- The parts of a coordinate: group, artifact, type, version and scope, and maybe a classifier. -/
structure AreParts (parts : List Text) : Prop where
  count : parts.length = 5 ∨ parts.length = 6
  each : ∀ part ∈ parts, IsPart part

/-- A text goes on with nothing that a part could hold. -/
def EndsPart (behind : Text) : Prop := ∀ character ∈ behind.head?, isPart character = false

/-- What comes behind parts that are all that can be read: it ends the last of them, and it is no
further part where there is `room` for one. -/
structure Closes (room : Nat) (behind : Text) : Prop where
  ends : EndsPart behind
  last : 0 < room → ∀ more, behind = ':' :: more → EndsPart more

/-! ### Reading parts -/

/-- Parts with a colon in front of each. -/
def colonized (parts : List Text) : Text := parts.flatMap (':' :: ·)

theorem join_eq_colonized (first : Text) (others : List Text) :
    join ":" (first :: others) = first ++ colonized others := by
  induction others generalizing first with
  | nil => simp [join, colonized]
  | cons next others ih =>
    rw [join_cons_cons, ih]
    simp [colonized]

theorem colonized_cons_append (part : Text) (parts : List Text) (behind : Text) :
    colonized (part :: parts) ++ behind = ':' :: (part ++ (colonized parts ++ behind)) := by
  simp [colonized]

theorem endsPart_colonized {parts : List Text} {behind : Text} (ends : EndsPart behind) :
    EndsPart (colonized parts ++ behind) := by
  cases parts with
  | nil => exact ends
  | cons part parts =>
    intro character isNext
    cases isNext
    decide

/-- A text is cut where a part ends. -/
theorem span_isPart {part behind : Text} (inside : ∀ character ∈ part, isPart character = true)
    (ends : EndsPart behind) : (part ++ behind).span isPart = (part, behind) := by
  rw [List.span_eq_takeWhile_dropWhile, List.takeWhile_append_of_pos inside,
    List.dropWhile_append_of_pos inside]
  cases behind with
  | nil => simp
  | cons character behind => simp [ends character rfl]

theorem endsPart_of_span {text front behind : Text} (cut : text.span isPart = (front, behind)) :
    text = front ++ behind ∧ (∀ character ∈ front, isPart character = true) ∧ EndsPart behind := by
  rw [List.span_eq_takeWhile_dropWhile, Prod.mk.injEq] at cut
  rcases cut with ⟨rfl, rfl⟩
  refine ⟨List.takeWhile_append_dropWhile.symm, fun _ => List.mem_takeWhile_imp, ?_⟩
  intro character isNext
  have stopped := List.head?_dropWhile_not isPart text
  rw [Option.mem_def.mp isNext] at stopped
  simpa using stopped

/-- Behind a colon, a part is read before the others. -/
theorem followingParts_of_span {limit : Nat} {rest part others : Text}
    (cut : rest.span isPart = (part, others)) : followingParts (limit + 1) (':' :: rest) =
      if part = [] then [] else part :: followingParts limit others := by
  rw [followingParts, cut]
  simp only [List.isEmpty_iff]

theorem followingParts_of_ne {limit : Nat} {text : Text} (noColon : text.head? ≠ some ':') :
    followingParts limit text = [] := by
  unfold followingParts
  split
  · rfl
  · split
    · simp at noColon
    · rfl

/-- Parts are read up to what closes them. -/
theorem followingParts_colonized {limit : Nat} {parts : List Text} {behind : Text}
    (each : ∀ part ∈ parts, IsPart part) (fits : parts.length ≤ limit)
    (closes : Closes (limit - parts.length) behind) :
    followingParts limit (colonized parts ++ behind) = parts := by
  induction parts generalizing limit with
  | nil =>
    by_cases further : 0 < limit ∧ behind.head? = some ':'
    · rcases further with ⟨room, colon⟩
      rcases List.head?_eq_some_iff.mp colon with ⟨more, rfl⟩
      have stops : more.span isPart = ([], more) :=
        @span_isPart [] more (by simp) (closes.last room more rfl)
      obtain ⟨fewer, rfl⟩ := Nat.exists_eq_succ_of_ne_zero room.ne'
      exact (followingParts_of_span stops).trans (if_pos rfl)
    · by_cases colon : behind.head? = some ':'
      · have full : limit = 0 := by simpa [colon] using further
        rw [full]
        rfl
      · exact followingParts_of_ne colon
  | cons part parts ih =>
    cases limit with
    | zero => simp at fits
    | succ limit =>
      rw [List.length_cons, Nat.add_sub_add_right] at closes
      have head := each part List.mem_cons_self
      have others := ih (fun other member => each other (List.mem_cons_of_mem _ member))
        (Nat.le_of_succ_le_succ fits) closes
      rw [colonized_cons_append,
        followingParts_of_span (span_isPart head.2 (endsPart_colonized closes.ends)),
        if_neg head.1, others]

/-- What is read are parts, and what is behind them closes them. -/
theorem exists_of_followingParts (limit : Nat) {text : Text} (ends : EndsPart text) :
    ∃ behind, text = colonized (followingParts limit text) ++ behind ∧
      (∀ part ∈ followingParts limit text, IsPart part) ∧
      (followingParts limit text).length ≤ limit ∧
      Closes (limit - (followingParts limit text).length) behind := by
  induction limit generalizing text with
  | zero => exact ⟨text, rfl, by simp [followingParts], Nat.le_refl _, ends, by simp⟩
  | succ limit ih =>
    by_cases colon : text.head? = some ':'
    · rcases List.head?_eq_some_iff.mp colon with ⟨rest, rfl⟩
      rcases cut : rest.span isPart with ⟨part, others⟩
      rcases endsPart_of_span cut with ⟨rfl, inside, stops⟩
      by_cases empty : part = []
      · subst empty
        rw [followingParts_of_span cut, if_pos rfl]
        refine ⟨_, rfl, by simp, Nat.zero_le _, ends, ?_⟩
        rintro - more same
        cases same
        exact stops
      · rcases ih stops with ⟨behind, same, each, fits, closes⟩
        rw [followingParts_of_span cut, if_neg empty]
        refine ⟨behind, ?_, ?_, ?_, ?_⟩
        · rw [colonized_cons_append, ← same]
        · intro other member
          rcases List.mem_cons.mp member with rfl | later
          · exact ⟨empty, inside⟩
          · exact each other later
        · exact Nat.succ_le_succ fits
        · rwa [List.length_cons, Nat.add_sub_add_right]
    · rw [followingParts_of_ne colon]
      refine ⟨text, rfl, by simp, Nat.zero_le _, ends, ?_⟩
      rintro - more rfl
      simp at colon

/-! ### Finding a coordinate -/

/-- A coordinate stands at the start of a text exactly if its parts do, as many as there are. -/
theorem here?_eq_some_iff {text coordinate : Text} : here? text = some coordinate ↔
    ∃ parts behind, AreParts parts ∧ Closes (6 - parts.length) behind ∧
      text = join ":" parts ++ behind ∧ coordinate = join ":" parts := by
  constructor
  · intro found
    rcases cut : text.span isPart with ⟨first, rest⟩
    rcases endsPart_of_span cut with ⟨rfl, inside, stops⟩
    rcases exists_of_followingParts 5 stops with ⟨behind, same, each, fits, closes⟩
    rw [here?, cut] at found
    simp only [Bool.or_eq_true, List.isEmpty_iff, decide_eq_true_eq, Option.ite_none_left_eq_some,
      not_or, Option.some.injEq] at found
    rcases found with ⟨⟨nonempty, enough⟩, rfl⟩
    refine ⟨first :: followingParts 5 rest, behind, ⟨?_, ?_⟩, ?_, ?_, rfl⟩
    · rw [List.length_cons]
      omega
    · intro part member
      rcases List.mem_cons.mp member with rfl | later
      · exact ⟨nonempty, inside⟩
      · exact each part later
    · rwa [List.length_cons, Nat.add_sub_add_right 5 1]
    · rw [join_eq_colonized, List.append_assoc, ← same]
  · rintro ⟨parts, behind, areParts, closes, rfl, rfl⟩
    cases parts with
    | nil => simpa using areParts.count
    | cons first others =>
      have head := areParts.each first List.mem_cons_self
      have count : others.length = 4 ∨ others.length = 5 := by simpa using areParts.count
      rw [List.length_cons, Nat.add_sub_add_right 5 1] at closes
      have read : followingParts 5 (colonized others ++ behind) = others :=
        followingParts_colonized (fun part member => areParts.each part
          (List.mem_cons_of_mem _ member)) (by omega) closes
      have enough : ¬ others.length < 4 := by omega
      rw [here?, join_eq_colonized, List.append_assoc,
        span_isPart head.2 (endsPart_colonized closes.ends)]
      simp only [read]
      rw [if_neg (by simp [head.1, enough]), join_eq_colonized]

/-- No coordinate begins in a text that holds no colon and ends in a blank. -/
theorem here?_append_eq_none {front : Text} (behind : Text) (noColon : ':' ∉ front) :
    here? (front ++ ' ' :: behind) = none := by
  rcases cut : front.span isPart with ⟨first, rest⟩
  rcases endsPart_of_span cut with ⟨rfl, inside, stops⟩
  have stopsBefore : EndsPart (rest ++ ' ' :: behind) := by
    intro character isNext
    cases rest with
    | nil =>
      cases isNext
      decide
    | cons next rest => exact stops character isNext
  have notColon : (rest ++ ' ' :: behind).head? ≠ some ':' := by
    intro isNext
    cases rest with
    | nil => simp at isNext
    | cons next rest => simp_all
  rw [here?, List.append_assoc, span_isPart inside stopsBefore]
  simp [followingParts_of_ne notColon]

/-- A front without colons that ends in a blank holds nothing of what is found. -/
theorem firstIn_append_blank {front : Text} (behind : Text) (noColon : ':' ∉ front) :
    firstIn (front ++ ' ' :: behind) = firstIn behind := by
  induction front with
  | nil => rw [List.nil_append, firstIn, ← List.nil_append (' ' :: behind),
      here?_append_eq_none behind (by simp), Option.none_or]
  | cons character front ih =>
    rw [List.cons_append, firstIn, ← List.cons_append, here?_append_eq_none behind noColon,
      Option.none_or]
    exact ih fun member => noColon (List.mem_cons_of_mem _ member)

/-- What is found in a text is a coordinate, and all of it. -/
theorem exists_of_firstIn {text coordinate : Text} (found : firstIn text = some coordinate) :
    ∃ front parts behind, AreParts parts ∧ Closes (6 - parts.length) behind ∧
      text = front ++ (join ":" parts ++ behind) ∧ coordinate = join ":" parts := by
  induction text with
  | nil => simp [firstIn] at found
  | cons character rest ih =>
    rw [firstIn, Option.or_eq_some_iff] at found
    rcases found with isHere | ⟨-, later⟩
    · rcases here?_eq_some_iff.mp isHere with ⟨parts, behind, areParts, closes, same, isJoin⟩
      exact ⟨[], parts, behind, areParts, closes, same, isJoin⟩
    · rcases ih later with ⟨front, parts, behind, areParts, closes, same, isJoin⟩
      exact ⟨character :: front, parts, behind, areParts, closes, by simp [same], isJoin⟩

/-- A text behind a marker, whatever is in front. -/
theorem exists_of_behindMarker {line behind : Text} (found : behindMarker line = some behind) :
    ∃ front, line = front ++ (marker ++ behind) := by
  induction line with
  | nil => simp [behindMarker] at found
  | cons character rest ih =>
    rw [behindMarker, Option.or_eq_some_iff] at found
    rcases found with isHere | ⟨-, later⟩
    · exact ⟨[], by rw [List.nil_append, after?_eq_some_iff.mp isHere]⟩
    · rcases ih later with ⟨front, same⟩
      exact ⟨character :: front, by rw [List.cons_append, ← same]⟩

theorem behindMarker_marker (behind : Text) : behindMarker (marker ++ behind) = some behind := by
  have split : marker ++ behind = '[' :: ("INFO]".toList ++ behind) := rfl
  rw [split, behindMarker, ← split, after?_append, Option.some_or]

/-- The coordinate that a line names stands behind a marker, and it is not part of a longer one. -/
theorem exists_of_ofLine? {line coordinate : Text} (found : ofLine? line = some coordinate) :
    ∃ front between parts behind, AreParts parts ∧ Closes (6 - parts.length) behind ∧
      line = front ++ (marker ++ (between ++ (coordinate ++ behind))) ∧
      coordinate = join ":" parts := by
  rcases Option.bind_eq_some_iff.mp found with ⟨rest, isMarked, isFirst⟩
  rcases exists_of_behindMarker isMarked with ⟨front, rfl⟩
  rcases exists_of_firstIn isFirst with ⟨between, parts, behind, areParts, closes, rfl, rfl⟩
  exact ⟨front, between, parts, behind, areParts, closes, rfl, rfl⟩

/-! ### Lines of a tree -/

/-- What is drawn in front of an artifact in a tree: nothing, or branches with a blank at their end.
-/
structure IsArt (art : Text) : Prop where
  drawn : ∀ character ∈ art, character ∈ (" |+\\-" : Text)
  ends : art = [] ∨ art.getLast? = some ' '

/-- What may come behind a coordinate: nothing, or what neither goes on with it nor with a part. -/
def IsSuffix (suffix : Text) : Prop :=
  ∀ character ∈ suffix.head?, isPart character = false ∧ character ≠ ':'

instance (suffix : Text) : Decidable (IsSuffix suffix) :=
  match suffix with
  | [] => isTrue (by simp [IsSuffix])
  | character :: _ =>
    decidable_of_iff (isPart character = false ∧ character ≠ ':') (by simp [IsSuffix])

theorem IsSuffix.closes {suffix : Text} (isSuffix : IsSuffix suffix) (room : Nat) :
    Closes room suffix where
  ends := fun character isNext => (isSuffix character isNext).1
  last := by
    rintro - more rfl
    exact absurd rfl (isSuffix ':' rfl).2

/-- The line of an artifact names its coordinate, whatever is drawn in front of it. -/
theorem ofLine?_art {art suffix : Text} {parts : List Text} (isArt : IsArt art)
    (areParts : AreParts parts) (isSuffix : IsSuffix suffix) :
    ofLine? ("[INFO] ".toList ++ art ++ join ":" parts ++ suffix) = some (join ":" parts) := by
  have isHere : here? (join ":" parts ++ suffix) = some (join ":" parts) :=
    here?_eq_some_iff.mpr ⟨parts, suffix, areParts, isSuffix.closes _, rfl, rfl⟩
  have isFirst : firstIn (join ":" parts ++ suffix) = some (join ":" parts) := by
    cases same : join ":" parts ++ suffix with
    | nil =>
      rw [same] at isHere
      cases isHere
    | cons character rest => rw [firstIn, ← same, isHere, Option.some_or]
  -- The blank behind the marker belongs to the art, so that the art always ends in a blank.
  obtain ⟨front, noColon, drawn⟩ : ∃ front : Text, ':' ∉ front ∧ ' ' :: art = front ++ [' '] := by
    rcases isArt.ends with rfl | last
    · exact ⟨[], by simp, rfl⟩
    · rcases List.getLast?_eq_some_iff.mp last with ⟨front, rfl⟩
      refine ⟨' ' :: front, ?_, rfl⟩
      intro member
      rcases List.mem_cons.mp member with space | inArt
      · cases space
      · have isDrawn := isArt.drawn ':' (List.mem_append_left _ inArt)
        revert isDrawn
        decide
  have split : "[INFO] ".toList ++ art ++ join ":" parts ++ suffix =
      marker ++ (front ++ ' ' :: (join ":" parts ++ suffix)) := by
    calc "[INFO] ".toList ++ art ++ join ":" parts ++ suffix
        = marker ++ ((' ' :: art) ++ (join ":" parts ++ suffix)) := by simp [marker]
      _ = marker ++ (front ++ ' ' :: (join ":" parts ++ suffix)) := by rw [drawn]; simp
  rw [split, ofLine?, behindMarker_marker, Option.bind_some, firstIn_append_blank _ noColon,
    isFirst]

end JarAtlas.Coordinate
