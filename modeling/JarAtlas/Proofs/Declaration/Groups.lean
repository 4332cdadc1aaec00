import JarAtlas.Member.Parameters
import JarAtlas.Proofs.Declaration.Surroundings

/-!
# Groups of angle brackets

A group is a text from an opening bracket to the one that closes it. Where a group ends is told from
its characters alone, by the depth of brackets, and it can be told so in a declaration line because
no terminal but the brackets themselves holds a bracket and the terminals of types and of type
parameters are balanced.
-/

namespace JarAtlas

namespace Text

open Member (depthAfter)

/-- The text up to the bracket that closes the first of `depth` open ones, and the text behind. -/
def cutGroup : (depth : Nat) → Text → Text × Text
  | _, [] => ([], [])
  | depth, character :: rest =>
      if depthAfter depth character = 0 then ([character], rest)
      else
        let (group, behind) := cutGroup (depthAfter depth character) rest
        (character :: group, behind)

/-- The text with its first group of brackets replaced by a space. -/
def withoutFirstGroup (text : Text) : Text :=
  text.takeWhile (· ≠ '<') ++ ' ' :: (cutGroup 0 (text.dropWhile (· ≠ '<'))).2

/-- The text without its outermost groups of brackets, from a place inside `depth` brackets. -/
def withoutGroups : (depth : Nat) → Text → Text
  | _, [] => []
  | depth, character :: rest =>
      if depth = 0 ∧ character ≠ '<' then character :: withoutGroups 0 rest
      else withoutGroups (depthAfter depth character) rest

/-- No bracket stands in the text. -/
def IsPlain (text : Text) : Prop := ∀ character ∈ text, character ≠ '<' ∧ character ≠ '>'

instance : DecidablePred IsPlain := fun text => List.decidableBAll _ text

theorem IsPlain.append {front behind : Text} (first : IsPlain front) (second : IsPlain behind) :
    IsPlain (front ++ behind) := by
  intro character member
  rcases List.mem_append.mp member with inFront | inBehind
  · exact first character inFront
  · exact second character inBehind

theorem isPlain_of_isBlank {text : Text} (blank : ∀ character ∈ text, isBlank character = true) :
    IsPlain text := by
  intro character member
  constructor
  · rintro rfl
    exact absurd (blank _ member) (by decide)
  · rintro rfl
    exact absurd (blank _ member) (by decide)

/-- A text that does not end a group which it stands in. -/
def Passes (text : Text) : Prop :=
  ∀ depth rest, cutGroup (depth + 1) (text ++ rest) =
    (text ++ (cutGroup (depth + 1) rest).1, (cutGroup (depth + 1) rest).2)

theorem passes_nil : Passes [] := fun _ _ => rfl

theorem Passes.append {front behind : Text} (first : Passes front) (second : Passes behind) :
    Passes (front ++ behind) := by
  intro depth rest
  simp [first depth, second depth]

theorem IsPlain.passes {text : Text} (plain : IsPlain text) : Passes text := by
  intro depth rest
  induction text with
  | nil => rfl
  | cons character text ih =>
    have outside := plain character List.mem_cons_self
    have others : IsPlain text := fun other member => plain other (List.mem_cons_of_mem _ member)
    simp [cutGroup, depthAfter, outside, ih others]

theorem Passes.bracketed {text : Text} (inside : Passes text) : Passes ('<' :: (text ++ ['>'])) := by
  intro depth rest
  simp [cutGroup, depthAfter, inside (depth + 1)]

/-- A group ends at the bracket that closes it. -/
theorem Passes.cutGroup_eq {text : Text} (inside : Passes text) (behind : Text) :
    cutGroup 0 ('<' :: (text ++ '>' :: behind)) = ('<' :: (text ++ ['>']), behind) := by
  simp [cutGroup, depthAfter, inside 0]

theorem IsPlain.withoutGroups_succ {text : Text} (plain : IsPlain text) (depth : Nat) (rest : Text) :
    withoutGroups (depth + 1) (text ++ rest) = withoutGroups (depth + 1) rest := by
  induction text with
  | nil => rfl
  | cons character text ih =>
    have outside := plain character List.mem_cons_self
    have others : IsPlain text := fun other member => plain other (List.mem_cons_of_mem _ member)
    simp [withoutGroups, depthAfter, outside, ih others]

theorem IsPlain.withoutGroups_zero {text : Text} (plain : IsPlain text) (rest : Text) :
    withoutGroups 0 (text ++ rest) = text ++ withoutGroups 0 rest := by
  induction text with
  | nil => rfl
  | cons character text ih =>
    have outside := plain character List.mem_cons_self
    have others : IsPlain text := fun other member => plain other (List.mem_cons_of_mem _ member)
    simp [withoutGroups, outside, ih others]

end Text

namespace Declaration

open Text (IsPlain Passes cutGroup withoutGroups)

/-- Terminals whose brackets are balanced. -/
inductive Balanced : List Token → Prop
  | nil : Balanced []
  | token {token : Token} (opens : token ≠ .symbol "<") (closes : token ≠ .symbol ">") :
      Balanced [token]
  | append {left right : List Token} (first : Balanced left) (second : Balanced right) :
      Balanced (left ++ right)
  | bracketed {tokens : List Token} (inside : Balanced tokens) :
      Balanced (.symbol "<" :: (tokens ++ [.symbol ">"]))

namespace Balanced

variable {tokens : List Token}

theorem cons {token : Token} (opens : token ≠ .symbol "<") (closes : token ≠ .symbol ">")
    (others : Balanced tokens) : Balanced (token :: tokens) :=
  (Balanced.token opens closes).append others

theorem inner (balanced : Balanced tokens) : Inner tokens := by
  induction balanced with
  | nil =>
    intro depth rest
    rfl
  | token opens closes => exact inner_of_not_bracket opens closes
  | append first second ihFirst ihSecond => exact ihFirst.append ihSecond
  | bracketed inside ih => exact ih.bracketed

end Balanced

theorem balanced_replicate (count : Nat) : Balanced (List.replicate count (.symbol "[]")) := by
  induction count with
  | zero => exact .nil
  | succ count ih => exact Balanced.cons (by decide) (by decide) ih

theorem Separated.balanced {Item : Type} {separator : Text} {items : List Item}
    {tokens : List Token}
    (rules : Separated separator (fun _ tokens => Balanced tokens) items tokens)
    (opens : separator ≠ ("<" : Text)) (closes : separator ≠ (">" : Text)) : Balanced tokens := by
  induction rules with
  | last rule => exact rule
  | more rule rules ih =>
    exact rule.append (.cons (by simpa using opens) (by simpa using closes) ih)

theorem DerivesType.balanced {reference : TypeReference} {tokens : List Token}
    (rule : DerivesType reference tokens) : Balanced tokens := by
  refine rule.induction (fun _ tokens => Balanced tokens) (fun _ tokens => Balanced tokens)
    (fun _ tokens => Balanced tokens) ?type ?plain ?generic ?exactly ?unbounded ?extending ?above
  case type =>
    intro segments tokens count rules
    exact (rules.balanced (by decide) (by decide)).append (balanced_replicate count)
  case plain =>
    intro name
    exact .token (by simp) (by simp)
  case generic =>
    intro name arguments tokens rules
    exact .cons (by simp) (by simp) (rules.balanced (by decide) (by decide)).bracketed
  case exactly => exact id
  case unbounded => exact .token (by decide) (by decide)
  case extending =>
    intro bound tokens balanced
    exact .cons (by decide) (by decide) (.cons (by decide) (by decide) balanced)
  case above =>
    intro bound tokens balanced
    exact .cons (by decide) (by decide) (.cons (by decide) (by decide) balanced)

theorem DerivesParameter.balanced {parameter : TypeParameter} {tokens : List Token}
    (rule : DerivesParameter parameter tokens) : Balanced tokens := by
  cases rule with
  | unbounded name => exact .token (by simp) (by simp)
  | bounded name rule =>
    have bounds := (rule.mono fun _ _ derived => derived.balanced).balanced (by decide) (by decide)
    exact .cons (by simp) (by simp) (.cons (by decide) (by decide) bounds)

/-! ### Brackets in terminals -/

theorem isPlain_of_all_isSpace {blanks : Text} (blank : blanks.all isSpace = true) :
    IsPlain blanks :=
  Text.isPlain_of_isBlank (isBlank_of_all_isSpace blank)

/-- No terminal but a bracket holds a bracket, nor does the text that shows it. -/
theorem Token.Fits.isPlain {token : Token} {behind : Text} (fits : token.Fits behind)
    (opens : token ≠ .symbol "<") (closes : token ≠ .symbol ">") :
    IsPlain token.spelling ∧ IsPlain token.shown := by
  cases token with
  | modifier word =>
    have plain : ∀ word ∈ declarationModifiers, IsPlain word := by decide
    exact ⟨plain word fits, plain word fits⟩
  | kind declared => cases declared <;> decide
  | identifier name =>
    have plain : IsPlain name := by
      intro character member
      constructor
      · rintro rfl
        exact not_mem_of_isIdentifier fits.1 (by decide +kernel) member
      · rintro rfl
        exact not_mem_of_isIdentifier fits.1 (by decide +kernel) member
    exact ⟨plain, plain⟩
  | symbol spelling =>
    have plain : ∀ spelling ∈ symbols, spelling ≠ ("<" : Text) → spelling ≠ (">" : Text) →
        IsPlain spelling ∧ IsPlain (Token.symbol spelling).shown := by
      decide
    exact plain spelling fits (by simpa using opens) (by simpa using closes)

/-- Terminals in brackets are a group of the text that they are cut from. -/
theorem exists_group_of_reads {tokens : List Token} {text rest : Text}
    (passes : ∀ {text rest}, Reads text tokens rest → ∃ front, text = front ++ rest ∧ Passes front)
    (reads : Reads text (.symbol "<" :: (tokens ++ [.symbol ">"])) rest) :
    ∃ blanks inside, blanks.all isSpace = true ∧ text = blanks ++ '<' :: (inside ++ '>' :: rest) ∧
      Passes inside ∧ Cut ('<' :: (inside ++ ['>'])) (.symbol "<" :: (tokens ++ [.symbol ">"])) := by
  cases reads with
  | @cons blanks behind _ _ _ blank opens others =>
    rcases others.exists_of_append with ⟨middle, readsInside, readsClosing⟩
    rcases passes readsInside with ⟨front, rfl, passesFront⟩
    cases readsClosing with
    | @cons between _ _ _ _ blankBetween closes ends =>
      cases ends
      rcases others.exists_front with ⟨inside, split, -, change⟩
      have shape : inside = front ++ between ++ ['>'] := by
        have same : inside ++ rest = front ++ between ++ ['>'] ++ rest := by
          simpa [Token.spelling] using split.symm
        exact List.append_cancel_right same
      subst shape
      refine ⟨blanks, front ++ between, blank, by simp [Token.spelling],
        passesFront.append (isPlain_of_all_isSpace blankBetween).passes, [], rfl, ?_⟩
      have cut : Reads ([] ++ (Token.symbol "<").spelling ++ (front ++ between ++ ['>'] ++ []))
          (.symbol "<" :: (tokens ++ [.symbol ">"])) [] :=
        .cons rfl opens (change [] ends_nil)
      simpa [Token.spelling] using cut

/-- Balanced terminals do not end a group which they stand in. -/
theorem Balanced.passes {tokens : List Token} (balanced : Balanced tokens) {text rest : Text}
    (reads : Reads text tokens rest) : ∃ front, text = front ++ rest ∧ Passes front := by
  induction balanced generalizing text rest with
  | nil =>
    cases reads
    exact ⟨[], rfl, Text.passes_nil⟩
  | token opens closes =>
    cases reads with
    | cons blank fits others =>
      cases others
      have plain := (fits.isPlain opens closes).1
      exact ⟨_, rfl, (isPlain_of_all_isSpace blank).passes.append plain.passes⟩
  | append first second ihFirst ihSecond =>
    rcases reads.exists_of_append with ⟨middle, readsFirst, readsSecond⟩
    rcases ihFirst readsFirst with ⟨front, rfl, passesFirst⟩
    rcases ihSecond readsSecond with ⟨behind, rfl, passesSecond⟩
    exact ⟨front ++ behind, by simp, passesFirst.append passesSecond⟩
  | bracketed inside ih =>
    rcases exists_group_of_reads ih reads with ⟨blanks, between, blank, rfl, passes, -⟩
    refine ⟨blanks ++ '<' :: (between ++ ['>']), by simp, ?_⟩
    exact (isPlain_of_all_isSpace blank).passes.append passes.bracketed

/-- Balanced terminals are left out of the text that shows them wherever they stand in a group, and
outside groups those are left out that stand in a group of their own. -/
theorem Balanced.withoutGroups_shownText {tokens : List Token} (balanced : Balanced tokens)
    (fit : ∀ token ∈ tokens, ∃ behind, token.Fits behind) :
    (∀ depth rest, withoutGroups (depth + 1) (shownText tokens ++ rest) =
      withoutGroups (depth + 1) rest) ∧
    ∀ rest others, withoutGroups 0 rest = shownText (outermost 0 others) →
      withoutGroups 0 (shownText tokens ++ rest) = shownText (outermost 0 (tokens ++ others)) := by
  induction balanced with
  | nil => exact ⟨fun _ _ => rfl, fun _ _ same => same⟩
  | @token token opens closes =>
    rcases fit token List.mem_cons_self with ⟨behind, fits⟩
    have plain := (fits.isPlain opens closes).2
    constructor
    · intro depth rest
      simpa using plain.withoutGroups_succ depth rest
    · intro rest others same
      have kept : outermost 0 ([token] ++ others) = token :: outermost 0 others := by
        rw [List.singleton_append, outermost, if_neg opens, if_neg closes, if_pos rfl]
      rw [kept, shownText_cons, shownText_cons, shownText_nil, List.append_nil,
        plain.withoutGroups_zero, same]
  | append first second ihFirst ihSecond =>
    have before := ihFirst fun token member => fit token (List.mem_append_left _ member)
    have behind := ihSecond fun token member => fit token (List.mem_append_right _ member)
    constructor
    · intro depth rest
      rw [shownText_append, List.append_assoc, before.1, behind.1]
    · intro rest others same
      rw [shownText_append, List.append_assoc, List.append_assoc]
      exact before.2 _ _ (behind.2 _ _ same)
  | @bracketed tokens inside ih =>
    have between := (ih fun token member => fit token (by simp [member])).1
    have skips (depth : Nat) (rest : Text) :
        withoutGroups (depth + 1) ('>' :: rest) = withoutGroups depth rest := by
      simp [withoutGroups, Member.depthAfter]
    have passes : ∀ depth rest, withoutGroups depth
        (shownText (.symbol "<" :: (tokens ++ [.symbol ">"])) ++ rest) = withoutGroups depth rest := by
      intro depth rest
      have opened : shownText (.symbol "<" :: (tokens ++ [.symbol ">"])) ++ rest =
          '<' :: (shownText tokens ++ '>' :: rest) := by
        simp only [shownText_cons, shownText_append, shownText_nil, Token.shown_opening,
          Token.shown_closing, List.append_assoc, List.cons_append, List.nil_append]
      have entered : withoutGroups depth ('<' :: (shownText tokens ++ '>' :: rest)) =
          withoutGroups (depth + 1) (shownText tokens ++ '>' :: rest) := by
        simp [withoutGroups, Member.depthAfter]
      rw [opened, entered, between, skips]
    refine ⟨fun depth rest => passes (depth + 1) rest, ?_⟩
    intro rest others same
    rw [passes, same, List.cons_append, List.append_assoc, outermost, if_pos rfl, inside.inner,
      List.singleton_append, outermost, if_neg (by decide), if_pos rfl]

end Declaration

end JarAtlas
