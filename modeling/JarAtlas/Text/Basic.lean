/-!
# Text

Text is a list of Unicode scalar values, so every law about lists is a law about text. This module
holds the cuts that the rest of the library makes: at the first or the last occurrence of a
separator, at every occurrence, and around a fixed beginning.
-/

namespace JarAtlas

/-- A text: its characters in order. -/
abbrev Text := List Char

/-- A literal may be written where a text is expected. -/
instance : Coe String Text := ⟨String.toList⟩

namespace Text

/-- What follows `start` in `text`, if `text` begins with it. -/
def after? (start text : Text) : Option Text :=
  match start, text with
  | [], rest => some rest
  | _ :: _, [] => none
  | expected :: start, actual :: text => if expected = actual then after? start text else none

/-- `text` begins with `start`. -/
def beginsWith (start text : Text) : Bool := (after? start text).isSome

/-- `text` ends in `ending`. -/
def endsWith (ending text : Text) : Bool := beginsWith ending.reverse text.reverse

/-- `text` without its last `ending.length` characters. -/
def dropEnding (ending text : Text) : Text := text.take (text.length - ending.length)

/-- `part` occurs somewhere in `text`. -/
def mentions (part : Text) : Text → Bool
  | [] => part.isEmpty
  | character :: rest => beginsWith part (character :: rest) || mentions part rest

/-- The texts before and after the first `separator`, if there is one. -/
def cutFirst (separator : Char) : Text → Option (Text × Text)
  | [] => none
  | character :: rest =>
    if character = separator then some ([], rest)
    else (cutFirst separator rest).map fun (before, behind) => (character :: before, behind)

/-- The texts before and after the last `separator`, if there is one. -/
def cutLast (separator : Char) : Text → Option (Text × Text)
  | [] => none
  | character :: rest =>
    match cutLast separator rest with
    | some (before, behind) => some (character :: before, behind)
    | none => if character = separator then some ([], rest) else none

/-- The pieces between the separators: one more than there are separators. -/
def pieces (separator : Char) : Text → List Text
  | [] => [[]]
  | character :: rest =>
    if character = separator then [] :: pieces separator rest
    else
      match pieces separator rest with
      | [] => [[character]]
      | piece :: others => (character :: piece) :: others

/-- The texts in order with `separator` between neighbours. -/
def join (separator : Text) : List Text → Text
  | [] => []
  | [text] => text
  | text :: others => text ++ separator ++ join separator others

/-- The text up to the first space: all of it when there is none. -/
def firstWord (text : Text) : Text := text.takeWhile (· ≠ ' ')

/-- Order by code points, the shorter of two texts first when one begins with the other. -/
def precedes : Text → Text → Bool
  | [], _ => true
  | _ :: _, [] => false
  | left :: lefts, right :: rights =>
    if left = right then precedes lefts rights else left.toNat < right.toNat

/-- The decimal form of a natural number. -/
def ofNat (number : Nat) : Text := Nat.toDigits 10 number

/-- The decimal form of an integer, with a minus sign in front when it is negative. -/
def ofInt : Int → Text
  | .ofNat number => ofNat number
  | .negSucc number => '-' :: ofNat (number + 1)

theorem after?_append (start rest : Text) : after? start (start ++ rest) = some rest := by
  induction start with
  | nil => rfl
  | cons character start inductionHypothesis => simp [after?, inductionHypothesis]

theorem eq_append_of_after? {start text rest : Text} (cut : after? start text = some rest) :
    text = start ++ rest := by
  induction start generalizing text with
  | nil => simpa [after?] using cut
  | cons character start inductionHypothesis =>
    cases text with
    | nil => simp [after?] at cut
    | cons actual text =>
      simp only [after?] at cut
      split at cut
      case isTrue same => simp [same, inductionHypothesis cut]
      case isFalse => simp at cut

/-- A text begins with `start` exactly when `start` and some rest make it up. -/
theorem after?_eq_some_iff {start text rest : Text} :
    after? start text = some rest ↔ text = start ++ rest :=
  ⟨eq_append_of_after?, fun same => same ▸ after?_append start rest⟩

theorem eq_append_of_cutFirst {separator : Char} {text before behind : Text}
    (cut : cutFirst separator text = some (before, behind)) :
    text = before ++ separator :: behind ∧ separator ∉ before := by
  induction text generalizing before with
  | nil => simp [cutFirst] at cut
  | cons character rest inductionHypothesis =>
    simp only [cutFirst] at cut
    split at cut
    case isTrue same =>
      simp only [Option.some.injEq, Prod.mk.injEq] at cut
      simp [← cut.1, ← cut.2, same]
    case isFalse different =>
      simp only [Option.map_eq_some_iff, Prod.exists, Prod.mk.injEq] at cut
      obtain ⟨left, right, inner, rfl, rfl⟩ := cut
      obtain ⟨rfl, absent⟩ := inductionHypothesis inner
      simp [absent, Ne.symm different]

theorem eq_append_of_cutLast {separator : Char} {text before behind : Text}
    (cut : cutLast separator text = some (before, behind)) :
    text = before ++ separator :: behind := by
  induction text generalizing before behind with
  | nil => simp [cutLast] at cut
  | cons character rest inductionHypothesis =>
    simp only [cutLast] at cut
    split at cut
    case h_1 left right inner =>
      simp only [Option.some.injEq, Prod.mk.injEq] at cut
      simp [← cut.1, ← cut.2, inductionHypothesis inner]
    case h_2 =>
      split at cut
      case isTrue same =>
        simp only [Option.some.injEq, Prod.mk.injEq] at cut
        simp [← cut.1, ← cut.2, same]
      case isFalse => simp at cut

theorem pieces_ne_nil (separator : Char) (text : Text) : pieces separator text ≠ [] := by
  cases text with
  | nil => simp [pieces]
  | cons character rest =>
    simp only [pieces]
    split
    · simp
    · split <;> simp

/-- Joining the pieces with the separator gives the text back. -/
theorem join_pieces (separator : Char) (text : Text) :
    join [separator] (pieces separator text) = text := by
  induction text with
  | nil => rfl
  | cons character rest inductionHypothesis =>
    cases shape : pieces separator rest with
    | nil => exact absurd shape (pieces_ne_nil separator rest)
    | cons piece others =>
      rw [shape] at inductionHypothesis
      by_cases same : character = separator
      · simp [pieces, same, shape, join, inductionHypothesis]
      · cases others <;> simp_all [pieces, join]

end Text

end JarAtlas
