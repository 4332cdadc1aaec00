import JarAtlas.Text.Basic

/-!
# Modifiers of members

A member line begins with modifier words, each with one space behind it. The words of the member's
own vocabulary are reported once each, in order of first appearance; further words may be passed
over without a report.
-/

namespace JarAtlas.Member

/-- The modifiers of methods. -/
def methodModifiers : List Text :=
  ["public", "private", "protected", "static", "final", "abstract", "synchronized", "native"]

/-- The modifiers of fields. -/
def fieldModifiers : List Text :=
  ["public", "private", "protected", "static", "final", "transient", "volatile"]

/-- Words that stand among the modifiers of a method without being one. -/
def passedMethodWords : List Text := ["default", "strictfp"]

/-- The words at the start of a text that are among `words`, each with a space behind it, and the
text behind them. -/
def leadingWords (words : List Text) (text : Text) : List Text × Text :=
  match _cut : Text.cutFirst ' ' text with
  | none => ([], text)
  | some (word, rest) =>
    if words.contains word then
      let (others, rest) := leadingWords words rest
      (word :: others, rest)
    else ([], text)
termination_by text.length
decreasing_by
  have := (Text.eq_append_of_cutFirst _cut).1
  simp [this]
  omega

/-- The words without those that occurred before. -/
def firstOccurrences (words : List Text) : List Text :=
  words.foldl (fun kept word => if kept.contains word then kept else kept ++ [word]) []

/-- Cuts the modifiers off a text: the reported ones, and what follows all of them. -/
def cutModifiers (vocabulary passed : List Text) (text : Text) : List Text × Text :=
  let (words, rest) := leadingWords (vocabulary ++ passed) text
  (firstOccurrences (words.filter vocabulary.contains), rest)

end JarAtlas.Member
