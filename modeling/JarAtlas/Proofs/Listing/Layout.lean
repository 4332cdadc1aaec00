import JarAtlas.Proofs.Listing.SwitchBlock
import JarAtlas.Proofs.Text.Layout

/-!
# Noise and layout

What surrounds the members of a class in its listing, such as constant pools, instructions, stack
maps and annotations, can be put in or left out wherever no variable table is being read, and so can
blank lines. A line looks ahead to the next one that is not blank, so noise has to keep away from
the place between a member and its descriptor. How the lines are indented and which breaks part them
says nothing.
-/

namespace JarAtlas.Listing

open Text

/-- A line that says nothing about the class wherever it stands, and does not make a member of the
line in front of it. -/
structure IsNoise (line : Text) : Prop extends IsSilent true line where
  not_descriptor : beginsWith descriptorStart line = false

theorem isInert_nil : isInert [] = true := by
  have inert : shapeOf true [] none = .inert := by
    by_contra telling
    exact ne_nil_of_shapeOf telling rfl
  rw [isInert, inert]
  rfl

theorem IsNoise.isInert {line : Text} (noise : IsNoise line) : isInert line = true := by
  have inert : shapeOf true line none = .inert := noise.toIsSilent.shapeOf rfl
  rw [Listing.isInert, inert, noise.not_descriptor]
  rfl

/-- Blank lines hide no descriptor. -/
theorem isDescribed_blank {lines : List Text} (rest : List Text)
    (blank : ∀ line ∈ lines, line = []) : isDescribed (lines ++ rest) = isDescribed rest := by
  induction lines with
  | nil => rfl
  | cons line lines ih =>
    rw [List.cons_append, isDescribed_cons, if_pos (blank line List.mem_cons_self)]
    exact ih fun line member => blank line (List.mem_cons_of_mem _ member)

namespace Reading

/-- A run passes blank lines. -/
theorem run_blankLines {reading : Reading} {lines : List Text} (rest : List Text)
    (outside : reading.phase ≠ .inTable) (blank : ∀ line ∈ lines, line = []) :
    reading.run (lines ++ rest) = reading.run rest := by
  induction lines with
  | nil => rfl
  | cons line lines ih =>
    have empty : line = [] := blank line List.mem_cons_self
    have silent : shapeOf reading.current.isSome line (nextContent (lines ++ rest)) = .inert := by
      by_contra telling
      exact ne_nil_of_shapeOf telling empty
    rw [List.cons_append, run_silent outside silent]
    exact ih fun line member => blank line (List.mem_cons_of_mem _ member)

/-- Runs that begin with the same lines come to the same if they do so behind these lines. They may
also end before. -/
theorem run_append_congr {reading : Reading} {lines rest other : List Text}
    (same : isDescribed rest = isDescribed other)
    (behind : ∀ after, reading.readLines lines rest = some after → after.run rest = after.run other) :
    reading.run (lines ++ rest) = reading.run (lines ++ other) := by
  induction lines generalizing reading with
  | nil => exact behind reading rfl
  | cons line lines ih =>
    have ahead : isDescribed (lines ++ rest) = isDescribed (lines ++ other) := by
      simp only [isDescribed, nextContent_append]
      cases nextContent lines with
      | none => exact same
      | some next => rfl
    rw [List.cons_append, List.cons_append, run_cons, run_cons, ← reading.feed_congr line ahead]
    cases step : reading.feed line (nextContent (lines ++ rest)) with
    | next after =>
      apply ih
      intro last reached
      apply behind
      rw [readLines, step]
      exact reached
    | closed after => rfl
    | oversized digits => rfl

end Reading

/-- Noise between two lines neither shows nor hides a descriptor. -/
theorem isDescribed_noise {noise rest : List Text}
    (quiet : ∀ line ∈ noise, line = [] ∨ IsNoise line)
    (apart : isDescribed rest = false ∨ ∀ line ∈ noise, line = []) :
    isDescribed (noise ++ rest) = isDescribed rest := by
  rcases apart with undescribed | blank
  · rw [undescribed]
    apply isDescribed_append _ undescribed
    intro line member
    rcases quiet line member with rfl | isNoise
    · rfl
    · exact isNoise.not_descriptor
  · exact isDescribed_blank rest blank

/-- Where no variable table is being read, a run passes noise. -/
theorem run_noise {reading : Reading} {noise rest : List Text}
    (outside : reading.phase ≠ .inTable) (quiet : ∀ line ∈ noise, line = [] ∨ IsNoise line)
    (apart : isDescribed rest = false ∨ ∀ line ∈ noise, line = []) :
    reading.run (noise ++ rest) = reading.run rest := by
  rcases apart with undescribed | blank
  · apply Reading.run_inert outside _ undescribed
    intro line member
    rcases quiet line member with rfl | isNoise
    · exact isInert_nil
    · exact isNoise.isInert
  · exact Reading.run_blankLines rest outside blank

/-- A text that is not blank has a line that is not. -/
theorem exists_visible_contentLine {text : Text} (visible : isBlankText text = false) :
    ∃ line ∈ contentLines text, line ≠ [] := by
  simp only [isBlankText, List.all_eq_false, Bool.not_eq_true] at visible
  rcases visible with ⟨character, member, isVisible⟩
  rcases exists_mem_lines member isVisible with ⟨line, isLine, inLine⟩
  refine ⟨trim line, List.mem_map_of_mem isLine, ?_⟩
  intro empty
  rw [trim_eq_nil_iff.mp empty character inLine] at isVisible
  contradiction

/-- A listing may be laid out anew and noise may be put into it at any place where no variable table
is being read: the class stays. The new text is given by the lines that it is written in, up to
blanks around them. Lines that are not blank are put only where no descriptor comes next. -/
theorem parse_noise {text other : Text} {className : Option Text}
    {front noise rest written : List Text} (visible : isBlankText text = false)
    (listed : contentLines text = front ++ rest)
    (outside : ∀ reading, (startFor className).readLines front rest = some reading →
      reading.phase ≠ .inTable)
    (quiet : ∀ line ∈ noise, line = [] ∨ IsNoise line)
    (apart : isDescribed rest = false ∨ ∀ line ∈ noise, line = [])
    (laidOut : WrittenIn written other) (lines : written.map trim = front ++ (noise ++ rest)) :
    parse (some other) className = parse (some text) className := by
  have listedOther : contentLines other = front ++ (noise ++ rest) := by
    rw [contentLines, lines_eq_iff.mpr laidOut, lines]
  have visibleOther : isBlankText other = false := by
    rcases exists_visible_contentLine visible with ⟨line, isLine, nonempty⟩
    refine isBlankText_eq_false (?_ : line ∈ contentLines other) nonempty
    rw [listed] at isLine
    rw [listedOther]
    simp only [List.mem_append] at isLine ⊢
    tauto
  have sameRun : (startFor className).run (front ++ rest) =
      (startFor className).run (front ++ (noise ++ rest)) := by
    apply Reading.run_append_congr (isDescribed_noise quiet apart).symm
    intro reading reached
    exact (run_noise (outside reading reached) quiet apart).symm
  rw [parse_eq_conclude visibleOther, parse_eq_conclude visible, listed, listedOther, sameRun]

/-- The lines of a small listing behind its declaration. -/
def pairRest : List Text := [['\x7b'], "int first();", "descriptor: ()I", ['\x7d']]

/-- A constant pool between a declaration and the body. -/
def constantPool : List Text := [[], "Constant pool:", "#1 = Utf8   a/Pair"]

/-- The same listing with a constant pool, other breaks and other blanks. -/
def pairLaidOut : Text :=
  "public class a.Pair\r\n\u2028  Constant pool:\x0b   #1 = Utf8   a/Pair\r" ++ '\x7b' ::
    ("\n int first(); \n\tdescriptor: ()I\u0085" ++ ['\x7d'])

theorem parse_pairLaidOut :
    parse (some pairLaidOut) none =
      parse (some (join "\n" ("public class a.Pair" :: pairRest))) none := by
  have outside : ∀ reading,
      (startFor none).readLines ["public class a.Pair"] pairRest = some reading →
        reading.phase ≠ .inTable := by
    have phase : ((startFor none).readLines ["public class a.Pair"] pairRest).all
        (·.phase = .outside) = true := by
      decide +kernel
    intro reading reached
    simp only [reached, Option.all_some, decide_eq_true_eq] at phase
    simp [phase]
  have quiet : ∀ line ∈ constantPool, line = [] ∨ IsNoise line := by
    have header : IsNoise "Constant pool:" :=
      ⟨⟨by decide +kernel, by decide, by decide, by decide, by decide, by decide, by decide, by decide,
        by decide⟩, by decide⟩
    have entry : IsNoise "#1 = Utf8   a/Pair" :=
      ⟨⟨by decide +kernel, by decide, by decide, by decide, by decide, by decide, by decide, by decide,
        by decide⟩, by decide⟩
    simpa [constantPool] using And.intro header entry
  have written : WrittenIn (lines pairLaidOut) pairLaidOut := lines_eq_iff.mp rfl
  have content : (lines pairLaidOut).map trim =
      (["public class a.Pair"] : List Text) ++ (constantPool ++ pairRest) := by
    decide +kernel
  exact parse_noise (by decide) (by decide +kernel) outside quiet (.inl (by decide)) written content

end JarAtlas.Listing
