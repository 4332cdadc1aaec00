import JarAtlas.Listing.Reading
import JarAtlas.Proofs.Text.Trimming

/-!
# Runs over lines

What `parse` makes of a text is what a run makes of its trimmed lines, and a run over some lines in
front of others is cut into two. A line looks ahead only to see whether the next one that is not
blank is a descriptor, so the lines in front may be read with other lines behind them as long as
these begin with a descriptor or not as before.
-/

namespace JarAtlas.Listing

/-- The lines of a text as a run reads them. -/
def contentLines (text : Text) : List Text := (Text.lines text).map Text.trim

/-- The reading in front of the first line, for a class that the caller takes for `className`. -/
def startFor (className : Option Text) : Reading := .start (simpleNameOf (className.getD []))

/-- The next line that is not blank. -/
def nextContent (lines : List Text) : Option Text := lines.find? (!·.isEmpty)

/-- The next line that is not blank describes the member in front of it. -/
def isDescribed (lines : List Text) : Bool :=
  (nextContent lines).any (Text.beginsWith descriptorStart)

/-- What the end of a run makes of a listing. -/
def conclude : Except Nat ClassSummary → Except Fault ClassSummary
  | .error digits => .error (.oversized digits)
  | .ok summary => if summary.simpleName.isEmpty then .error .nameless else .ok summary

theorem isBlankText_eq_false {text line : Text} (isLine : line ∈ contentLines text)
    (visible : line ≠ []) : Text.isBlankText text = false := by
  rw [Text.isBlankText, Bool.eq_false_iff]
  intro blank
  rcases List.mem_map.mp isLine with ⟨written, isWritten, rfl⟩
  apply visible
  rw [Text.trim_eq_nil_iff]
  intro character member
  exact List.all_eq_true.mp blank character (Text.mem_of_mem_lines isWritten member)

/-- A text that is not blank is read as its lines are. -/
theorem parse_eq_conclude {text : Text} (visible : Text.isBlankText text = false)
    (className : Option Text) :
    parse (some text) className = conclude ((startFor className).run (contentLines text)) := by
  unfold parse
  dsimp only
  rw [if_neg (by simp [visible])]
  rw [← contentLines, ← startFor]
  cases (startFor className).run (contentLines text) <;> rfl

theorem conclude_eq_ok_iff {result : Except Nat ClassSummary} {summary : ClassSummary} :
    conclude result = .ok summary ↔ result = .ok summary ∧ summary.simpleName ≠ [] := by
  cases result with
  | error digits => simp [conclude]
  | ok found =>
    simp only [conclude]
    split_ifs with nameless
    · rw [List.isEmpty_iff] at nameless
      simp only [Except.ok.injEq, false_iff, not_and, not_not]
      rintro rfl
      exact nameless
    · rw [List.isEmpty_iff] at nameless
      simp only [Except.ok.injEq]
      constructor
      · rintro rfl
        exact ⟨rfl, nameless⟩
      · exact And.left

theorem parse_eq_ok_iff {text : Text} {className : Option Text} {summary : ClassSummary} :
    parse (some text) className = .ok summary ↔
      Text.isBlankText text = false ∧ (startFor className).run (contentLines text) = .ok summary ∧
        summary.simpleName ≠ [] := by
  cases blank : Text.isBlankText text with
  | true => simp [parse, blank]
  | false => simp [parse_eq_conclude blank, conclude_eq_ok_iff]

/-- The look ahead matters only as far as it shows a descriptor. -/
theorem shapeOf_congr {first second : Option Text} (insideMethod : Bool) (line : Text)
    (same : first.any (Text.beginsWith descriptorStart) =
      second.any (Text.beginsWith descriptorStart)) :
    shapeOf insideMethod line first = shapeOf insideMethod line second := by
  have methods : listsMethod line first = listsMethod line second := by
    unfold listsMethod
    rw [same]
  have fields : listsField line first = listsField line second := by
    unfold listsField
    rw [same]
  unfold shapeOf
  rw [methods, fields]

namespace Reading

theorem feed_congr {first second : Option Text} (reading : Reading) (line : Text)
    (same : first.any (Text.beginsWith descriptorStart) =
      second.any (Text.beginsWith descriptorStart)) :
    reading.feed line first = reading.feed line second := by
  have lines : ∀ reading : Reading, reading.feedLine line first = reading.feedLine line second := by
    intro reading
    unfold feedLine
    rw [shapeOf_congr _ line same]
  simp only [feed, lines]

/-- The reading behind the first lines, where others follow them; nothing if the run ends before. -/
def readLines (reading : Reading) : (lines rest : List Text) → Option Reading
  | [], _ => some reading
  | line :: lines, rest =>
      match reading.feed line (nextContent (lines ++ rest)) with
      | .next after => after.readLines lines rest
      | _ => none

theorem run_cons (reading : Reading) (line : Text) (lines : List Text) :
    reading.run (line :: lines) =
      match reading.feed line (nextContent lines) with
      | .next after => after.run lines
      | .closed after => .ok after.endMethod.settled
      | .oversized digits => .error digits := rfl

/-- A run goes on from where the first lines lead. -/
theorem run_append {reading after : Reading} {lines rest : List Text}
    (reached : reading.readLines lines rest = some after) :
    reading.run (lines ++ rest) = after.run rest := by
  induction lines generalizing reading with
  | nil =>
    cases reached
    rfl
  | cons line lines ih =>
    unfold readLines at reached
    rw [List.cons_append, run_cons]
    split at reached
    · rename_i next step
      rw [step]
      exact ih reached
    · contradiction

theorem readLines_append (reading : Reading) (lines more rest : List Text) :
    reading.readLines (lines ++ more) rest =
      (reading.readLines lines (more ++ rest)).bind fun after => after.readLines more rest := by
  induction lines generalizing reading with
  | nil => rfl
  | cons line lines ih =>
    rw [List.cons_append, readLines, readLines, List.append_assoc]
    cases reading.feed line (nextContent (lines ++ (more ++ rest))) with
    | next after => exact ih after
    | closed after => rfl
    | oversized digits => rfl

theorem nextContent_append (lines rest : List Text) :
    nextContent (lines ++ rest) = (nextContent lines).or (nextContent rest) :=
  List.find?_append

/-- Lines are read alike in front of lines that look alike to the look ahead. -/
theorem readLines_congr {reading : Reading} {lines rest other : List Text}
    (same : isDescribed rest = isDescribed other) :
    reading.readLines lines rest = reading.readLines lines other := by
  induction lines generalizing reading with
  | nil => rfl
  | cons line lines ih =>
    have ahead : (nextContent (lines ++ rest)).any (Text.beginsWith descriptorStart) =
        (nextContent (lines ++ other)).any (Text.beginsWith descriptorStart) := by
      rw [nextContent_append, nextContent_append]
      cases nextContent lines with
      | none => simpa [isDescribed] using same
      | some next => rfl
    unfold readLines
    rw [reading.feed_congr line ahead]
    split
    · exact ih
    · rfl

end Reading

/-- A text is read on from where its first lines lead. -/
theorem parse_of_readLines {text : Text} {className : Option Text} {front rest : List Text}
    {reading : Reading} (listed : contentLines text = front ++ rest)
    (visible : ∃ line ∈ front ++ rest, line ≠ [])
    (reached : (startFor className).readLines front rest = some reading) :
    parse (some text) className = conclude (reading.run rest) := by
  rcases visible with ⟨line, member, nonempty⟩
  rw [← listed] at member
  rw [parse_eq_conclude (isBlankText_eq_false member nonempty), listed, Reading.run_append reached]

end JarAtlas.Listing
