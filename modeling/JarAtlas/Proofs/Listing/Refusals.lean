import JarAtlas.Proofs.Listing.DeclaredName
import JarAtlas.Proofs.Listing.Prefixes

/-!
# When a listing is refused

No line of a listing is refused for being unlike the others: what cannot be read says nothing. A
listing is refused for what it is as a whole, if there is nothing in it or nothing names its class,
and in one more case: a number that a line gives is read before anything is made of it, and it may
have more digits than can be read. Which lines give a number depends on what stands in front of
them, so the lines are followed up to the one in question.
-/

namespace JarAtlas.Listing

open Text

/-- The number that a reading takes from a line: the slot of a row while a variable table is read,
and the argument size of a method while it is read. -/
inductive Reading.Takes (reading : Reading) (line : Text) (next : Option Text) (number : Text) : Prop
  | slot {name : Text} (inTable : reading.phase = .inTable)
      (row : tableLineOf line = .row number name) : Takes reading line next number
  | size (foreign : reading.phase = .inTable → tableLineOf line = .foreign)
      (shape : shapeOf reading.current.isSome line next = .codeSizes)
      (given : argumentSize? line = some number) : Takes reading line next number

/-- A line that is reached in a run gives a number of so many digits, more than can be read. -/
def Reading.MeetsOversized (reading : Reading) (lines : List Text) (digits : Nat) : Prop :=
  ∃ front line rest after number, lines = front ++ line :: rest ∧
    reading.readLines front (line :: rest) = some after ∧
    after.Takes line (nextContent rest) number ∧ number.length = digits ∧ digitLimit < digits

/-- Neither the caller nor an accepted declaration among the lines that are read names the class. -/
def IsNameless (text : Text) (className : Option Text) : Prop :=
  simpleNameOf (className.getD []) = [] ∧ declarationsRead text className = []

theorem number?_eq_none_iff {number : Text} : number? number = none ↔ digitLimit < number.length := by
  simp [number?]

namespace Reading

variable {reading : Reading} {line : Text} {next : Option Text} {digits : Nat}

theorem feedLine_eq_oversized_iff :
    reading.feedLine line next = .oversized digits ↔
      shapeOf reading.current.isSome line next = .codeSizes ∧
        ∃ number, argumentSize? line = some number ∧ number.length = digits ∧
          digitLimit < digits := by
  constructor
  · intro fed
    have shape := (isOversized_of_feedLine fed).1
    refine ⟨shape, ?_⟩
    simp only [feedLine, shape, takeSizes] at fed
    cases given : argumentSize? line with
    | none => simp [given] at fed
    | some number =>
      simp only [given] at fed
      cases unread : number? number with
      | some size => simp [unread] at fed
      | none =>
        simp only [unread, Step.oversized.injEq] at fed
        subst fed
        exact ⟨number, rfl, rfl, number?_eq_none_iff.mp unread⟩
  · rintro ⟨shape, number, given, rfl, more⟩
    simp only [feedLine, shape, takeSizes, given, number?_eq_none_iff.mpr more]

/-- Inside a variable table a number is taken from a row, or from a line that ends the table. -/
theorem takes_iff_of_inTable {number : Text} (inTable : reading.phase = .inTable) :
    reading.Takes line next number ↔
      (∃ name, tableLineOf line = .row number name) ∨
        tableLineOf line = .foreign ∧ shapeOf reading.current.isSome line next = .codeSizes ∧
          argumentSize? line = some number := by
  constructor
  · rintro (⟨-, row⟩ | ⟨foreign, shape, given⟩)
    · exact .inl ⟨_, row⟩
    · exact .inr ⟨foreign inTable, shape, given⟩
  · rintro (⟨name, row⟩ | ⟨foreign, shape, given⟩)
    · exact .slot inTable row
    · exact .size (fun _ => foreign) shape given

/-- A line ends a run for its number exactly if that has too many digits. -/
theorem feed_eq_oversized_iff :
    reading.feed line next = .oversized digits ↔
      ∃ number, reading.Takes line next number ∧ number.length = digits ∧ digitLimit < digits := by
  by_cases inTable : reading.phase = .inTable
  · simp only [takes_iff_of_inTable inTable]
    cases kind : tableLineOf line with
    | blank => simp [feed, inTable, kind]
    | columnHeads => simp [feed, inTable, kind]
    | row slot name =>
      simp only [feed, inTable, kind, TableLine.row.injEq, exists_and_left, exists_eq', and_true,
        reduceCtorEq, false_and, or_false]
      cases read : number? slot with
      | some size =>
        have short : ¬digitLimit < slot.length := by
          rw [← number?_eq_none_iff, read]
          simp
        simp only [reduceCtorEq, false_iff, not_exists, not_and]
        rintro number rfl rfl
        exact short
      | none =>
        have more := number?_eq_none_iff.mp read
        simp only [Step.oversized.injEq]
        constructor
        · rintro rfl
          exact ⟨slot, rfl, rfl, more⟩
        · rintro ⟨number, rfl, length, -⟩
          exact length
    | foreign =>
      have body := @feedLine_eq_oversized_iff { reading with phase := .inBody } line next digits
      simp only [feed, inTable, kind, body]
      simp [and_assoc]
  · rw [feed_eq_feedLine line next inTable, feedLine_eq_oversized_iff]
    constructor
    · rintro ⟨shape, number, given, length, more⟩
      exact ⟨number, .size (fun stands => absurd stands inTable) shape given, length, more⟩
    · rintro ⟨number, ⟨stands, -⟩ | ⟨-, shape, given⟩, length, more⟩
      · contradiction
      · exact ⟨shape, number, given, length, more⟩

/-- A run fails exactly at a number of too many digits, in the first line that gives one. -/
theorem run_eq_error_iff {lines : List Text} :
    reading.run lines = .error digits ↔ reading.MeetsOversized lines digits := by
  induction lines generalizing reading with
  | nil => simp [run, MeetsOversized]
  | cons line lines ih =>
    rw [run_cons]
    constructor
    · intro failed
      cases step : reading.feed line (nextContent lines) with
      | next after =>
        rw [step] at failed
        rcases ih.mp failed with ⟨front, other, rest, reached, number, rfl, read, takes⟩
        refine ⟨line :: front, other, rest, reached, number, rfl, ?_, takes⟩
        simpa [readLines, step] using read
      | closed after => simp [step] at failed
      | oversized found =>
        simp only [step, Except.error.injEq] at failed
        subst failed
        rcases feed_eq_oversized_iff.mp step with ⟨number, takes⟩
        exact ⟨[], line, lines, reading, number, rfl, rfl, takes⟩
    · rintro ⟨front, other, rest, reached, number, split, read, takes⟩
      cases front with
      | nil =>
        cases split
        cases read
        rw [feed_eq_oversized_iff.mpr ⟨number, takes⟩]
      | cons first front =>
        cases split
        unfold readLines at read
        cases step : reading.feed line (nextContent (front ++ other :: rest)) with
        | next after =>
          rw [step] at read
          exact ih.mpr ⟨front, other, rest, reached, number, rfl, read, takes⟩
        | closed after => simp [step] at read
        | oversized found => simp [step] at read

end Reading

section Parse

variable {text : Text} {className : Option Text}

/-- A run that comes to its end leaves the class without a simple name exactly if nothing names it. -/
theorem simpleName_eq_nil_iff {summary : ClassSummary}
    (ran : (startFor className).run (contentLines text) = .ok summary) :
    summary.simpleName = [] ↔ IsNameless text className := by
  have outline : summary.outline.simpleName = ((declarationsRead text className).foldl
      ClassSummary.declare (startFor className).settled.outline).simpleName :=
    congrArg ClassSummary.simpleName (Reading.outline_of_run ran)
  change summary.simpleName = _ at outline
  rw [outline, IsNameless]
  by_cases undeclared : declarationsRead text className = []
  · simp only [undeclared, List.foldl_nil, and_true]
    rfl
  · have named := simpleName_foldl_declare_ne_nil (startFor className).settled.outline
      (fun _ => exists_parse_of_mem_declarationsRead) undeclared
    simp [undeclared, named]

/-- A text that is not blank is refused exactly for a number of too many digits among the lines that
are reached, or else for want of a name. -/
theorem parse_visible_eq_error_iff (visible : isBlankText text = false) (fault : Fault) :
    parse (some text) className = .error fault ↔
      (∃ digits, fault = .oversized digits ∧
        (startFor className).MeetsOversized (contentLines text) digits) ∨
      fault = .nameless ∧ (∀ digits, ¬(startFor className).MeetsOversized (contentLines text) digits) ∧
        IsNameless text className := by
  simp only [parse_eq_conclude visible, ← Reading.run_eq_error_iff]
  cases ran : (startFor className).run (contentLines text) with
  | error digits => simp [conclude, eq_comm]
  | ok summary =>
    have named := simpleName_eq_nil_iff ran
    by_cases nameless : IsNameless text className
    · simp [conclude, named.mpr nameless, nameless, eq_comm]
    · have simple : summary.simpleName ≠ [] := mt named.mp nameless
      simp [conclude, simple, nameless]

/-- A listing that is not refused is read, and the class has a simple name. -/
theorem exists_parse_eq_ok_iff :
    (∃ summary, parse (some text) className = .ok summary ∧ summary.simpleName ≠ []) ↔
      ∀ fault, parse (some text) className ≠ .error fault := by
  constructor
  · rintro ⟨summary, parsed, -⟩ fault
    simp [parsed]
  · intro accepted
    cases parsed : parse (some text) className with
    | error fault => exact absurd parsed (accepted fault)
    | ok summary => exact ⟨summary, rfl, (parse_eq_ok_iff.mp parsed).2.2⟩

end Parse

/-- A listing is refused exactly if there is nothing in it but white space, or a line that is reached
gives a number of too many digits, or else neither the caller nor a declaration that is read and
accepted names its class. In every other case it is read, and the class has a simple name. -/
theorem refusals_of_parse (text className : Option Text) :
    (∀ fault, parse text className = .error fault ↔
      fault = .empty className ∧ (∀ content ∈ text, isBlankText content = true) ∨
      ∃ content ∈ text, isBlankText content = false ∧
        ((∃ digits, fault = .oversized digits ∧
          (startFor className).MeetsOversized (contentLines content) digits) ∨
        fault = .nameless ∧
          (∀ digits, ¬(startFor className).MeetsOversized (contentLines content) digits) ∧
          IsNameless content className)) ∧
    ((∃ summary, parse text className = .ok summary ∧ summary.simpleName ≠ []) ↔
      ∃ content ∈ text, isBlankText content = false ∧
        (∀ digits, ¬(startFor className).MeetsOversized (contentLines content) digits) ∧
        ¬IsNameless content className) := by
  cases text with
  | none =>
    have refused : parse none className = .error (.empty className) := rfl
    simp [refused, @eq_comm Fault]
  | some content =>
    cases visible : isBlankText content with
    | true =>
      have refused : parse (some content) className = .error (.empty className) := by
        simp [parse, visible]
      simp [refused, visible, @eq_comm Fault]
    | false =>
      have refused := @parse_visible_eq_error_iff content className visible
      refine ⟨fun fault => by simp [refused, visible], ?_⟩
      simp only [exists_parse_eq_ok_iff, ne_eq, refused, Option.mem_some_iff, exists_eq_left',
        visible, true_and]
      constructor
      · intro accepted
        have short : ∀ digits, ¬(startFor className).MeetsOversized (contentLines content) digits :=
          fun digits meets => accepted _ (.inl ⟨digits, rfl, meets⟩)
        exact ⟨short, fun nameless => accepted _ (.inr ⟨rfl, short, nameless⟩)⟩
      · rintro ⟨short, named⟩ fault (⟨digits, -, meets⟩ | ⟨-, -, nameless⟩)
        · exact short digits meets
        · exact named nameless

/-- A listing with a row of a variable table whose slot has too many digits. -/
def oversizedRowText : Text :=
  join "\n"
    ["public class a.Pair", ['\x7b'], "  public void swap();", "    descriptor: ()V",
      "      LocalVariableTable:", "        Start  Length  Slot  Name   Signature",
      "            0       5  " ++ List.replicate (digitLimit + 1) '1' ++ "  this   La/Pair;",
      ['\x7d']]

set_option maxRecDepth 100000 in
/-- A listing is refused although it is not blank and both the caller and a declaration that is read
name its class. -/
theorem parse_oversizedRowText :
    isBlankText oversizedRowText = false ∧ ¬IsNameless oversizedRowText (some "a.Pair") ∧
      simpleNameOf "a.Pair" = "Pair" ∧
      ∀ summary, parse (some oversizedRowText) (some "a.Pair") ≠ .ok summary := by
  have refused : parse (some oversizedRowText) (some "a.Pair") =
      .error (.oversized (digitLimit + 1)) := by
    decide +kernel
  refine ⟨by decide +kernel, ?_, by decide +kernel, ?_⟩
  · rintro ⟨unnamed, -⟩
    revert unnamed
    decide +kernel
  · intro summary read
    rw [refused] at read
    contradiction

end JarAtlas.Listing
