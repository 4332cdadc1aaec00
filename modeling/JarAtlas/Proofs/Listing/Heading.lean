import JarAtlas.Proofs.Listing.Effects
import JarAtlas.Proofs.Listing.Inert
import Mathlib.Data.List.TakeDrop

/-!
# Where the heading of a class comes from

The kind, the modifiers, the superclass and the interfaces of a class are its heading. Only a
declaration line that the grammar accepts says anything about them, and it says all four at once, so
the heading of a class is that of the last such line among the lines that are read. Rows and column
heads of a variable table begin unlike any declaration, so a table hides none.

The heading and the names make up what a class is apart from its members, its outline: a run makes of
it what the accepted declarations make of it one after the other.
-/

namespace JarAtlas

/-- What a class is declared to be, its name apart. -/
structure Heading where
  kind : Option ClassKind
  modifiers : List Text
  superclass : Option Text
  interfaces : List Text
deriving DecidableEq

/-- The heading of a class that no line declares. -/
def Heading.undeclared : Heading :=
  { kind := none, modifiers := [], superclass := none, interfaces := [] }

/-- The class without its members. -/
def ClassSummary.outline (summary : ClassSummary) : ClassSummary :=
  { summary with fields := [], methods := [] }

theorem ClassSummary.outline_declare (summary : ClassSummary) (declaration : Declaration) :
    (summary.declare declaration).outline = summary.outline.declare declaration := by
  unfold declare
  by_cases nameless : summary.simpleName.isEmpty = true
  · simp only [outline, nameless]
    split_ifs <;> rfl
  · simp only [outline, nameless]
    split_ifs <;> rfl

def ClassSummary.heading (summary : ClassSummary) : Heading :=
  { kind := summary.kind, modifiers := summary.modifiers, superclass := summary.superclass,
    interfaces := summary.interfaces }

def Declaration.heading (declaration : Declaration) : Heading :=
  { kind := some declaration.kind, modifiers := declaration.modifiers,
    superclass := declaration.superclass?, interfaces := declaration.interfaces }

theorem ClassSummary.heading_declare (summary : ClassSummary) (declaration : Declaration) :
    (summary.declare declaration).heading = declaration.heading := by
  simp [declare, heading, Declaration.heading]

namespace Listing

open Text

/-- The declaration that a line makes, if it looks like one and the grammar accepts it. -/
def declarationOf? (line : Text) : Option Declaration :=
  if isDeclaration line then (Declaration.parse line).toOption else none

/-! ### One line -/

theorem exists_declarationWord_prefix {line : Text} (declares : isDeclaration line = true) :
    ∃ word ∈ declarationWords, word <+: line := by
  refine ⟨openingWord line, ?_, List.takeWhile_prefix _⟩
  by_contra foreign
  simp [isDeclaration_eq_false foreign] at declares

/-- A declaration line is no line of a variable table. -/
theorem tableLineOf_of_isDeclaration {line : Text} (declares : isDeclaration line = true) :
    tableLineOf line = .foreign := by
  have starts : ∀ word ∈ declarationWords,
      word.head?.any (fun first => first != 'S' && !isDigit first) = true := by
    decide
  rcases exists_declarationWord_prefix declares with ⟨word, known, rest, rfl⟩
  rcases (Option.any_eq_true _ _).mp (starts word known) with ⟨first, isFirst, apart⟩
  have noHead : first ≠ 'S' := by simpa using (Bool.and_eq_true_iff.mp apart).1
  have noDigit : isDigit first = false := by simpa using (Bool.and_eq_true_iff.mp apart).2
  have head : (word ++ rest).head? = some first := by
    rcases List.head?_eq_some_iff.mp isFirst with ⟨others, rfl⟩
    rfl
  have headless : ∀ start : Text, start.head? = some 'S' → beginsWith start (word ++ rest) = false := by
    intro start begins
    apply beginsWith_eq_false
    · rintro rfl
      contradiction
    · rw [begins, head]
      simpa using Ne.symm noHead
  exact tableLineOf_eq_foreign head noDigit (headless _ rfl) (headless _ rfl)

namespace Reading

variable {reading after : Reading} {line : Text} {next : Option Text}

theorem outline_declare (reading : Reading) (line : Text) :
    (reading.declare line).settled.outline =
      (Declaration.parse line).toOption.elim reading.settled.outline
        reading.settled.outline.declare := by
  unfold declare
  cases Declaration.parse line with
  | error error => rfl
  | ok declaration => exact reading.settled.outline_declare declaration

theorem shapeOf_ne_declaration {inside : Bool} (undeclared : isDeclaration line = false) :
    shapeOf inside line next ≠ .declaration := by
  rw [shapeOf, if_neg (by simp [undeclared])]
  repeat' refine ite_ne (by decide) ?_
  decide

theorem outline_of_undeclared (undeclared : isDeclaration line = false)
    (fed : (reading.feedLine line next).reading? = some after) :
    after.settled.outline = reading.settled.outline := by
  unfold feedLine at fed
  generalize isShape : shapeOf reading.current.isSome line next = shape at fed
  cases shape with
  | declaration => exact absurd isShape (shapeOf_ne_declaration undeclared)
  | codeSizes =>
    rcases eq_of_takeSizes fed with rfl | ⟨size, rfl⟩
    · rfl
    · rfl
  | method | tableHeader | field | closing =>
    dsimp only at fed
    repeat' split at fed
    all_goals
      cases fed
      rfl
  | bodyOpening | switchOpening | staticBlock | trailer | inert =>
    cases fed
    rfl

theorem outline_of_feedLine (fed : (reading.feedLine line next).reading? = some after) :
    after.settled.outline =
      (declarationOf? line).elim reading.settled.outline reading.settled.outline.declare := by
  cases declares : isDeclaration line with
  | false => simpa [declarationOf?, declares] using outline_of_undeclared declares fed
  | true =>
    simp only [feedLine, shapeOf, declares, if_true] at fed
    cases fed
    simpa [declarationOf?, declares] using reading.outline_declare line

/-- A line takes over what it declares, and any other line leaves the outline. -/
theorem outline_of_feed (fed : (reading.feed line next).reading? = some after) :
    after.settled.outline =
      (declarationOf? line).elim reading.settled.outline reading.settled.outline.declare := by
  unfold feed at fed
  split at fed
  · cases declares : isDeclaration line with
    | true =>
      rw [tableLineOf_of_isDeclaration declares] at fed
      exact @outline_of_feedLine { reading with phase := .inBody } _ _ _ fed
    | false =>
      have silent : declarationOf? line = none := by simp [declarationOf?, declares]
      rw [silent]
      cases kind : tableLineOf line with
      | foreign =>
        rw [kind] at fed
        exact @outline_of_undeclared { reading with phase := .inBody } _ _ _ declares fed
      | row slot name =>
        rw [kind] at fed
        dsimp only at fed
        split at fed
        · contradiction
        · cases fed
          rfl
      | blank | columnHeads =>
        rw [kind] at fed
        cases fed
        rfl
  · exact outline_of_feedLine fed

/-- A line takes over the heading that it declares, and any other line leaves the heading. -/
theorem heading_of_feed (fed : (reading.feed line next).reading? = some after) :
    after.settled.heading =
      (declarationOf? line).elim reading.settled.heading Declaration.heading := by
  have stepped := congrArg ClassSummary.heading (outline_of_feed fed)
  cases declared : declarationOf? line with
  | none =>
    rw [declared] at stepped
    exact stepped
  | some declaration =>
    rw [declared] at stepped
    exact stepped.trans (ClassSummary.heading_declare _ _)

/-! ### All lines -/

@[simp] theorem outline_endMethod (reading : Reading) :
    reading.endMethod.settled.outline = reading.settled.outline := rfl

/-- The lines that a run reads: all of them, or those up to the one that ends it. -/
def linesRead (reading : Reading) : List Text → List Text
  | [] => []
  | line :: lines =>
      match reading.feed line (nextContent lines) with
      | .next after => line :: after.linesRead lines
      | _ => [line]

theorem linesRead_prefix (reading : Reading) (lines : List Text) :
    reading.linesRead lines <+: lines := by
  induction lines generalizing reading with
  | nil => exact List.prefix_rfl
  | cons line lines ih =>
    unfold linesRead
    split
    · simpa using ih _
    · simp

theorem outline_of_run {lines : List Text} {summary : ClassSummary}
    (ran : reading.run lines = .ok summary) :
    summary.outline = ((reading.linesRead lines).filterMap declarationOf?).foldl
      ClassSummary.declare reading.settled.outline := by
  induction lines generalizing reading with
  | nil =>
    cases ran
    rfl
  | cons line lines ih =>
    rw [run_cons] at ran
    unfold linesRead
    cases step : reading.feed line (nextContent lines) with
    | next after =>
      rw [step] at ran
      have stepped := outline_of_feed (congrArg Step.reading? step)
      rw [ih ran, stepped]
      cases declared : declarationOf? line <;> simp [declared]
    | closed after =>
      rw [step] at ran
      cases ran
      have stepped := outline_of_feed (congrArg Step.reading? step)
      cases declared : declarationOf? line <;> simpa [declared] using stepped
    | oversized digits =>
      rw [step] at ran
      contradiction

end Reading

/-- Of declarations one after the other the last gives the heading. -/
theorem heading_foldl_declare (declarations : List Declaration) (summary : ClassSummary) :
    (declarations.foldl ClassSummary.declare summary).heading =
      declarations.getLast?.elim summary.heading Declaration.heading := by
  rcases List.eq_nil_or_concat declarations with rfl | ⟨front, last, rfl⟩
  · rfl
  · rw [List.concat_eq_append, List.foldl_append, List.getLast?_concat]
    exact ClassSummary.heading_declare _ last

theorem heading_of_run {reading : Reading} {lines : List Text} {summary : ClassSummary}
    (ran : reading.run lines = .ok summary) :
    summary.heading = ((reading.linesRead lines).filterMap declarationOf?).getLast?.elim
      reading.settled.heading Declaration.heading :=
  (congrArg ClassSummary.heading (Reading.outline_of_run ran)).trans (heading_foldl_declare _ _)

/-- The heading of a class is that of the last accepted declaration among the lines that are read,
and nothing is known of it where there is none: each line that the grammar accepts gives all four
parts at once, and every other line leaves them. -/
theorem heading_of_parse {text : Text} {className : Option Text} {summary : ClassSummary}
    (parsed : parse (some text) className = .ok summary) :
    (startFor className).linesRead (contentLines text) <+: contentLines text ∧
      summary.heading =
        (((startFor className).linesRead (contentLines text)).filterMap declarationOf?).getLast?.elim
          .undeclared Declaration.heading ∧
      ∀ (reading after : Reading) (line : Text) (next : Option Text),
        (reading.feed line next).reading? = some after →
        after.settled.heading =
          (declarationOf? line).elim reading.settled.heading Declaration.heading := by
  refine ⟨Reading.linesRead_prefix _ _, ?_, fun _ _ _ _ => Reading.heading_of_feed⟩
  rcases parse_eq_ok_iff.mp parsed with ⟨-, ran, -⟩
  exact heading_of_run ran

/-- A listing with a second declaration behind a variable table, a line that only looks like one,
and another declaration behind the end of the class. -/
def redeclaredText : Text :=
  join "\n"
    ["public final class a.Pair extends b.Base implements c.First", ['\x7b'],
      "  void swap(int);", "    descriptor: (I)V", "      LocalVariableTable:",
      "        Start  Length  Slot  Name   Signature", "            0       5     0  size   I",
      "abstract interface a.Pair extends c.First, c.Second", "public class a.Pair extends",
      ['\x7d'], "final class z.Last"]

theorem heading_of_redeclared :
    ∃ summary, parse (some redeclaredText) none = .ok summary ∧
      summary.methods.map MethodSummary.parameters = ([["int size"]] : List (List Text)) ∧
      summary.heading =
        { kind := some .interface, modifiers := ["abstract"], superclass := none
          interfaces := ["c.First", "c.Second"] } := by
  have parsed : parse (some redeclaredText) none = .ok
      { kind := some .interface, packageName := "a", simpleName := "Pair", modifiers := ["abstract"]
        superclass := none, interfaces := ["c.First", "c.Second"], fields := []
        methods :=
          [{ name := "swap", returnType := "void", modifiers := [], parameters := ["int size"] }] } := by
    decide +kernel
  exact ⟨_, parsed, rfl, (heading_of_parse parsed).2.1.trans (by decide +kernel)⟩

end Listing

end JarAtlas
