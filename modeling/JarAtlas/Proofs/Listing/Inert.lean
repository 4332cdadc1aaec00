import JarAtlas.Proofs.Listing.DeclarationLine
import JarAtlas.Proofs.Listing.Run
import Mathlib.Data.List.TakeDrop

/-!
# Lines without effect

Constant pools, instructions and attributes say nothing about the class: wherever they stand outside
a variable table, a reading stays as it is. A line could still be taken for a member if a descriptor
came next, so a run passes such lines as long as none does.
-/

namespace JarAtlas.Listing

open Text

/-- The words that a member line may begin with. -/
def memberWords : List Text :=
  Member.methodModifiers ++ Member.fieldModifiers ++ Member.passedMethodWords

/-- The line says nothing about the class where no descriptor comes next, and is none itself. -/
def isInert (line : Text) : Bool :=
  shapeOf true line none == .inert && !beginsWith descriptorStart line

/-- The line has no effect where no descriptor follows. What counts only while a method is being
read is asked for only there. -/
structure IsSilent (insideMethod : Bool) (line : Text) : Prop where
  undeclared : isDeclaration line = false
  not_bodyOpening : line ≠ ['\x7b']
  not_tableHeader : line ≠ tableHeader
  not_codeSizes : insideMethod = true → beginsWith "stack=" line = false
  not_switchOpening : insideMethod = true → opensSwitch line = false
  not_staticBlock : beginsWith "static \x7b" line = false
  not_closing : beginsWith ['\x7d'] line = false
  not_trailer : beginsWith "SourceFile:" line = false
  wordless : firstWord line ∉ memberWords

/-- The next line does not describe a member. -/
def IsUndescribed (next : Option Text) : Prop := next.any (beginsWith descriptorStart) = false

theorem listsMethod_eq_false {line : Text} {next : Option Text}
    (wordless : firstWord line ∉ memberWords) (undescribed : IsUndescribed next) :
    listsMethod line next = false := by
  simp only [memberWords, List.mem_append, not_or] at wordless
  rcases wordless with ⟨⟨noModifier, -⟩, noPassed⟩
  unfold listsMethod
  rw [undescribed]
  split
  · rfl
  · simp [noModifier, noPassed]

theorem listsField_eq_false {line : Text} {next : Option Text}
    (wordless : firstWord line ∉ memberWords) (undescribed : IsUndescribed next) :
    listsField line next = false := by
  simp only [memberWords, List.mem_append, not_or] at wordless
  unfold listsField
  rw [undescribed]
  simp [wordless.1.2]

theorem ite_eq_inert_iff {holds : Bool} {shape other : Shape} (telling : shape ≠ .inert) :
    (if holds = true then shape else other) = .inert ↔ holds = false ∧ other = .inert := by
  cases holds with
  | true => simp [telling]
  | false => simp

theorem ite_ne {holds : Bool} {shape other excluded : Shape} (unlike : shape ≠ excluded)
    (behind : other ≠ excluded) : (if holds = true then shape else other) ≠ excluded := by
  cases holds with
  | true => exact unlike
  | false => exact behind

/-- A line is inert exactly if it has none of the shapes that tell something. -/
theorem shapeOf_eq_inert_iff {insideMethod : Bool} {line : Text} {next : Option Text} :
    shapeOf insideMethod line next = .inert ↔
      isDeclaration line = false ∧ (line == ['\x7b']) = false ∧ listsMethod line next = false ∧
        (line == tableHeader) = false ∧ (insideMethod && beginsWith "stack=" line) = false ∧
        (insideMethod && opensSwitch line) = false ∧ beginsWith "static \x7b" line = false ∧
        listsField line next = false ∧ beginsWith ['\x7d'] line = false ∧
        beginsWith "SourceFile:" line = false := by
  unfold shapeOf
  simp only [ite_eq_inert_iff, ne_eq, reduceCtorEq, not_false_eq_true, and_true]

theorem IsSilent.shapeOf {insideMethod : Bool} {line : Text} {next : Option Text}
    (silent : IsSilent insideMethod line) (undescribed : IsUndescribed next) :
    shapeOf insideMethod line next = .inert := by
  have sizes : (insideMethod && beginsWith "stack=" line) = false := by
    cases insideMethod with
    | true => simpa using silent.not_codeSizes rfl
    | false => rfl
  have switches : (insideMethod && opensSwitch line) = false := by
    cases insideMethod with
    | true => simpa using silent.not_switchOpening rfl
    | false => rfl
  have notBrace := beq_eq_false_iff_ne.mpr silent.not_bodyOpening
  have notHeader := beq_eq_false_iff_ne.mpr silent.not_tableHeader
  have noMethod := listsMethod_eq_false silent.wordless undescribed
  have noField := listsField_eq_false silent.wordless undescribed
  exact shapeOf_eq_inert_iff.mpr ⟨silent.undeclared, notBrace, noMethod, notHeader, sizes, switches,
    silent.not_staticBlock, noField, silent.not_closing, silent.not_trailer⟩

/-- An inert line is inert outside methods too. -/
theorem shapeOf_of_isInert {line : Text} {next : Option Text} (insideMethod : Bool)
    (inert : isInert line = true) (undescribed : IsUndescribed next) :
    shapeOf insideMethod line next = .inert := by
  have bare : shapeOf insideMethod line next = shapeOf insideMethod line none :=
    shapeOf_congr insideMethod line undescribed
  rw [isInert, Bool.and_eq_true, beq_iff_eq] at inert
  rw [bare]
  cases insideMethod with
  | true => exact inert.1
  | false =>
    rcases shapeOf_eq_inert_iff.mp inert.1
      with ⟨undeclared, brace, unlisted, header, -, -, behind⟩
    exact shapeOf_eq_inert_iff.mpr ⟨undeclared, brace, unlisted, header, rfl, rfl, behind⟩

theorem not_codeSizes_of_isInert {line : Text} (inert : isInert line = true) :
    beginsWith "stack=" line = false := by
  rw [isInert, Bool.and_eq_true, beq_iff_eq] at inert
  rcases shapeOf_eq_inert_iff.mp inert.1 with ⟨-, -, -, -, sizes, -⟩
  simpa using sizes

theorem beginsWith_descriptorStart_of_isInert {line : Text} (inert : isInert line = true) :
    beginsWith descriptorStart line = false := by
  rw [isInert, Bool.and_eq_true, Bool.not_eq_true'] at inert
  exact inert.2

/-- A line that begins like no line with an effect has none. -/
theorem IsSilent.of_start {insideMethod : Bool} {start line : Text} (begins : start <+: line)
    (unbroken : IsUnbroken start)
    (foreign : ∀ word ∈ declarationWords ++ memberWords ++ [['\x7b'], tableHeader],
      ¬start <+: word)
    (apart : ∀ other ∈ ([['\x7d'], "static \x7b", "SourceFile:"] : List Text),
      ¬start <+: other ∧ ¬other <+: start)
    (inside : insideMethod = true →
      beginsWith "stack=" line = false ∧ opensSwitch line = false) :
    IsSilent insideMethod line := by
  have differs : ∀ other ∈ ([['\x7d'], "static \x7b", "SourceFile:"] : List Text),
      beginsWith other line = false := by
    intro other member
    rw [Bool.eq_false_iff]
    intro otherBegins
    rcases apart other member with ⟨notBefore, notAfter⟩
    rcases List.prefix_or_prefix_of_prefix begins (beginsWith_iff.mp otherBegins)
      with first | second
    · exact notBefore first
    · exact notAfter second
  have opening : start <+: openingWord line :=
    prefix_takeWhile begins (by simpa [IsUnbroken] using unbroken)
  have word : start <+: firstWord line := by
    apply prefix_takeWhile begins
    rw [List.all_eq_true]
    intro character member
    have visible := unbroken character member
    by_contra space
    simp only [ne_eq, decide_not, Bool.not_eq_true', decide_eq_false_iff_not, not_not] at space
    rw [space] at visible
    exact absurd visible (by decide)
  refine ⟨?_, ?_, ?_, fun is => (inside is).1, fun is => (inside is).2, ?_, ?_, ?_, ?_⟩
  · apply isDeclaration_eq_false
    intro known
    exact foreign _ (by simp [known]) opening
  · rintro rfl
    exact foreign _ (by simp) begins
  · rintro rfl
    exact foreign _ (by simp) begins
  · exact differs _ (by simp)
  · exact differs _ (by simp)
  · exact differs _ (by simp)
  · intro known
    exact foreign _ (by simp [known]) word

/-- A descriptor has no effect. -/
theorem isSilent_descriptor {line : Text} (insideMethod : Bool)
    (begins : beginsWith descriptorStart line = true) : IsSilent insideMethod line := by
  rw [beginsWith_iff] at begins
  apply IsSilent.of_start begins (by decide) (by decide) (by decide)
  intro _
  rcases begins with ⟨rest, rfl⟩
  exact ⟨rfl, rfl⟩

/-- Sizes have no effect outside methods. -/
theorem isSilent_codeSizes {line : Text} (begins : beginsWith "stack=" line = true) :
    IsSilent false line :=
  .of_start (beginsWith_iff.mp begins) (by decide) (by decide) (by decide) (by simp)

/-- A text with a digit in front does not begin with a word. -/
theorem beginsWith_eq_false_of_digit {start line : Text}
    (digit : ∃ digit ∈ line.head?, isDigit digit = true)
    (textual : start.head?.map isDigit = some false) : beginsWith start line = false := by
  rcases digit with ⟨digit, head, digital⟩
  rcases Option.map_eq_some_iff.mp textual with ⟨first, begins, letter⟩
  apply beginsWith_eq_false
  · rintro rfl
    simp at begins
  · rw [begins, Option.mem_def.mp head]
    rintro same
    rw [Option.some.inj same, digital] at letter
    contradiction

/-- A line that begins neither with a digit nor like column heads is no line of a variable table. -/
theorem tableLineOf_eq_foreign {line : Text} {first : Char} (head : line.head? = some first)
    (noDigit : isDigit first = false) (noStart : beginsWith "Start" line = false)
    (noSlot : beginsWith "Slot" line = false) : tableLineOf line = .foreign := by
  rcases List.head?_eq_some_iff.mp head with ⟨others, rfl⟩
  have noNumber : numberColumn (first :: others) = none := by
    simp [numberColumn, List.span_eq_takeWhile_dropWhile, noDigit]
  unfold tableLineOf
  rw [noStart, noSlot]
  simp [tableRow?, noNumber]

/-- A line that begins with a digit has no effect outside methods. -/
theorem IsSilent.of_digit {line : Text}
    (begins : ∃ digit ∈ line.head?, isDigit digit = true) : IsSilent false line := by
  rcases begins with ⟨digit, head, digital⟩
  rcases List.head?_eq_some_iff.mp head with ⟨others, rfl⟩
  have differs : ∀ other ∈ declarationWords ++ memberWords ++
      ([['\x7b'], tableHeader, ['\x7d'], "static \x7b", "SourceFile:"] : List Text),
      ¬other <+: digit :: others := by
    intro other member starts
    have textual : ∀ other ∈ declarationWords ++ memberWords ++
        ([['\x7b'], tableHeader, ['\x7d'], "static \x7b", "SourceFile:"] : List Text),
        other.head?.map isDigit = some false := by decide
    rcases Option.map_eq_some_iff.mp (textual other member) with ⟨first, first_head, letter⟩
    rcases List.head?_eq_some_iff.mp first_head with ⟨rest, rfl⟩
    rw [List.cons_prefix_cons] at starts
    rw [starts.1, digital] at letter
    contradiction
  have absent : ∀ other ∈ ([['\x7d'], "static \x7b", "SourceFile:"] : List Text),
      beginsWith other (digit :: others) = false := by
    intro other member
    rw [Bool.eq_false_iff]
    intro starts
    exact differs other (by simp at member ⊢; tauto) (beginsWith_iff.mp starts)
  refine ⟨?_, ?_, ?_, by simp, by simp, ?_, ?_, ?_, ?_⟩
  · apply isDeclaration_eq_false
    intro known
    exact differs (openingWord (digit :: others)) (by simp [known]) (List.takeWhile_prefix _)
  · intro same
    exact differs ['\x7b'] (by simp) (same ▸ List.prefix_refl _)
  · intro same
    exact differs tableHeader (by simp) (same ▸ List.prefix_refl _)
  · exact absent _ (by simp)
  · exact absent _ (by simp)
  · exact absent _ (by simp)
  · intro known
    exact differs (firstWord (digit :: others)) (by simp [known]) (List.takeWhile_prefix _)

/-! ### Passing lines -/

theorem isDescribed_cons (line : Text) (lines : List Text) :
    isDescribed (line :: lines) =
      if line = [] then isDescribed lines else beginsWith descriptorStart line := by
  unfold isDescribed nextContent
  cases line with
  | nil => rfl
  | cons character line => rfl

/-- Lines without a descriptor hide none behind them. -/
theorem isDescribed_append {lines rest : List Text}
    (bare : ∀ line ∈ lines, beginsWith descriptorStart line = false)
    (undescribed : isDescribed rest = false) : isDescribed (lines ++ rest) = false := by
  induction lines with
  | nil => exact undescribed
  | cons line lines ih =>
    rw [List.cons_append, isDescribed_cons]
    split
    · exact ih fun line member => bare line (List.mem_cons_of_mem _ member)
    · exact bare line List.mem_cons_self

theorem isDescribed_inert {lines rest : List Text} (inert : ∀ line ∈ lines, isInert line = true)
    (undescribed : isDescribed rest = false) : isDescribed (lines ++ rest) = false :=
  isDescribed_append (fun line member => beginsWith_descriptorStart_of_isInert (inert line member))
    undescribed

namespace Reading

theorem feed_eq_feedLine {reading : Reading} (line : Text) (next : Option Text)
    (outside : reading.phase ≠ .inTable) : reading.feed line next = reading.feedLine line next := by
  unfold feed
  split
  · contradiction
  · rfl

/-- A run passes a line that has no effect. -/
theorem run_silent {reading : Reading} {line : Text} {rest : List Text}
    (outside : reading.phase ≠ .inTable)
    (silent : shapeOf reading.current.isSome line (nextContent rest) = .inert) :
    reading.run (line :: rest) = reading.run rest := by
  rw [run_cons, feed_eq_feedLine line _ outside]
  unfold feedLine
  rw [silent]

/-- A run passes inert lines. -/
theorem run_inert {reading : Reading} {lines rest : List Text}
    (outside : reading.phase ≠ .inTable) (inert : ∀ line ∈ lines, isInert line = true)
    (undescribed : isDescribed rest = false) : reading.run (lines ++ rest) = reading.run rest := by
  induction lines with
  | nil => rfl
  | cons line lines ih =>
    have others : ∀ line ∈ lines, isInert line = true := fun line member =>
      inert line (List.mem_cons_of_mem _ member)
    have silent : shapeOf reading.current.isSome line (nextContent (lines ++ rest)) = .inert :=
      shapeOf_of_isInert _ (inert line List.mem_cons_self) (isDescribed_inert others undescribed)
    rw [List.cons_append, run_silent outside silent]
    exact ih others

end Reading

end JarAtlas.Listing
