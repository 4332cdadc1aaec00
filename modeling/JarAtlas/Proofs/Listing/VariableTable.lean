import JarAtlas.Proofs.Declaration.Identifier
import JarAtlas.Proofs.Listing.Finishing
import JarAtlas.Proofs.Listing.Inert
import JarAtlas.Proofs.Listing.Slots
import JarAtlas.Proofs.Text.Decimal
import Mathlib.Data.List.TakeDrop

/-!
# Variable tables

A row of a variable table is written in five columns, and reading it gives back its slot and its
name. A table is a header, column heads, rows in any order and a line that ends it: a blank one or
the header of the next attribute. Behind it the method being read has all its rows, in their order.
-/

namespace JarAtlas.Listing

open Text

/-- Blanks between two columns. -/
def IsGap (gap : Text) : Prop := gap ≠ [] ∧ ∀ character ∈ gap, isBlank character = true

instance : DecidablePred IsGap := fun gap =>
  have := List.decidableBAll (fun character => isBlank character = true) gap
  inferInstanceAs (Decidable (gap ≠ [] ∧ ∀ character ∈ gap, isBlank character = true))

theorem passBlanks_append {gap rest : Text} (isGap : IsGap gap) (visible : IsVisible rest) :
    passBlanks (gap ++ rest) = some rest := by
  rcases isGap with ⟨nonempty, blank⟩
  rcases visible with ⟨first, head, isVisible⟩
  rcases List.head?_eq_some_iff.mp head with ⟨others, rfl⟩
  cases gap with
  | nil => exact absurd rfl nonempty
  | cons character gap =>
    have blanks : ∀ other ∈ gap, isBlank other = true := fun other member =>
      blank other (List.mem_cons_of_mem _ member)
    rw [List.cons_append, passBlanks, if_pos (blank character List.mem_cons_self),
      List.dropWhile_append_of_pos blanks, List.dropWhile_cons_of_neg (by simp [isVisible])]

/-- A word of a kind is split from blanks behind it. -/
theorem span_append_gap {kind : Char → Bool} {word gap : Text} (rest : Text)
    (pure : ∀ character ∈ word, kind character = true) (isGap : IsGap gap)
    (foreign : ∀ character, isBlank character = true → kind character = false) :
    (word ++ (gap ++ rest)).span kind = (word, gap ++ rest) := by
  rcases isGap with ⟨nonempty, blank⟩
  cases gap with
  | nil => exact absurd rfl nonempty
  | cons character gap =>
    have stops : kind character = false := foreign character (blank character List.mem_cons_self)
    rw [List.span_eq_takeWhile_dropWhile, List.takeWhile_append_of_pos pure,
      List.dropWhile_append_of_pos pure]
    simp [stops]

/-- The digits of a number. -/
def IsNumber (digits : Text) : Prop := digits ≠ [] ∧ ∀ digit ∈ digits, isDigit digit = true

instance : DecidablePred IsNumber := fun digits =>
  have := List.decidableBAll (fun digit => isDigit digit = true) digits
  inferInstanceAs (Decidable (digits ≠ [] ∧ ∀ digit ∈ digits, isDigit digit = true))

theorem isNumber_ofNat (number : Nat) : IsNumber (ofNat number) :=
  ⟨ofNat_ne_nil number, fun _ => isDigit_of_mem_ofNat⟩

theorem IsNumber.exists_digit {digits : Text} (isNumber : IsNumber digits) :
    ∃ digit ∈ digits.head?, isDigit digit = true := by
  rcases isNumber with ⟨nonempty, digital⟩
  rcases List.exists_cons_of_ne_nil nonempty with ⟨first, others, rfl⟩
  exact ⟨first, rfl, digital first List.mem_cons_self⟩

theorem IsNumber.isVisible {digits : Text} (isNumber : IsNumber digits) : IsVisible digits := by
  rcases isNumber.exists_digit with ⟨first, head, digital⟩
  exact ⟨first, head, isBlank_eq_false_of_isDigit digital⟩

theorem numberColumn_append {digits gap rest : Text} (isNumber : IsNumber digits)
    (isGap : IsGap gap) (visible : IsVisible rest) :
    numberColumn (digits ++ (gap ++ rest)) = some (digits, rest) := by
  have split := span_append_gap rest isNumber.2 isGap fun _ => isDigit_eq_false_of_isBlank
  unfold numberColumn
  rw [split]
  dsimp only
  rw [if_neg (by simp [isNumber.1]), passBlanks_append isGap visible]
  rfl

/-- A row of a variable table as it is written, with the gaps between its columns: three numbers, a
word and a type. -/
structure WrittenRow where
  start : Text
  length : Text
  slot : Text
  name : Text
  type : Text
  startGap : Text
  lengthGap : Text
  slotGap : Text
  nameGap : Text
  numbers : IsNumber start ∧ IsNumber length ∧ IsNumber slot
  named : name ≠ []
  unbroken : IsUnbroken name
  typed : IsVisible type
  gaps : IsGap startGap ∧ IsGap lengthGap ∧ IsGap slotGap ∧ IsGap nameGap

namespace WrittenRow

/-- The line of a row. -/
def line (row : WrittenRow) : Text :=
  row.start ++ (row.startGap ++ (row.length ++ (row.lengthGap ++ (row.slot ++
    (row.slotGap ++ (row.name ++ (row.nameGap ++ row.type)))))))

theorem isVisible_name (row : WrittenRow) : IsVisible row.name := by
  rcases List.exists_cons_of_ne_nil row.named with ⟨first, others, shape⟩
  exact ⟨first, by rw [shape]; rfl, row.unbroken first (by simp [shape])⟩

theorem exists_digit_line (row : WrittenRow) :
    ∃ digit ∈ row.line.head?, isDigit digit = true := by
  rcases row.numbers.1.exists_digit with ⟨digit, head, digital⟩
  refine ⟨digit, ?_, digital⟩
  rw [Option.mem_def] at head ⊢
  simp [line, head]

theorem line_ne_nil (row : WrittenRow) : row.line ≠ [] := by
  intro empty
  simpa [empty] using row.exists_digit_line

/-- A character of the name that no identifier has stands where a blank is looked for. -/
theorem exists_span_name (row : WrittenRow)
    (broken : row.name.all Declaration.isIdentifierPart = false) :
    ∃ front rest, passBlanks rest = none ∧
      (row.name ++ (row.nameGap ++ row.type)).span Declaration.isIdentifierPart = (front, rest) := by
  have remains : row.name.dropWhile Declaration.isIdentifierPart ≠ [] := by
    rw [ne_eq, List.dropWhile_eq_nil_iff, ← List.all_eq_true, broken]
    exact Bool.false_ne_true
  rcases List.exists_cons_of_ne_nil remains with ⟨other, others, shape⟩
  have member : other ∈ row.name := (List.dropWhile_suffix _).subset (shape ▸ List.mem_cons_self)
  refine ⟨_, _, ?_, List.span_eq_takeWhile_dropWhile _ _⟩
  simp [List.dropWhile_append, shape, passBlanks, row.unbroken other member]

/-- A row is read as its slot and its name, if identifiers may have all characters of the name. -/
theorem tableRow?_line (row : WrittenRow) :
    tableRow? row.line =
      if row.name.all Declaration.isIdentifierPart then some (row.slot, row.name) else none := by
  rcases row.numbers with ⟨start, length, slot⟩
  rcases row.gaps with ⟨startGap, lengthGap, slotGap, nameGap⟩
  unfold tableRow? line
  rw [numberColumn_append start startGap (length.isVisible.append _)]
  simp only [Option.bind_eq_bind, Option.bind_some]
  rw [numberColumn_append length lengthGap (slot.isVisible.append _)]
  simp only [Option.bind_some]
  rw [numberColumn_append slot slotGap (row.isVisible_name.append _)]
  simp only [Option.bind_some]
  cases whole : row.name.all Declaration.isIdentifierPart with
  | true =>
    have split := span_append_gap row.type (List.all_eq_true.mp whole) nameGap
      fun _ => Declaration.isIdentifierPart_eq_false_of_isBlank
    have typed : row.type ≠ [] := by
      rcases row.typed with ⟨first, head, -⟩
      intro empty
      simp [empty] at head
    rw [split]
    simp only [passBlanks_append nameGap row.typed, Option.bind_some]
    rw [if_neg (by simp [row.named, typed])]
    rfl
  | false =>
    rcases row.exists_span_name whole with ⟨front, rest, unbroken, split⟩
    rw [split]
    simp [unbroken]

theorem tableLineOf_line (row : WrittenRow) :
    tableLineOf row.line =
      if row.name.all Declaration.isIdentifierPart then .row row.slot row.name else .foreign := by
  have digit := row.exists_digit_line
  unfold tableLineOf
  rw [if_neg (by simpa using row.line_ne_nil), beginsWith_eq_false_of_digit digit (by decide),
    beginsWith_eq_false_of_digit digit (by decide), row.tableRow?_line]
  cases row.name.all Declaration.isIdentifierPart <;> rfl

end WrittenRow

/-- A row of a variable table as it is written, with the gaps between its columns. -/
structure TableRow where
  start : Nat
  length : Nat
  slot : Nat
  name : Text
  type : Text
  startGap : Text
  lengthGap : Text
  slotGap : Text
  nameGap : Text
  short : (ofNat slot).length ≤ digitLimit
  named : name ≠ []
  whole : name.all Declaration.isIdentifierPart = true
  typed : ∃ first ∈ type.head?, isBlank first = false
  gaps : IsGap startGap ∧ IsGap lengthGap ∧ IsGap slotGap ∧ IsGap nameGap

/-- The line of a row. -/
def TableRow.line (row : TableRow) : Text :=
  ofNat row.start ++ (row.startGap ++ (ofNat row.length ++ (row.lengthGap ++ (ofNat row.slot ++
    (row.slotGap ++ (row.name ++ (row.nameGap ++ row.type)))))))

namespace TableRow

/-- The row with its numbers written out. -/
def written (row : TableRow) : WrittenRow where
  start := ofNat row.start
  length := ofNat row.length
  slot := ofNat row.slot
  name := row.name
  type := row.type
  startGap := row.startGap
  lengthGap := row.lengthGap
  slotGap := row.slotGap
  nameGap := row.nameGap
  numbers := ⟨isNumber_ofNat _, isNumber_ofNat _, isNumber_ofNat _⟩
  named := row.named
  unbroken character member :=
    Declaration.isBlank_eq_false_of_isIdentifierPart (List.all_eq_true.mp row.whole character member)
  typed := row.typed
  gaps := row.gaps

theorem written_line (row : TableRow) : row.written.line = row.line := rfl

/-- A row is read as its slot and its name. -/
theorem tableLineOf_line (row : TableRow) :
    tableLineOf row.line = .row (ofNat row.slot) row.name := by
  rw [← row.written_line, row.written.tableLineOf_line]
  exact if_pos row.whole

end TableRow

/-- A variable table as it is written: column heads, rows, and the line that ends it, which may be
blank or the header of the next attribute. -/
structure VariableTable where
  heads : Text
  rows : List TableRow
  ending : Text
  headed : beginsWith "Start" heads = true ∨ beginsWith "Slot" heads = true
  inert : isInert ending = true
  unheaded : beginsWith "Start" ending = false ∧ beginsWith "Slot" ending = false
  rowless : tableRow? ending = none

namespace VariableTable

/-- The lines of a table. -/
def lines (table : VariableTable) : List Text :=
  tableHeader :: table.heads :: (table.rows.map TableRow.line ++ [table.ending])

/-- The slots and the names of the rows. -/
def names (table : VariableTable) : List (Nat × Text) :=
  table.rows.map fun row => (row.slot, row.name)

end VariableTable

theorem shapeOf_tableHeader (insideMethod : Bool) (next : Option Text) :
    shapeOf insideMethod tableHeader next = .tableHeader := by
  have undeclared : isDeclaration tableHeader = false := isDeclaration_eq_false (by decide)
  unfold shapeOf
  rw [undeclared]
  cases insideMethod <;> rfl

theorem tableLineOf_heads {heads : Text}
    (headed : beginsWith "Start" heads = true ∨ beginsWith "Slot" heads = true) :
    tableLineOf heads = .columnHeads := by
  have nonempty : heads ≠ [] := by
    rintro rfl
    exact absurd headed (by decide)
  unfold tableLineOf
  rw [if_neg (by simpa using nonempty), if_pos (by simpa using headed)]

namespace Reading

/-- The reading inside the variable table of a method. -/
def insideTable (reading : Reading) (method : OpenMethod) : Reading :=
  { reading with phase := .inTable, current := some method }

/-- The reading in the body of a method. -/
def insideBody (reading : Reading) (method : OpenMethod) : Reading :=
  { reading with phase := .inBody, current := some method }

/-- The rows of a table are collected in their order. -/
theorem run_rows (reading : Reading) (method : OpenMethod) (rows : List TableRow)
    (rest : List Text) :
    (reading.insideTable method).run (rows.map TableRow.line ++ rest) =
      (reading.insideTable { method with
        rows := method.rows ++ rows.map fun row => (row.slot, row.name) }).run rest := by
  induction rows generalizing method with
  | nil => simp
  | cons row rows ih =>
    have fed : (reading.insideTable method).feed row.line
        (nextContent (rows.map TableRow.line ++ rest)) =
        .next (reading.insideTable (method.addRow row.slot row.name)) := by
      unfold feed insideTable
      dsimp only
      rw [row.tableLineOf_line]
      dsimp only
      rw [number?_ofNat row.short]
      rfl
    rw [List.map_cons, List.cons_append, run_cons, fed]
    dsimp only
    rw [ih]
    simp [OpenMethod.addRow]

/-- A blank line settles the method, and the header of another attribute leaves it as it is. -/
theorem run_tableEnd (reading : Reading) (method : OpenMethod) (table : VariableTable)
    {rest : List Text} (undescribed : isDescribed rest = false) :
    ∃ after, after.settle = method.settle ∧
      (reading.insideTable method).run (table.ending :: rest) =
        (reading.insideBody after).run rest := by
  rw [run_cons]
  unfold feed insideTable
  dsimp only
  by_cases blank : table.ending = []
  · have line : tableLineOf table.ending = .blank := by
      rw [blank]
      rfl
    refine ⟨method.settle, OpenMethod.settle_of_settled method.settle_settled, ?_⟩
    rw [line]
    rfl
  · have line : tableLineOf table.ending = .foreign := by
      unfold tableLineOf
      rw [if_neg (by simpa using blank), table.unheaded.1, table.unheaded.2, table.rowless]
      rfl
    refine ⟨method, rfl, ?_⟩
    rw [line]
    dsimp only
    unfold feedLine
    dsimp only
    rw [Option.isSome_some, shapeOf_of_isInert true table.inert undescribed]
    rfl

/-- Behind a table the method being read has the rows of the table, settled or not. -/
theorem run_table {reading : Reading} {method : OpenMethod} (table : VariableTable)
    {rest : List Text} (outside : reading.phase ≠ .inTable)
    (current : reading.current = some method) (unsettled : method.settled = none)
    (undescribed : isDescribed rest = false) :
    ∃ after, after.settle = { method with rows := method.rows ++ table.names }.settle ∧
      reading.run (table.lines ++ rest) = (reading.insideBody after).run rest := by
  have inTable : { reading with phase := .inTable } = reading.insideTable method := by
    simp [insideTable, current]
  have header : ∀ next, reading.feed tableHeader next = .next (reading.insideTable method) := by
    intro next
    rw [feed_eq_feedLine _ _ outside]
    unfold feedLine
    rw [shapeOf_tableHeader]
    dsimp only
    rw [if_pos (by simp [current, unsettled]), inTable]
  have heads : ∀ next, (reading.insideTable method).feed table.heads next =
      .next (reading.insideTable method) := by
    intro next
    unfold feed insideTable
    dsimp only
    rw [tableLineOf_heads table.headed]
  rcases run_tableEnd reading { method with rows := method.rows ++ table.names } table undescribed
    with ⟨after, settles, runs⟩
  refine ⟨after, settles, ?_⟩
  rw [VariableTable.lines, List.cons_append, run_cons, header]
  dsimp only
  rw [List.cons_append, run_cons, heads]
  dsimp only
  rw [List.append_assoc, run_rows, List.singleton_append, ← VariableTable.names, runs]

end Reading

/-! ### Names -/

/-- The rows name the parameters whose first slot and number are given: every row of a parameter's
slot has its name, and a parameter without a row is named by its number. -/
def NamesGiven (rows : List (Nat × Text)) : (slot number : Nat) → List (Text × Text) → Prop
  | _, _, [] => True
  | slot, number, (type, name) :: others =>
    (∀ row ∈ rows, row.1 = slot → row.2 = name) ∧
      ((∃ row ∈ rows, row.1 = slot) ∨ name = ("param" : Text) ++ ofNat number) ∧
        NamesGiven rows (slot + OpenMethod.slotWidth type) (number + 1) others

instance decidableNamesGiven (rows : List (Nat × Text)) : (slot number : Nat) →
    (parameters : List (Text × Text)) → Decidable (NamesGiven rows slot number parameters)
  | _, _, [] => .isTrue trivial
  | slot, number, (type, name) :: others =>
    have := decidableNamesGiven rows (slot + OpenMethod.slotWidth type) (number + 1) others
    inferInstanceAs (Decidable ((∀ row ∈ rows, row.1 = slot → row.2 = name) ∧
      ((∃ row ∈ rows, row.1 = slot) ∨ name = ("param" : Text) ++ ofNat number) ∧
        NamesGiven rows (slot + OpenMethod.slotWidth type) (number + 1) others))

theorem rowName?_eq_some {rows : List (Nat × Text)} {slot : Nat} {name : Text}
    (agree : ∀ row ∈ rows, row.1 = slot → row.2 = name) (named : ∃ row ∈ rows, row.1 = slot) :
    OpenMethod.rowName? rows slot = some name := by
  rcases named with ⟨row, member, same⟩
  cases found : OpenMethod.rowName? rows slot with
  | none => exact absurd same (OpenMethod.rowName?_eq_none_iff.mp found row member)
  | some other =>
    rcases OpenMethod.rowName?_eq_some_iff.mp found with ⟨front, behind, split, -⟩
    rw [← agree (slot, other) (by simp [split]) rfl]

/-- Parameters that their line does not name are named by the rows or by their number. -/
theorem nameFrom_eq {rows : List (Nat × Text)} {slot number : Nat}
    {parameters : List (Text × Text)} (given : NamesGiven rows slot number parameters) :
    OpenMethod.nameFrom rows slot number (parameters.map fun parameter => (parameter.1, none)) =
      parameters.map fun parameter => parameter.1 ++ ' ' :: parameter.2 := by
  induction parameters generalizing slot number with
  | nil => rfl
  | cons parameter others ih =>
    rcases parameter with ⟨type, name⟩
    rcases given with ⟨agree, either, rest⟩
    have first : ((OpenMethod.rowName? rows slot).or none).getD
        (("param" : Text) ++ ofNat number) = name := by
      by_cases named : ∃ row ∈ rows, row.1 = slot
      · rw [rowName?_eq_some agree named]
        rfl
      · have unlisted : ∀ row ∈ rows, row.1 ≠ slot := fun row member same =>
          named ⟨row, member, same⟩
        rw [OpenMethod.rowName?_eq_none_iff.mpr unlisted, either.resolve_left named]
        rfl
    rw [List.map_cons, OpenMethod.nameFrom, ih rest, first, List.map_cons]

end JarAtlas.Listing
