import JarAtlas.Proofs.Listing.Slots
import JarAtlas.Proofs.Listing.SwitchBlock
import JarAtlas.Proofs.Listing.VariableTable

/-!
# Rows of local variables

A variable table lists the local variables among the parameters, in any order. A row of a slot that
is no parameter's makes no difference: two readings whose methods differ in such a row go on side by
side until the method is settled, and there it is settled alike.

This holds of rows that are read as rows. A name with a character that no identifier has is taken
for the header of the next attribute, so such a row ends the table, and the names behind it are lost.
-/

namespace JarAtlas.Listing

open Text

/-- A row is no instruction, for a blank stands behind its first number. -/
theorem WrittenRow.opensSwitch_line (row : WrittenRow) : opensSwitch row.line = false := by
  have noColon : ∀ rest, after? [':'] (row.startGap ++ rest) = none := by
    intro rest
    rcases row.gaps.1 with ⟨nonempty, blank⟩
    rcases List.exists_cons_of_ne_nil nonempty with ⟨first, others, shape⟩
    have isBlank : isBlank first = true := blank first (by simp [shape])
    have other : ':' ≠ first := by
      rintro rfl
      exact absurd isBlank (by decide)
    rw [shape, List.cons_append, after?, if_neg other]
  unfold opensSwitch line
  rw [span_append_gap _ row.numbers.1.2 row.gaps.1 fun _ => isDigit_eq_false_of_isBlank]
  simp [noColon]

namespace OpenMethod

/-- The slot is none of the parameters', and the modifiers or the code tell how many slots the
receiver takes. -/
def IsLocalSlot (method : OpenMethod) (slot : Nat) : Prop :=
  (method.IsStatic ∨ method.argumentSize ≠ none) ∧ slot ∉ method.parameterSlots

instance (method : OpenMethod) : DecidablePred method.IsLocalSlot := fun slot =>
  inferInstanceAs (Decidable
    ((method.IsStatic ∨ method.argumentSize ≠ none) ∧ slot ∉ method.parameterSlots))

/-- The longer method has a further row among the rows of the other. -/
def InsertsRow (row : Nat × Text) (method longer : OpenMethod) : Prop :=
  ∃ early late, method.rows = early ++ late ∧ longer = { method with rows := early ++ row :: late }

theorem insertsRow_addRow (method : OpenMethod) (slot : Nat) (name : Text) :
    method.InsertsRow (slot, name) (method.addRow slot name) :=
  ⟨method.rows, [], by simp, rfl⟩

namespace InsertsRow

variable {row : Nat × Text} {method longer : OpenMethod}

theorem settled_eq (inserts : method.InsertsRow row longer) : longer.settled = method.settled := by
  rcases inserts with ⟨early, late, -, rfl⟩
  rfl

theorem addRow (inserts : method.InsertsRow row longer) (slot : Nat) (name : Text) :
    (method.addRow slot name).InsertsRow row (longer.addRow slot name) := by
  rcases inserts with ⟨early, late, rows, rfl⟩
  exact ⟨early, late ++ [(slot, name)], by simp [OpenMethod.addRow, rows],
    by simp [OpenMethod.addRow]⟩

theorem withSize (inserts : method.InsertsRow row longer) (size : Nat) :
    InsertsRow row { method with argumentSize := some size }
      { longer with argumentSize := some size } := by
  rcases inserts with ⟨early, late, rows, rfl⟩
  exact ⟨early, late, rows, rfl⟩

/-- A further row of a local variable does not matter where the method is settled. -/
theorem settle_eq (inserts : method.InsertsRow row longer) (unsettled : method.settled = none)
    (isLocal : method.IsLocalSlot row.1) : longer.settle = method.settle := by
  rcases inserts with ⟨early, late, rows, rfl⟩
  rcases isLocal with ⟨told, foreign⟩
  apply settle_congr unsettled
  · simp [rows, foreign]
  · exact told.imp_right .inl

end InsertsRow

end OpenMethod

theorem eq_tableHeader_of_shapeOf {insideMethod : Bool} {line : Text} {next : Option Text}
    (shape : shapeOf insideMethod line next = .tableHeader) : line = tableHeader := by
  by_contra other
  have differs : (line == tableHeader) = false := beq_eq_false_iff_ne.mpr other
  refine absurd shape ?_
  unfold shapeOf
  rw [differs, if_neg Bool.false_ne_true]
  repeat' refine ite_ne (by decide) ?_
  decide

namespace Reading

/-- The reading with another method being read. -/
def withMethod (reading : Reading) (method : OpenMethod) : Reading :=
  { reading with current := some method }

@[simp]
theorem openSwitches_withMethod (reading : Reading) (method : OpenMethod) :
    (reading.withMethod method).openSwitches = reading.openSwitches := rfl

@[simp]
theorem bodyOpened_withMethod (reading : Reading) (method : OpenMethod) :
    (reading.withMethod method).bodyOpened = reading.bodyOpened := rfl

@[simp]
theorem current_withMethod (reading : Reading) (method : OpenMethod) :
    (reading.withMethod method).current = some method := rfl

theorem finished_withMethod (reading : Reading) {method : OpenMethod}
    (unsettled : method.settled = none) :
    (reading.withMethod method).finished = reading.settled.methods := by
  simp [finished, withMethod, unsettled]

theorem finished_endMethod_withMethod (reading : Reading) (method : OpenMethod) :
    (reading.withMethod method).endMethod.finished ≠ reading.settled.methods := by
  simp [finished_endMethod, withMethod]

theorem endMethod_withMethod (reading : Reading) {method other : OpenMethod}
    (alike : other.settle = method.settle) :
    (reading.withMethod other).endMethod = (reading.withMethod method).endMethod := by
  simp [endMethod, withMethod, alike]

theorem declare_withMethod (reading : Reading) (method : OpenMethod) (line : Text) :
    (reading.withMethod method).declare line = (reading.declare line).withMethod method := by
  unfold declare
  cases Declaration.parse line <;> rfl

/-- The method being read as it is known where it is settled; nothing if a number too long to read
comes first. -/
def methodAsSettled (reading : Reading) : List Text → Option OpenMethod
  | [] => reading.current
  | line :: lines =>
    match reading.feed line (nextContent lines) with
    | .next after =>
      if after.finished = reading.finished then after.methodAsSettled lines else reading.current
    | .closed _ => reading.current
    | .oversized _ => none

/-! ### Two readings side by side -/

/-- How the readings of two methods take a line if one of the methods has a further row. They go on
side by side, or the line settles both methods, and then only what they are settled as counts. -/
inductive SideBySide (row : Nat × Text) (finished : List MethodSummary)
    (method longer : OpenMethod) : Step → Step → Prop
  | oversized (digits : Nat) :
      SideBySide row finished method longer (.oversized digits) (.oversized digits)
  | next (after : Reading) {changed longerChanged : OpenMethod}
      (inserts : changed.InsertsRow row longerChanged) (unsettled : changed.settled = none)
      (unfinished : after.settled.methods = finished) :
      SideBySide row finished method longer (.next (after.withMethod changed))
        (.next (after.withMethod longerChanged))
  | settles {step longerStep : Step} {after : Reading} (reached : step.reading? = some after)
      (finishes : after.finished ≠ finished)
      (alike : longer.settle = method.settle → longerStep = step) :
      SideBySide row finished method longer step longerStep

section Insertion

variable {row : Nat × Text} {method longer : OpenMethod}

theorem sideBySide_feedLine (reading : Reading) (inserts : method.InsertsRow row longer)
    (unsettled : method.settled = none) (line : Text) (next : Option Text) :
    SideBySide row reading.settled.methods method longer
      ((reading.withMethod method).feedLine line next)
      ((reading.withMethod longer).feedLine line next) := by
  have ended := reading.finished_endMethod_withMethod method
  have alike : longer.settle = method.settle →
      (reading.withMethod longer).endMethod = (reading.withMethod method).endMethod :=
    reading.endMethod_withMethod
  unfold feedLine
  simp only [current_withMethod, Option.isSome_some]
  cases shapeOf true line next with
  | declaration =>
    rcases reading.declare_eq line with ⟨settled, declared, -, methods⟩
    rw [declare_withMethod, declare_withMethod, declared]
    exact .next { reading with
      settled, bodyOpened := reading.bodyOpened || endsWith ['\x7b'] line } inserts unsettled methods
  | bodyOpening => exact .next { reading with bodyOpened := true } inserts unsettled rfl
  | method =>
    cases Member.parseMethod line with
    | none => exact .next reading inserts unsettled rfl
    | some signature =>
      refine .settles rfl ?_ fun same => ?_
      · rwa [finished_beginMethod]
      · simp only [beginMethod, alike same]
  | tableHeader =>
    have longerUnsettled : longer.settled = none := inserts.settled_eq.trans unsettled
    simp only [Option.any_some, unsettled, longerUnsettled]
    exact .next { reading with phase := .inTable } inserts unsettled rfl
  | codeSizes =>
    unfold takeSizes
    cases argumentSize? line with
    | none => exact .next reading inserts unsettled rfl
    | some digits =>
      dsimp only
      cases number? digits with
      | none => exact .oversized digits.length
      | some size => exact .next reading (inserts.withSize size) unsettled rfl
  | switchOpening =>
    exact .next { reading with openSwitches := reading.openSwitches + 1 } inserts unsettled rfl
  | field =>
    cases Member.parseField line with
    | none => exact .next reading inserts unsettled rfl
    | some field =>
      refine .settles rfl ended fun same => ?_
      simp only [addField, alike same]
  | closing =>
    rw [openSwitches_withMethod, openSwitches_withMethod, bodyOpened_withMethod,
      bodyOpened_withMethod]
    by_cases open_ : 0 < reading.openSwitches
    · rw [if_pos open_, if_pos open_]
      exact .next { reading with openSwitches := reading.openSwitches - 1 } inserts unsettled rfl
    · rw [if_neg open_, if_neg open_]
      by_cases opened : reading.bodyOpened = true
      · rw [if_pos opened, if_pos opened]
        exact .settles rfl ended fun same => congrArg Step.closed (alike same)
      · rw [if_neg opened, if_neg opened]
        exact .settles rfl ended fun same => congrArg Step.next (alike same)
  | inert => exact .next reading inserts unsettled rfl
  | staticBlock | trailer =>
    exact .settles rfl ended fun same => congrArg Step.next (alike same)

theorem sideBySide_feed (reading : Reading) (inserts : method.InsertsRow row longer)
    (unsettled : method.settled = none) (line : Text) (next : Option Text) :
    SideBySide row reading.settled.methods method longer
      ((reading.withMethod method).feed line next) ((reading.withMethod longer).feed line next) := by
  cases reading with
  | mk settled phase current bodyOpened openSwitches =>
    cases phase with
    | inTable =>
      let reading : Reading := ⟨settled, .inTable, current, bodyOpened, openSwitches⟩
      cases kind : tableLineOf line with
      | blank =>
        simp only [feed, withMethod, kind]
        refine .settles rfl ?_ fun same => ?_
        · cases known : method.settle.settled with
          | none => exact absurd known method.settle_settled
          | some parameters => simp [finished, updateCurrent, known]
        · simp [updateCurrent, same]
      | columnHeads =>
        simp only [feed, withMethod, kind]
        exact .next reading inserts unsettled rfl
      | row slot name =>
        simp only [feed, withMethod, kind]
        cases number? slot with
        | none => exact .oversized slot.length
        | some slot => exact .next reading (inserts.addRow slot name) unsettled rfl
      | foreign =>
        simp only [feed, withMethod, kind]
        exact sideBySide_feedLine ⟨settled, .inBody, current, bodyOpened, openSwitches⟩ inserts
          unsettled line next
    | outside => exact sideBySide_feedLine _ inserts unsettled line next
    | inBody => exact sideBySide_feedLine _ inserts unsettled line next

/-- A further row of a local variable makes no difference to what is read behind it. -/
theorem run_insertsRow {reading : Reading} {lines : List Text}
    (inserts : method.InsertsRow row longer) (unsettled : method.settled = none)
    (isLocal : ∀ known ∈ (reading.withMethod method).methodAsSettled lines,
      known.IsLocalSlot row.1) :
    (reading.withMethod longer).run lines = (reading.withMethod method).run lines := by
  induction lines generalizing reading method longer with
  | nil =>
    have alike := inserts.settle_eq unsettled (isLocal method rfl)
    change Except.ok (reading.withMethod longer).endMethod.settled = _
    rw [reading.endMethod_withMethod alike]
    rfl
  | cons line lines ih =>
    have steps := reading.sideBySide_feed inserts unsettled line (nextContent lines)
    rw [run_cons, run_cons]
    rw [methodAsSettled, reading.finished_withMethod unsettled] at isLocal
    generalize (reading.withMethod method).feed line (nextContent lines) = step
      at steps isLocal ⊢
    generalize (reading.withMethod longer).feed line (nextContent lines) = longerStep at steps ⊢
    cases steps with
    | oversized digits => rfl
    | next after inserts unsettled methods =>
      apply ih inserts unsettled
      simpa [after.finished_withMethod unsettled, methods] using isLocal
    | settles reached finishes alike =>
      have known : method.IsLocalSlot row.1 := by
        cases step with
        | next after =>
          cases reached
          exact isLocal method (by simp [finishes])
        | closed after => exact isLocal method rfl
        | oversized digits => contradiction
      rw [alike (inserts.settle_eq unsettled known)]

end Insertion

/-! ### Lines that lead into a table -/

/-- Only the header of a variable table opens one. -/
theorem eq_tableHeader_of_feedLine {reading after : Reading} {line : Text} {next : Option Text}
    (outside : reading.phase ≠ .inTable) (fed : reading.feedLine line next = .next after)
    (inTable : after.phase = .inTable) : line = tableHeader := by
  unfold feedLine takeSizes at fed
  generalize isShape : shapeOf reading.current.isSome line next = shape at fed
  cases shape with
  | tableHeader => exact eq_tableHeader_of_shapeOf isShape
  | declaration =>
    rcases reading.declare_eq line with ⟨settled, declared, -⟩
    dsimp only at fed
    rw [declared] at fed
    cases fed
    contradiction
  | _ =>
    -- The phase is kept, or a member begins or ends.
    dsimp only at fed
    repeat' split at fed
    all_goals cases fed
    all_goals contradiction

/-- Whether a line leads on in a variable table does not depend on what comes next. -/
theorem feed_of_inTable {reading after : Reading} {line : Text} {next : Option Text}
    (fed : reading.feed line next = .next after) (inTable : after.phase = .inTable) :
    line ≠ [] ∧ ∀ other, reading.feed line other = .next after := by
  have header : ∀ reading : Reading, reading.phase ≠ .inTable →
      reading.feedLine line next = .next after →
        line ≠ [] ∧ ∀ other, reading.feedLine line other = .next after := by
    intro reading outside fed
    obtain rfl := eq_tableHeader_of_feedLine outside fed inTable
    refine ⟨by decide, fun other => ?_⟩
    unfold feedLine at fed ⊢
    rw [shapeOf_tableHeader] at fed ⊢
    exact fed
  by_cases open_ : reading.phase = .inTable
  · unfold feed at fed ⊢
    rw [open_] at fed ⊢
    dsimp only at fed ⊢
    have visible : tableLineOf line ≠ .blank → line ≠ [] := by
      rintro shown rfl
      exact shown rfl
    cases kind : tableLineOf line with
    | blank =>
      rw [kind] at fed
      cases fed
      contradiction
    | foreign =>
      rw [kind] at fed
      exact header _ (by simp) fed
    | _ =>
      rw [kind] at fed
      exact ⟨visible (by simp [kind]), fun _ => fed⟩
  · rw [feed_eq_feedLine _ _ open_] at fed
    simpa only [feed_eq_feedLine _ _ open_] using header reading open_ fed

/-- Lines that lead into a variable table lead there whatever comes behind them. -/
theorem readLines_of_inTable {reading after : Reading} {lines rest : List Text}
    (reached : reading.readLines lines rest = some after) (inTable : after.phase = .inTable)
    (other : List Text) : reading.readLines lines other = some after := by
  rcases List.eq_nil_or_concat lines with rfl | ⟨front, last, rfl⟩
  · exact reached
  · rw [List.concat_eq_append, readLines_append] at reached ⊢
    rcases Option.bind_eq_some_iff.mp reached with ⟨before, reachedFront, step⟩
    unfold readLines at step
    split at step
    · rename_i found fed
      cases step
      rcases feed_of_inTable fed inTable with ⟨visible, same⟩
      have ahead : isDescribed ([last] ++ rest) = isDescribed ([last] ++ other) := by
        simp only [List.singleton_append, isDescribed_cons, if_neg visible]
      rw [← readLines_congr ahead, reachedFront, Option.bind_some, readLines, same]
      rfl
    · contradiction

/-- The method being read comes from a line that is not blank. -/
theorem Coherent.exists_visible {fed : List Text} {reading : Reading} {method : OpenMethod}
    (coherent : reading.Coherent fed) (current : reading.current = some method) :
    ∃ line ∈ fed, line ≠ [] := by
  rcases coherent.methods with ⟨lines, -, -, fromLines⟩
  rcases fromLines method current with ⟨line, sublist, fromLine⟩
  refine ⟨line, sublist.subset (by simp), ?_⟩
  rintro rfl
  rcases fromLine.listed with ⟨signature, found, -⟩
  have unread : Member.parseMethod [] = none := by decide +kernel
  rw [unread] at found
  contradiction

/-- A row that is read as one is added to the method, if its slot is short enough to read. -/
theorem feed_row {reading : Reading} {method : OpenMethod} {row : WrittenRow}
    (inTable : reading.phase = .inTable) (current : reading.current = some method)
    (whole : row.name.all Declaration.isIdentifierPart = true) (next : Option Text) :
    reading.feed row.line next =
      match number? row.slot with
      | none => .oversized row.slot.length
      | some slot => .next (reading.withMethod (method.addRow slot row.name)) := by
  unfold feed
  rw [inTable, row.tableLineOf_line, if_pos whole]
  dsimp only
  cases number? row.slot with
  | none => rfl
  | some slot => simp [updateCurrent, withMethod, current]

/-- A row that is not read as one ends the table. -/
theorem run_foreignRow {reading : Reading} {row : WrittenRow} {rest : List Text}
    (broken : row.name.all Declaration.isIdentifierPart = false)
    (undescribed : isDescribed rest = false) :
    reading.run (row.line :: rest) = reading.leaveTable.run rest := by
  have foreign : tableLineOf row.line = .foreign := by
    rw [row.tableLineOf_line, broken]
    rfl
  have silent : IsSilent reading.leaveTable.current.isSome row.line :=
    { IsSilent.of_digit row.exists_digit_line with
      not_codeSizes := fun _ => beginsWith_eq_false_of_digit row.exists_digit_line (by decide)
      not_switchOpening := fun _ => row.opensSwitch_line }
  rw [← run_silent reading.phase_leaveTable (silent.shapeOf undescribed), run_cons, run_cons,
    feed_eq_leaveTable _ fun _ => foreign, feed_eq_feedLine _ _ reading.phase_leaveTable]

end Reading

/-- A further row in the variable table of a method changes nothing if it belongs to no parameter's
slot, provided that it is read as a row, with a number short enough to read. A row whose name has a
character that no identifier has ends the table instead, and what is behind it is read as if it
stood below the table. -/
theorem parse_localRow {text longer : Text} {className : Option Text} {front rest : List Text}
    {row : WrittenRow} {reading : Reading} (listed : contentLines text = front ++ rest)
    (inserted : contentLines longer = front ++ row.line :: rest)
    (reached : (startFor className).readLines front rest = some reading)
    (inTable : reading.phase = .inTable) :
    (row.name.all Declaration.isIdentifierPart = true →
      (∀ slot, number? row.slot = some slot →
        (∀ method ∈ reading.methodAsSettled rest, method.IsLocalSlot slot) →
        parse (some longer) className = parse (some text) className) ∧
      (number? row.slot = none →
        parse (some longer) className = .error (.oversized row.slot.length))) ∧
    (row.name.all Declaration.isIdentifierPart = false → isDescribed rest = false →
      parse (some longer) className = conclude (reading.leaveTable.run rest)) := by
  have coherent : reading.Coherent ([] ++ front) :=
    (Reading.coherent_start _).of_readLines reached
  rcases coherent.table_unsettled inTable with ⟨method, current, unsettled⟩
  have parsed : parse (some text) className = conclude (reading.run rest) := by
    rcases coherent.exists_visible current with ⟨line, member, visible⟩
    exact parse_of_readLines listed ⟨line, List.mem_append_left rest member, visible⟩ reached
  have parsedLonger : parse (some longer) className = conclude (reading.run (row.line :: rest)) :=
    parse_of_readLines inserted ⟨row.line, by simp, row.line_ne_nil⟩
      (Reading.readLines_of_inTable reached inTable (row.line :: rest))
  refine ⟨fun whole => ⟨fun slot number isLocal => ?_, fun oversized => ?_⟩,
    fun broken undescribed => ?_⟩
  · have same : reading.withMethod method = reading := by
      rw [Reading.withMethod, ← current]
    rw [← same] at isLocal
    rw [parsed, parsedLonger, Reading.run_cons, Reading.feed_row inTable current whole, number]
    dsimp only
    rw [Reading.run_insertsRow (method.insertsRow_addRow slot row.name) unsettled isLocal, same]
  · rw [parsedLonger, Reading.run_cons, Reading.feed_row inTable current whole, oversized]
    rfl
  · rw [parsedLonger, Reading.run_foreignRow broken undescribed]

/-! ### A mangled name -/

/-- The row of a local variable. -/
def tallyRow (name : Text) (named : name ≠ []) (unbroken : IsUnbroken name) : WrittenRow where
  start := "2"
  length := "3"
  slot := "4"
  name := name
  type := "I"
  startGap := "       "
  lengthGap := "     "
  slotGap := "  "
  nameGap := "   "
  numbers := by decide
  named := named
  unbroken := unbroken
  typed := ⟨'I', by decide, by decide⟩
  gaps := by decide

/-- The lines in front of the row. -/
def tallyFront : List Text :=
  ["public class a.Tally", ['\x7b'], "public void add(long, int);", "descriptor: (JI)V", "Code:",
    "stack=4, locals=6, args_size=3", tableHeader, "Start  Length  Slot  Name   Signature"]

/-- The lines behind the row. -/
def tallyRest : List Text :=
  ["0       5     0  this   La/Tally;", "0       5     1  amount   J", "0       5     3  count   I",
    ['\x7d']]

/-- A listing in which the row of a local variable stands in front of those of the parameters. -/
def tallyText (rows : List Text) : Text := join "\n" (tallyFront ++ (rows ++ tallyRest))

/-- The reading in front of the row. -/
def tallyReading : Reading where
  settled :=
    { kind := some .ordinary, packageName := "a", simpleName := "Tally", modifiers := ["public"],
      superclass := none, interfaces := [], fields := [], methods := [] }
  phase := .inTable
  current := some
    { name := "add", returnType := "void", modifiers := ["public"]
      declared := [("long", none), ("int", none)], rows := [], argumentSize := some 3
      settled := none }
  bodyOpened := true
  openSwitches := 0

theorem parse_localRow_sum :
    parse (some (tallyText [(tallyRow "sum" (by decide) (by decide)).line])) none =
      parse (some (tallyText [])) none := by
  have listed : contentLines (tallyText []) = tallyFront ++ tallyRest := by decide +kernel
  have inserted : contentLines (tallyText [(tallyRow "sum" (by decide) (by decide)).line]) =
      tallyFront ++ (tallyRow "sum" (by decide) (by decide)).line :: tallyRest := by
    decide +kernel
  have reached : (startFor none).readLines tallyFront tallyRest = some tallyReading := by
    decide +kernel
  exact ((parse_localRow listed inserted reached rfl).1 (by decide)).1 4 (by decide)
    (by decide +kernel)

/-- The compiler of an inline function names its local variable with a hyphen. The row ends the
table, and the parameters lose their names. -/
theorem parse_mangledRow_ne :
    number? (tallyRow "$i$f$swap-impl" (by decide) (by decide)).slot = some 4 ∧
      (∃ method ∈ tallyReading.methodAsSettled tallyRest, method.IsLocalSlot 4) ∧
      parse (some (tallyText [(tallyRow "$i$f$swap-impl" (by decide) (by decide)).line])) none ≠
        parse (some (tallyText [])) none :=
  ⟨by decide, by decide +kernel, by decide +kernel⟩

end JarAtlas.Listing
