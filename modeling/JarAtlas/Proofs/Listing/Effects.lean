import JarAtlas.Listing.Reading
import Mathlib.Tactic.Common

/-!
# What a line can do to a reading

Every change that one line of a listing can make, as a relation. Facts about all readings are proved
by cases on it, so that the order in which the shapes of a line are tried is looked at only here.
-/

namespace JarAtlas.Listing

/-- The reading that a step leads to. -/
def Step.reading? : Step → Option Reading
  | .next reading => some reading
  | .closed reading => some reading
  | .oversized _ => none

/-- What a line outside a variable table can make of a reading. -/
inductive LineEffect (line : Text) (reading : Reading) : Reading → Prop
  | inert : LineEffect line reading reading
  | declaration (opened : Bool) :
      LineEffect line reading { reading.declare line with bodyOpened := opened }
  | bodyOpening : LineEffect line reading { reading with bodyOpened := true }
  | method {signature : MethodSummary} (parsed : Member.parseMethod line = some signature) :
      LineEffect line reading (reading.beginMethod signature)
  | tableHeader {method : OpenMethod} (current : reading.current = some method)
      (unsettled : method.settled = none) :
      LineEffect line reading { reading with phase := .inTable }
  | codeSizes {method : OpenMethod} (current : reading.current = some method) (size : Nat) :
      LineEffect line reading
        { reading with current := some { method with argumentSize := some size } }
  | switchOpening {method : OpenMethod} (current : reading.current = some method) :
      LineEffect line reading { reading with openSwitches := reading.openSwitches + 1 }
  | methodEnd : LineEffect line reading reading.endMethod
  | field {field : FieldSummary} (parsed : Member.parseField line = some field) :
      LineEffect line reading (reading.addField field)
  | switchClosing (open_ : 0 < reading.openSwitches) :
      LineEffect line reading { reading with openSwitches := reading.openSwitches - 1 }

/-- What a line can make of a reading. Inside a variable table it fills or ends the table, or it
ends the table and is then read like any other line. -/
inductive Effect (line : Text) (reading : Reading) : Reading → Prop
  | outside {after : Reading} (effect : LineEffect line reading after) : Effect line reading after
  | columnHeads : Effect line reading reading
  | row {slot : Text} {name : Text} (number : Nat) (found : tableRow? line = some (slot, name)) :
      reading.phase = .inTable →
      Effect line reading (reading.updateCurrent (·.addRow number name))
  | tableEnd : reading.phase = .inTable →
      Effect line reading { reading.updateCurrent .settle with phase := .inBody }
  | foreign {after : Reading} (inTable : reading.phase = .inTable)
      (effect : LineEffect line { reading with phase := .inBody } after) :
      Effect line reading after

namespace Reading

/-- A declaration line says nothing about the members. -/
theorem declare_eq (reading : Reading) (line : Text) :
    ∃ settled : ClassSummary, reading.declare line = { reading with settled } ∧
      settled.fields = reading.settled.fields ∧ settled.methods = reading.settled.methods := by
  unfold declare
  split
  · refine ⟨_, rfl, ?_, ?_⟩
    · simp only [ClassSummary.declare]
      split_ifs <;> rfl
    · simp only [ClassSummary.declare]
      split_ifs <;> rfl
  · exact ⟨reading.settled, rfl, rfl, rfl⟩

/-- A line with sizes gives the method that is being read the size of its arguments, or nothing. -/
theorem eq_of_takeSizes {reading after : Reading} {line : Text}
    (taken : (reading.takeSizes line).reading? = some after) :
    after = reading ∨ ∃ size, after = { reading with
      current := reading.current.map fun method => { method with argumentSize := some size } } := by
  unfold takeSizes at taken
  split at taken
  · cases taken
    exact .inl rfl
  · split at taken
    · cases taken
    · cases taken
      exact .inr ⟨_, rfl⟩

end Reading

/-- Sizes and switches are told apart only while a method is being read. -/
theorem insideMethod_of_shapeOf {insideMethod : Bool} {line : Text} {next : Option Text}
    (shape : shapeOf insideMethod line next = .codeSizes ∨
      shapeOf insideMethod line next = .switchOpening) : insideMethod = true := by
  by_contra outside
  rw [Bool.not_eq_true] at outside
  subst outside
  simp only [shapeOf, Bool.false_and, Bool.false_eq_true, if_false] at shape
  rcases shape with shape | shape
  · split_ifs at shape
  · split_ifs at shape

theorem lineEffect_of_feedLine {reading after : Reading} {line : Text} {next : Option Text}
    (fed : (reading.feedLine line next).reading? = some after) : LineEffect line reading after := by
  unfold Reading.feedLine at fed
  generalize isShape : shapeOf reading.current.isSome line next = shape at fed
  cases shape with
  | declaration =>
    cases fed
    exact .declaration _
  | bodyOpening =>
    cases fed
    exact .bodyOpening
  | method =>
    dsimp only at fed
    cases parsed : Member.parseMethod line with
    | none =>
      rw [parsed] at fed
      cases fed
      exact .inert
    | some signature =>
      rw [parsed] at fed
      cases fed
      exact .method parsed
  | tableHeader =>
    dsimp only at fed
    split_ifs at fed with unsettled
    · cases fed
      rcases (Option.any_eq_true _ _).mp unsettled with ⟨method, current, none⟩
      exact .tableHeader current (Option.isNone_iff_eq_none.mp none)
    · cases fed
      exact .inert
  | codeSizes =>
    rcases Option.isSome_iff_exists.mp (insideMethod_of_shapeOf (.inl isShape))
      with ⟨method, current⟩
    rcases Reading.eq_of_takeSizes fed with rfl | ⟨size, rfl⟩
    · exact .inert
    · rw [current]
      exact .codeSizes current size
  | switchOpening =>
    rcases Option.isSome_iff_exists.mp (insideMethod_of_shapeOf (.inr isShape))
      with ⟨method, current⟩
    cases fed
    exact .switchOpening current
  | field =>
    dsimp only at fed
    cases parsed : Member.parseField line with
    | none =>
      rw [parsed] at fed
      cases fed
      exact .inert
    | some field =>
      rw [parsed] at fed
      cases fed
      exact .field parsed
  | closing =>
    dsimp only at fed
    split_ifs at fed with isOpen opened
    · cases fed
      exact .switchClosing isOpen
    · cases fed
      exact .methodEnd
    · cases fed
      exact .methodEnd
  | inert =>
    cases fed
    exact .inert
  | staticBlock | trailer =>
    cases fed
    exact .methodEnd

theorem tableRow?_of_tableLineOf {line slot name : Text}
    (kind : tableLineOf line = .row slot name) : tableRow? line = some (slot, name) := by
  unfold tableLineOf at kind
  split_ifs at kind
  split at kind
  · rename_i found
    cases kind
    exact found
  · contradiction

/-- Whatever a line does is one of the effects. -/
theorem effect_of_feed {reading after : Reading} {line : Text} {next : Option Text}
    (fed : (reading.feed line next).reading? = some after) : Effect line reading after := by
  unfold Reading.feed at fed
  split at fed
  · rename_i inTable
    generalize isKind : tableLineOf line = kind at fed
    cases kind with
    | blank =>
      cases fed
      exact .tableEnd inTable
    | columnHeads =>
      cases fed
      exact .columnHeads
    | row slot name =>
      dsimp only at fed
      split at fed
      · contradiction
      · cases fed
        exact .row _ (tableRow?_of_tableLineOf isKind) inTable
    | foreign => exact .foreign inTable (lineEffect_of_feedLine fed)
  · exact .outside (lineEffect_of_feedLine fed)

end JarAtlas.Listing
