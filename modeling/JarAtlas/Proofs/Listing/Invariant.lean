import JarAtlas.Proofs.Listing.Effects
import Mathlib.Data.List.Forall2

/-!
# The invariant of a reading

What holds of a reading after every line, whatever the listing. The methods that are known so far
are the finished ones, whose parameters all have names, and at most one more, the current method as
long as it is not settled, whose parameters are bare types. Each of them comes from a line of its
own among the lines read.

The finished methods only ever grow at the end, so each method is finished at exactly one line.
-/

namespace JarAtlas.Listing

/-- A parameter is the type of a fragment, a space and a name. -/
def NamesParameter (declared : Text × Option Text) (parameter : Text) : Prop :=
  ∃ name, name ≠ [] ∧ parameter = declared.1 ++ ' ' :: name

/-- The line lists the method, and its parameters relate to the fragments of the line. -/
def ListedAt (Parameters : List (Text × Option Text) → List Text → Prop) (line : Text)
    (method : MethodSummary) : Prop :=
  ∃ signature, Member.parseMethod line = some signature ∧
    method = { signature with parameters := method.parameters } ∧
    Parameters (signature.parameters.map Member.splitDeclaredName) method.parameters

/-- The line lists the method, and each of its parameters has a name. -/
def NamedAt : Text → MethodSummary → Prop := ListedAt (List.Forall₂ NamesParameter)

/-- The line lists the method, and its parameters are bare types. -/
def BareAt : Text → MethodSummary → Prop :=
  ListedAt fun declared parameters => parameters = declared.map Prod.fst

/-- The name in a row is not empty. -/
theorem ne_nil_of_tableRow? {line slot name : Text} (found : tableRow? line = some (slot, name)) :
    name ≠ [] := by
  rintro rfl
  simp only [tableRow?, Option.bind_eq_bind, Option.bind_eq_some_iff] at found
  rcases found with ⟨start, -, length, -, slotColumn, -, type, -, row⟩
  split_ifs at row with empty
  simp only [Option.some.injEq, Prod.mk.injEq] at row
  exact empty (by rw [row.2]; rfl)

namespace OpenMethod

/-- The method being read comes from a line. -/
structure FromLine (line : Text) (method : OpenMethod) : Prop where
  listed : ∃ signature, Member.parseMethod line = some signature ∧
    method.name = signature.name ∧ method.returnType = signature.returnType ∧
    method.modifiers = signature.modifiers ∧
    method.declared = signature.parameters.map Member.splitDeclaredName
  rows_named : ∀ row ∈ method.rows, row.2 ≠ []
  settled_named : ∀ parameters ∈ method.settled,
    List.Forall₂ NamesParameter method.declared parameters
  settled_rows : method.settled ≠ none → method.rows = []

theorem ne_nil_of_splitDeclaredName {fragment type name : Text}
    (split : Member.splitDeclaredName fragment = (type, some name)) : name ≠ [] := by
  rintro rfl
  unfold Member.splitDeclaredName at split
  split at split
  · simp at split
  · dsimp only at split
    split_ifs at split with bare
    · simp at split
    · simp only [Prod.mk.injEq, Option.some.injEq] at split
      simp [split.2, Declaration.isIdentifier] at bare

theorem ne_nil_of_rowName? {rows : List (Nat × Text)} {slot : Nat} {name : Text}
    (named : ∀ row ∈ rows, row.2 ≠ []) (found : rowName? rows slot = some name) : name ≠ [] := by
  rcases Option.map_eq_some_iff.mp found with ⟨row, first, rfl⟩
  exact named row (List.mem_reverse.mp (List.mem_of_find?_eq_some first))

/-- Naming gives every parameter a name. -/
theorem forall₂_nameFrom {rows : List (Nat × Text)} {declared : List (Text × Option Text)}
    (rowsNamed : ∀ row ∈ rows, row.2 ≠ [])
    (declaredNamed : ∀ parameter ∈ declared, ∀ name ∈ parameter.2, name ≠ [])
    (slot number : Nat) :
    List.Forall₂ NamesParameter declared (nameFrom rows slot number declared) := by
  induction declared generalizing slot number with
  | nil => exact .nil
  | cons parameter others ih =>
    rcases parameter with ⟨type, declaredName⟩
    refine .cons ⟨_, ?_, rfl⟩
      (ih (fun parameter member => declaredNamed parameter (List.mem_cons_of_mem _ member)) _ _)
    cases row : rowName? rows slot with
    | some name => exact ne_nil_of_rowName? rowsNamed row
    | none =>
      cases declaredName with
      | some name => exact declaredNamed _ List.mem_cons_self name rfl
      | none => simp

namespace FromLine

variable {line : Text} {method : OpenMethod}

theorem declared_named (fromLine : method.FromLine line) :
    ∀ parameter ∈ method.declared, ∀ name ∈ parameter.2, name ≠ [] := by
  rcases fromLine.listed with ⟨signature, -, -, -, -, declared⟩
  intro parameter member name found
  rw [declared] at member
  rcases List.mem_map.mp member with ⟨fragment, -, rfl⟩
  exact ne_nil_of_splitDeclaredName (Prod.ext rfl found)

theorem ofSignature {signature : MethodSummary}
    (parsed : Member.parseMethod line = some signature) :
    (OpenMethod.ofSignature signature).FromLine line where
  listed := ⟨signature, parsed, rfl, rfl, rfl, rfl⟩
  rows_named := by simp [OpenMethod.ofSignature]
  settled_named := by simp [OpenMethod.ofSignature]
  settled_rows := by simp [OpenMethod.ofSignature]

theorem settle (fromLine : method.FromLine line) : method.settle.FromLine line := by
  unfold OpenMethod.settle
  split
  · exact fromLine
  · refine ⟨fromLine.listed, ?_, ?_, ?_⟩
    · simp
    · intro parameters settled
      cases settled
      exact forall₂_nameFrom fromLine.rows_named fromLine.declared_named _ _
    · simp

theorem addRow {slot : Nat} {name : Text} (fromLine : method.FromLine line)
    (unsettled : method.settled = none) (nonempty : name ≠ []) :
    (method.addRow slot name).FromLine line where
  listed := fromLine.listed
  rows_named := by
    intro row member
    rcases List.mem_append.mp member with old | new
    · exact fromLine.rows_named row old
    · rw [List.mem_singleton.mp new]
      exact nonempty
  settled_named := fromLine.settled_named
  settled_rows := by
    intro settled
    exact absurd unsettled settled

theorem withSize (fromLine : method.FromLine line) (size : Nat) :
    ({ method with argumentSize := some size } : OpenMethod).FromLine line :=
  ⟨fromLine.listed, fromLine.rows_named, fromLine.settled_named, fromLine.settled_rows⟩

theorem namedAt (fromLine : method.FromLine line) (settled : method.settled ≠ none) :
    NamedAt line method.summary := by
  rcases fromLine.listed with ⟨signature, parsed, name, returnType, modifiers, declared⟩
  rcases Option.ne_none_iff_exists'.mp settled with ⟨parameters, known⟩
  refine ⟨signature, parsed, ?_, ?_⟩
  · simp [summary, name, returnType, modifiers]
  · rw [← declared]
    simpa [summary, known] using fromLine.settled_named parameters known

theorem bareAt (fromLine : method.FromLine line) (unsettled : method.settled = none) :
    BareAt line method.summary := by
  rcases fromLine.listed with ⟨signature, parsed, name, returnType, modifiers, declared⟩
  refine ⟨signature, parsed, ?_, ?_⟩
  · simp [summary, name, returnType, modifiers]
  · rw [← declared]
    simp [summary, unsettled]

end FromLine

theorem settle_settled (method : OpenMethod) : method.settle.settled ≠ none := by
  unfold settle
  split
  · rename_i parameters settled
    simp [settled]
  · simp

end OpenMethod

namespace Reading

/-- The methods known so far that have their final parameters. -/
def finished (reading : Reading) : List MethodSummary :=
  reading.settled.methods ++
    (reading.current.toList.filter fun method => method.settled.isSome).map OpenMethod.summary

/-- The method, if any, that is still read with bare types for parameters. -/
def unfinished (reading : Reading) : List MethodSummary :=
  (reading.current.toList.filter fun method => method.settled.isNone).map OpenMethod.summary

theorem summary_methods (reading : Reading) :
    reading.summary.methods = reading.finished ++ reading.unfinished := by
  unfold summary finished unfinished
  rcases reading.current with _ | method
  · simp
  · cases settled : method.settled <;> simp [settled]

/-- What holds of a reading once the lines `fed` are read. -/
structure Coherent (fed : List Text) (reading : Reading) : Prop where
  outside_iff : reading.phase = .outside ↔ reading.current = none
  table_unsettled : reading.phase = .inTable →
    ∃ method, reading.current = some method ∧ method.settled = none
  switches : 0 < reading.openSwitches → reading.current ≠ none
  methods : ∃ lines : List Text, lines.Sublist fed ∧
    List.Forall₂ NamedAt lines reading.settled.methods ∧
    ∀ method ∈ reading.current, ∃ line, (lines ++ [line]).Sublist fed ∧ method.FromLine line

theorem coherent_start (simpleName : Text) : (start simpleName).Coherent [] where
  outside_iff := by simp [start]
  table_unsettled := by simp [start]
  switches := by simp [start]
  methods := ⟨[], .slnil, .nil, by simp [start]⟩

namespace Coherent

variable {fed : List Text} {reading : Reading}

theorem mono {more : List Text} (coherent : reading.Coherent fed) (sublist : fed.Sublist more) :
    reading.Coherent more where
  outside_iff := coherent.outside_iff
  table_unsettled := coherent.table_unsettled
  switches := coherent.switches
  methods := by
    rcases coherent.methods with ⟨lines, sublistLines, named, current⟩
    refine ⟨lines, sublistLines.trans sublist, named, ?_⟩
    intro method member
    rcases current method member with ⟨line, sublistLine, fromLine⟩
    exact ⟨line, sublistLine.trans sublist, fromLine⟩

/-- A change that leaves the methods alone keeps the invariant. -/
theorem of_methods_eq {after : Reading} (coherent : reading.Coherent fed)
    (methods : after.settled.methods = reading.settled.methods)
    (current : after.current = reading.current) (phase : after.phase = reading.phase)
    (switches : 0 < after.openSwitches → reading.current ≠ none) : after.Coherent fed where
  outside_iff := by
    rw [phase, current]
    exact coherent.outside_iff
  table_unsettled := by
    rw [phase, current]
    exact coherent.table_unsettled
  switches := by
    rw [current]
    exact switches
  methods := by
    rw [methods, current]
    exact coherent.methods

/-- A change of the method being read, which goes on as a method of the same line. -/
theorem of_current {after : Reading} {method changed : OpenMethod}
    (coherent : reading.Coherent fed) (methods : after.settled.methods = reading.settled.methods)
    (before : reading.current = some method) (current : after.current = some changed)
    (phase : after.phase ≠ .outside)
    (unsettled : after.phase = .inTable → changed.settled = none)
    (fromLine : ∀ line, method.FromLine line → changed.FromLine line) : after.Coherent fed where
  outside_iff := by simp [phase, current]
  table_unsettled inTable := ⟨changed, current, unsettled inTable⟩
  switches _ := by simp [current]
  methods := by
    rcases coherent.methods with ⟨lines, sublist, named, listed⟩
    refine ⟨lines, sublist, methods ▸ named, ?_⟩
    intro other member
    rw [current, Option.mem_some_iff] at member
    subst member
    rcases listed method before with ⟨line, sublistLine, listed⟩
    exact ⟨line, sublistLine, fromLine line listed⟩

theorem phase_ne_outside {method : OpenMethod} (coherent : reading.Coherent fed)
    (current : reading.current = some method) : reading.phase ≠ .outside := by
  intro outside
  simp [coherent.outside_iff.mp outside] at current

theorem endMethod (coherent : reading.Coherent fed) : reading.endMethod.Coherent fed where
  outside_iff := by simp [Reading.endMethod]
  table_unsettled := by simp [Reading.endMethod]
  switches := by simp [Reading.endMethod]
  methods := by
    rcases coherent.methods with ⟨lines, sublist, named, listed⟩
    cases current : reading.current with
    | none =>
      refine ⟨lines, sublist, ?_, by simp [Reading.endMethod]⟩
      simpa [Reading.endMethod, current] using named
    | some method =>
      rcases listed method current with ⟨line, sublistLine, fromLine⟩
      refine ⟨lines ++ [line], sublistLine, ?_, by simp [Reading.endMethod]⟩
      have last := fromLine.settle.namedAt method.settle_settled
      simpa [Reading.endMethod, current] using
        List.rel_append named (List.Forall₂.cons last List.Forall₂.nil)

theorem beginMethod {line : Text} {signature : MethodSummary} (coherent : reading.Coherent fed)
    (parsed : Member.parseMethod line = some signature) :
    (reading.beginMethod signature).Coherent (fed ++ [line]) where
  outside_iff := by simp [Reading.beginMethod]
  table_unsettled := by simp [Reading.beginMethod]
  switches := by simp [Reading.beginMethod, Reading.endMethod]
  methods := by
    rcases coherent.endMethod.methods with ⟨lines, sublist, named, -⟩
    refine ⟨lines, sublist.trans (List.sublist_append_left fed [line]), named, ?_⟩
    intro method member
    simp only [Reading.beginMethod, Option.mem_some_iff] at member
    subst member
    exact ⟨line, sublist.append (List.Sublist.refl [line]), .ofSignature parsed⟩

theorem addField (coherent : reading.Coherent fed) (field : FieldSummary) :
    (reading.addField field).Coherent fed :=
  coherent.endMethod.of_methods_eq rfl rfl rfl (by simp [Reading.addField, Reading.endMethod])

theorem declare (coherent : reading.Coherent fed) (line : Text) (opened : Bool) :
    ({ reading.declare line with bodyOpened := opened } : Reading).Coherent fed := by
  rcases reading.declare_eq line with ⟨settled, declared, -, methods⟩
  rw [declared]
  exact coherent.of_methods_eq methods rfl rfl coherent.switches

/-- The invariant is kept outside a variable table. -/
theorem of_lineEffect {line : Text} {after : Reading} (coherent : reading.Coherent fed)
    (effect : LineEffect line reading after) : after.Coherent (fed ++ [line]) := by
  have grown := coherent.mono (List.sublist_append_left fed [line])
  cases effect with
  | inert => exact grown
  | declaration opened => exact grown.declare line opened
  | bodyOpening => exact grown.of_methods_eq rfl rfl rfl coherent.switches
  | method parsed => exact coherent.beginMethod parsed
  | tableHeader current unsettled =>
    exact grown.of_current rfl current current (by simp) (fun _ => unsettled) fun _ same => same
  | codeSizes current size =>
    refine grown.of_current rfl current rfl (coherent.phase_ne_outside current) ?_
      fun _ fromLine => fromLine.withSize size
    intro inTable
    rcases coherent.table_unsettled inTable with ⟨method, same, unsettled⟩
    rw [current, Option.some.injEq] at same
    exact same ▸ unsettled
  | switchOpening current =>
    exact grown.of_methods_eq rfl rfl rfl fun _ => by simp [current]
  | methodEnd => exact grown.endMethod
  | field parsed => exact grown.addField _
  | switchClosing open_ => exact grown.of_methods_eq rfl rfl rfl fun _ => coherent.switches open_

/-- The invariant is kept by every line. -/
theorem of_effect {line : Text} {after : Reading} (coherent : reading.Coherent fed)
    (effect : Effect line reading after) : after.Coherent (fed ++ [line]) := by
  have grown := coherent.mono (List.sublist_append_left fed [line])
  cases effect with
  | outside effect => exact coherent.of_lineEffect effect
  | columnHeads => exact grown
  | @row slot name number found inTable =>
    rcases coherent.table_unsettled inTable with ⟨method, current, unsettled⟩
    have changed : (reading.updateCurrent (·.addRow number name)).current =
        some (method.addRow number name) := by
      simp [updateCurrent, current]
    refine grown.of_current rfl current changed (by simp [updateCurrent, inTable])
      (fun _ => unsettled) ?_
    intro line fromLine
    exact fromLine.addRow unsettled (ne_nil_of_tableRow? found)
  | tableEnd inTable =>
    rcases coherent.table_unsettled inTable with ⟨method, current, unsettled⟩
    have changed : (reading.updateCurrent .settle).current = some method.settle := by
      simp [updateCurrent, current]
    exact grown.of_current rfl current changed (by simp) (by simp) fun _ fromLine => fromLine.settle
  | foreign inTable effect =>
    rcases coherent.table_unsettled inTable with ⟨method, current, unsettled⟩
    have left : ({ reading with phase := .inBody } : Reading).Coherent fed :=
      coherent.of_current rfl current current (by simp) (fun _ => unsettled) fun _ same => same
    exact left.of_lineEffect effect

end Coherent

end Reading

end JarAtlas.Listing
