import JarAtlas.Listing.OpenMethod
import Mathlib.Data.List.TakeDrop

/-!
# Slots of parameters

A parameter begins at the slot behind the receiver's slots and those of the parameters in front of
it. Every parameter takes at least one slot, so the slots of different parameters differ, and a row
of the variable table names at most one of them. Rows of all other slots, those of local variables
for instance, name none: a method is settled alike with and without them.
-/

namespace JarAtlas.Listing.OpenMethod

theorem slotWidth_eq (type : Text) :
    slotWidth type = if type = ("long" : Text) ∨ type = ("double" : Text) then 2 else 1 := by
  simp [slotWidth]

theorem slotWidth_pos (type : Text) : 0 < slotWidth type := by
  rw [slotWidth_eq]
  split_ifs <;> omega

/-- The slots that parameters take together. -/
def slotsOf : List (Text × Option Text) → Nat
  | [] => 0
  | (type, _) :: others => slotWidth type + slotsOf others

theorem slotsOf_append (first second : List (Text × Option Text)) :
    slotsOf (first ++ second) = slotsOf first + slotsOf second := by
  induction first with
  | nil => simp [slotsOf]
  | cons parameter others ih =>
    rw [List.cons_append, slotsOf, slotsOf, ih, Nat.add_assoc]

/-- The slot at which a parameter begins. -/
def parameterSlot (method : OpenMethod) (index : Nat) : Nat :=
  method.receiverSlots + slotsOf (method.declared.take index)

/-- The slots at which the parameters begin. -/
def parameterSlots (method : OpenMethod) : List Nat :=
  (List.range method.declared.length).map method.parameterSlot

theorem mem_parameterSlots {method : OpenMethod} {slot : Nat} :
    slot ∈ method.parameterSlots ↔
      ∃ index < method.declared.length, method.parameterSlot index = slot := by
  simp [parameterSlots]

/-- Later parameters begin at later slots. -/
theorem parameterSlot_lt {method : OpenMethod} {first second : Nat} (inOrder : first < second)
    (below : second < method.declared.length) :
    method.parameterSlot first < method.parameterSlot second := by
  have between : method.declared.take second =
      method.declared.take first ++ (method.declared.take second).drop first := by
    have cut := List.take_append_drop first (method.declared.take second)
    rw [List.take_take, Nat.min_eq_left (Nat.le_of_lt inOrder)] at cut
    exact cut.symm
  have some_ : (method.declared.take second).drop first ≠ [] := by
    rw [ne_eq, List.drop_eq_nil_iff, List.length_take]
    omega
  rcases List.exists_cons_of_ne_nil some_ with ⟨parameter, others, split⟩
  have wide := slotWidth_pos parameter.1
  rw [split] at between
  rw [parameterSlot, parameterSlot, between, slotsOf_append, slotsOf]
  omega

/-! ### The receiver -/

def IsStatic (method : OpenMethod) : Prop := ("static" : Text) ∈ method.modifiers

instance : DecidablePred IsStatic := fun method =>
  inferInstanceAs (Decidable (("static" : Text) ∈ method.modifiers))

/-- A row names the first slot as the receiver's. -/
def ListsReceiver (rows : List (Nat × Text)) : Prop := (0, ("this" : Text)) ∈ rows

instance : DecidablePred ListsReceiver := fun rows =>
  inferInstanceAs (Decidable ((0, ("this" : Text)) ∈ rows))

theorem receiverSlots_of_isStatic {method : OpenMethod} (static : method.IsStatic) :
    method.receiverSlots = 0 := if_pos (List.contains_iff_mem.mpr static)

theorem receiverSlots_of_size {method : OpenMethod} {size : Nat} (static : ¬method.IsStatic)
    (known : method.argumentSize = some size) :
    method.receiverSlots = size - method.declared.length := by
  rw [receiverSlots, if_neg (mt List.contains_iff_mem.mp static), known]

theorem receiverSlots_of_unsized {method : OpenMethod} (static : ¬method.IsStatic)
    (unknown : method.argumentSize = none) :
    method.receiverSlots = if ListsReceiver method.rows then 1 else 0 := by
  rw [receiverSlots, if_neg (mt List.contains_iff_mem.mp static), unknown]
  exact if_congr List.contains_iff_mem rfl rfl

/-! ### Rows that name a slot -/

/-- The name of a slot is that of the last row with the slot. -/
theorem rowName?_eq_some_iff {rows : List (Nat × Text)} {slot : Nat} {name : Text} :
    rowName? rows slot = some name ↔
      ∃ front behind, rows = front ++ (slot, name) :: behind ∧ ∀ row ∈ behind, row.1 ≠ slot := by
  simp only [rowName?, Option.map_eq_some_iff, List.find?_eq_some_iff_append]
  constructor
  · rintro ⟨⟨other, found⟩, ⟨same, later, earlier, split, absent⟩, rfl⟩
    obtain rfl : other = slot := by simpa using same
    have whole := congrArg List.reverse split
    rw [List.reverse_reverse, List.reverse_append, List.reverse_cons, List.append_assoc] at whole
    refine ⟨earlier.reverse, later.reverse, ?_, ?_⟩
    · rw [whole]
      rfl
    · intro row member
      simpa using absent row (List.mem_reverse.mp member)
  · rintro ⟨front, behind, rfl, absent⟩
    refine ⟨(slot, name), ⟨by simp, behind.reverse, front.reverse, by simp, ?_⟩, rfl⟩
    intro row member
    simpa using absent row (List.mem_reverse.mp member)

theorem rowName?_eq_none_iff {rows : List (Nat × Text)} {slot : Nat} :
    rowName? rows slot = none ↔ ∀ row ∈ rows, row.1 ≠ slot := by
  simp [rowName?]

/-- Rows of other slots do not matter to the name of a slot. -/
theorem rowName?_filter {rows : List (Nat × Text)} {slots : List Nat} {slot : Nat}
    (kept : slot ∈ slots) :
    rowName? (rows.filter fun row => slots.contains row.1) slot = rowName? rows slot := by
  rw [rowName?, rowName?, ← List.filter_reverse, List.find?_filter]
  congr 2
  funext row
  by_cases same : row.1 = slot
  · simp [same, kept]
  · simp [same]

/-- How a parameter is named: by the last row of its slot, else as it is declared, else by its
number. -/
inductive IsNameOf (rows : List (Nat × Text)) (slot number : Nat) : Option Text → Text → Prop
  | row {declaredName : Option Text} {name : Text} {front behind : List (Nat × Text)}
      (listed : rows = front ++ (slot, name) :: behind) (last : ∀ row ∈ behind, row.1 ≠ slot) :
      IsNameOf rows slot number declaredName name
  | declared {name : Text} (unlisted : ∀ row ∈ rows, row.1 ≠ slot) :
      IsNameOf rows slot number (some name) name
  | position (unlisted : ∀ row ∈ rows, row.1 ≠ slot) :
      IsNameOf rows slot number none (("param" : Text) ++ Text.ofNat number)

theorem isNameOf_getD (rows : List (Nat × Text)) (slot number : Nat)
    (declaredName : Option Text) :
    IsNameOf rows slot number declaredName
      (((rowName? rows slot).or declaredName).getD (("param" : Text) ++ Text.ofNat number)) := by
  cases found : rowName? rows slot with
  | some name =>
    rcases rowName?_eq_some_iff.mp found with ⟨front, behind, listed, last⟩
    exact .row listed last
  | none =>
    have unlisted := rowName?_eq_none_iff.mp found
    cases declaredName with
    | some name => exact .declared unlisted
    | none => exact .position unlisted

/-! ### Naming all parameters -/

@[simp]
theorem length_nameFrom (rows : List (Nat × Text)) (slot number : Nat)
    (declared : List (Text × Option Text)) :
    (nameFrom rows slot number declared).length = declared.length := by
  induction declared generalizing slot number with
  | nil => rfl
  | cons parameter others ih => simp [nameFrom, ih]

/-- Each parameter is named at its own slot. -/
theorem getElem?_nameFrom (rows : List (Nat × Text)) (slot number : Nat)
    (declared : List (Text × Option Text)) (index : Nat) :
    (nameFrom rows slot number declared)[index]? = declared[index]?.map fun parameter =>
      parameter.1 ++ ' ' ::
        ((rowName? rows (slot + slotsOf (declared.take index))).or parameter.2).getD
          (("param" : Text) ++ Text.ofNat (number + index)) := by
  induction declared generalizing slot number index with
  | nil => rfl
  | cons parameter others ih =>
    cases index with
    | zero => simp [nameFrom, slotsOf]
    | succ index =>
      rw [nameFrom, List.getElem?_cons_succ, List.getElem?_cons_succ, ih, List.take_succ_cons,
        slotsOf, Nat.add_assoc slot, Nat.add_assoc number, Nat.add_comm 1 index]

/-- Only the rows of the parameters' slots matter to their names. -/
theorem namedParameters_congr {method : OpenMethod} {rows : List (Nat × Text)}
    (sameBase : { method with rows }.receiverSlots = method.receiverSlots)
    (sameRows : ∀ slot ∈ method.parameterSlots, rowName? rows slot = rowName? method.rows slot) :
    { method with rows }.namedParameters = method.namedParameters := by
  apply List.ext_getElem?
  intro index
  rw [namedParameters, namedParameters, sameBase, getElem?_nameFrom, getElem?_nameFrom]
  cases found : method.declared[index]? with
  | none => rfl
  | some parameter =>
    have below := (List.getElem?_eq_some_iff.mp found).1
    have same := sameRows _ (mem_parameterSlots.mpr ⟨index, below, rfl⟩)
    rw [parameterSlot] at same
    rw [same]

/-- The receiver's slots depend on the rows only where neither the modifiers nor the code tell
them, and then only on the receiver's row. -/
theorem receiverSlots_congr {method : OpenMethod} {rows : List (Nat × Text)}
    (told : method.IsStatic ∨ method.argumentSize ≠ none ∨
      (ListsReceiver rows ↔ ListsReceiver method.rows)) :
    { method with rows }.receiverSlots = method.receiverSlots := by
  by_cases static : method.IsStatic
  · have staticToo : { method with rows }.IsStatic := static
    rw [receiverSlots_of_isStatic static, receiverSlots_of_isStatic staticToo]
  · have instanceToo : ¬{ method with rows }.IsStatic := static
    rcases Option.eq_none_or_eq_some method.argumentSize with unknown | ⟨size, known⟩
    · have same := (told.resolve_left static).resolve_left (not_not_intro unknown)
      rw [receiverSlots_of_unsized static unknown, receiverSlots_of_unsized instanceToo unknown]
      exact if_congr same rfl rfl
    · rw [receiverSlots_of_size static known, receiverSlots_of_size instanceToo known]

theorem settle_of_unsettled {method : OpenMethod} (unsettled : method.settled = none) :
    method.settle = { method with settled := some method.namedParameters, rows := [] } := by
  rw [settle, unsettled]

/-- A method with other rows is settled alike if the rows of its parameters' slots are the same and
nothing else moves these slots. -/
theorem settle_congr {method : OpenMethod} {rows : List (Nat × Text)}
    (unsettled : method.settled = none)
    (sameRows : (rows.filter fun row => method.parameterSlots.contains row.1) =
      method.rows.filter fun row => method.parameterSlots.contains row.1)
    (told : method.IsStatic ∨ method.argumentSize ≠ none ∨
      (ListsReceiver rows ↔ ListsReceiver method.rows)) :
    { method with rows }.settle = method.settle := by
  have same : { method with rows }.namedParameters = method.namedParameters := by
    apply namedParameters_congr (receiverSlots_congr told)
    intro slot isSlot
    rw [← rowName?_filter isSlot, sameRows, rowName?_filter isSlot]
  have unsettledToo : { method with rows }.settled = none := unsettled
  rw [settle_of_unsettled unsettled, settle_of_unsettled unsettledToo, same]

/-- Settling a method names each parameter by the last row of its slot, else as it is declared, else
by its number. The slots follow each other behind the receiver's, as wide as the types are, so no
two parameters share one. The rows of all other slots may be any, as long as the receiver's row is
there or not as before where nothing else tells how many slots the receiver takes. -/
theorem settle_names {method : OpenMethod} (unsettled : method.settled = none) :
    ((method.IsStatic → method.receiverSlots = 0) ∧
      (¬method.IsStatic → ∀ size, method.argumentSize = some size →
        method.receiverSlots = size - method.declared.length) ∧
      (¬method.IsStatic → method.argumentSize = none →
        method.receiverSlots = if ListsReceiver method.rows then 1 else 0) ∧
      ∀ type, slotWidth type =
        if type = ("long" : Text) ∨ type = ("double" : Text) then 2 else 1) ∧
    (method.settle.summary.parameters.length = method.declared.length ∧
      ∀ index type declaredName, method.declared[index]? = some (type, declaredName) →
        ∃ name, method.settle.summary.parameters[index]? = some (type ++ ' ' :: name) ∧
          IsNameOf method.rows (method.parameterSlot index) (index + 1) declaredName name) ∧
    (∀ first second, first < second → second < method.declared.length →
      method.parameterSlot first < method.parameterSlot second) ∧
    ∀ rows : List (Nat × Text),
      (rows.filter fun row => method.parameterSlots.contains row.1) =
        (method.rows.filter fun row => method.parameterSlots.contains row.1) →
      (method.IsStatic ∨ method.argumentSize ≠ none ∨
        (ListsReceiver rows ↔ ListsReceiver method.rows)) →
      { method with rows }.settle = method.settle := by
  have parameters : method.settle.summary.parameters = method.namedParameters := by
    rw [settle_of_unsettled unsettled]
    rfl
  refine ⟨⟨receiverSlots_of_isStatic, fun static _ => receiverSlots_of_size static,
    receiverSlots_of_unsized, slotWidth_eq⟩, ⟨?_, ?_⟩, fun _ _ => parameterSlot_lt,
    fun _ => settle_congr unsettled⟩
  · rw [parameters, namedParameters, length_nameFrom]
  · intro index type declaredName declared
    refine ⟨_, ?_, isNameOf_getD method.rows (method.parameterSlot index) (index + 1) declaredName⟩
    rw [parameters, namedParameters, getElem?_nameFrom, declared, Nat.add_comm index 1]
    rfl

/-- A constructor of an inner class: the receiver and the outer instance take two slots, the row of
the first parameter is there twice, and one row names the second half of its value. -/
def transferMethod : OpenMethod :=
  { name := "<init>", returnType := "void", modifiers := ["public"]
    declared := [("long", none), ("java.lang.String", some ("note" : Text)), ("int", none)]
    rows := [(0, "this"), (1, "this$0"), (2, "old"), (3, "half"), (2, "amount"), (6, "local")]
    argumentSize := some 5, settled := none }

theorem settle_names_transfer :
    transferMethod.settled = none ∧ transferMethod.parameterSlots = [2, 4, 5] ∧
      (∃ name, transferMethod.settle.summary.parameters[1]? =
          some (("java.lang.String" : Text) ++ ' ' :: name) ∧
        IsNameOf transferMethod.rows 4 2 (some ("note" : Text)) name) ∧
      { transferMethod with rows := [(7, "spare"), (2, "old"), (2, "amount")] }.settle =
        transferMethod.settle ∧
      transferMethod.settle.summary.parameters =
        (["long amount", "java.lang.String note", "int param3"] : List Text) :=
  ⟨rfl, by decide, (settle_names rfl).2.1.2 1 _ _ rfl,
    (settle_names rfl).2.2.2 _ (by decide) (by decide), by decide⟩

end JarAtlas.Listing.OpenMethod
