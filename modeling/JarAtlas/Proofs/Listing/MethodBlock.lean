import JarAtlas.Proofs.Listing.SkippedMember

/-!
# Method blocks

The lines of one method up to the rows of its variable table: the line that lists it, its attributes
with complete switch blocks among them, and the table. What they make of the method does not depend
on where they stand or on what comes behind them.
-/

namespace JarAtlas.Listing

open Text

/-- The lines belong to the method in front of them. Each is inert or gives sizes where it stands, or
belongs to a switch block, and no such block stays open. -/
def areAttributes (behind : List Text) : (openSwitches : Nat) → List Text → Bool
  | openSwitches, [] => openSwitches == 0
  | openSwitches, line :: lines =>
    match shapeOf true line (nextContent (lines ++ behind)) with
    | .inert => areAttributes behind openSwitches lines
    | .codeSizes => areAttributes behind openSwitches lines
    | .switchOpening => areAttributes behind (openSwitches + 1) lines
    | .closing => 0 < openSwitches && areAttributes behind (openSwitches - 1) lines
    | _ => false

/-- The line is a row of a variable table or its column heads. -/
def isTabular (line : Text) : Bool :=
  match tableLineOf line with
  | .columnHeads => true
  | .row _ _ => true
  | _ => false

/-- The method with the rows of a variable table. A number too long to read gives its count of
digits. -/
def OpenMethod.readRows (method : OpenMethod) : List Text → Except Nat OpenMethod
  | [] => .ok method
  | line :: lines =>
    match tableLineOf line with
    | .row slot name =>
      match number? slot with
      | none => .error slot.length
      | some slot => (method.addRow slot name).readRows lines
    | _ => method.readRows lines

/-- The header of a variable table is not blank, so nothing behind it is looked at in front of it. -/
theorem nextContent_append_header (lines behind : List Text) :
    nextContent (lines ++ tableHeader :: behind) = nextContent (lines ++ [tableHeader]) := by
  rw [Reading.nextContent_append, Reading.nextContent_append]
  rfl

theorem areAttributes_header (behind : List Text) (openSwitches : Nat) (lines : List Text) :
    areAttributes (tableHeader :: behind) openSwitches lines =
      areAttributes [tableHeader] openSwitches lines := by
  induction lines generalizing openSwitches with
  | nil => rfl
  | cons line lines ih => simp only [areAttributes, nextContent_append_header, ih]

/-- Among the lines of a method's attributes those that give sizes are told by their beginning. -/
theorem beginsWith_sizes {line : Text} {next : Option Text} {shape : Shape}
    (known : shapeOf true line next = shape)
    (attached : shape ∈ [Shape.inert, .codeSizes, .switchOpening, .closing]) :
    beginsWith "stack=" line = (shape == .codeSizes) := by
  subst known
  revert attached
  unfold shapeOf
  cases isDeclaration line
  case true => exact fun other => absurd other (by simp)
  cases line == ['\x7b']
  case true => exact fun other => absurd other (by simp)
  cases listsMethod line next
  case true => exact fun other => absurd other (by simp)
  cases line == tableHeader
  case true => exact fun other => absurd other (by simp)
  cases beginsWith "stack=" line
  case true => exact fun _ => rfl
  intro _
  symm
  simp only [Bool.and_false, Bool.false_eq_true, if_false, beq_eq_false_iff_ne]
  split_ifs <;> simp

namespace Reading

/-- The lines lead to a reading, where others follow them, or to a number too long to read. -/
def Reaches (reading : Reading) (lines rest : List Text) : Except Nat Reading → Prop
  | .ok after => reading.readLines lines rest = some after
  | .error digits => reading.run (lines ++ rest) = .error digits

section Reaches

variable {reading after : Reading} {line : Text} {lines more rest : List Text}
  {result : Except Nat Reading}

theorem Reaches.cons (step : reading.feed line (nextContent (lines ++ rest)) = .next after)
    (reaches : after.Reaches lines rest result) : reading.Reaches (line :: lines) rest result := by
  cases result with
  | ok last =>
    change reading.readLines (line :: lines) rest = some last
    rw [readLines, step]
    exact reaches
  | error digits =>
    change reading.run (line :: (lines ++ rest)) = .error digits
    rw [run_cons, step]
    exact reaches

theorem Reaches.oversized {digits : Nat}
    (step : reading.feed line (nextContent (lines ++ rest)) = .oversized digits) :
    reading.Reaches (line :: lines) rest (.error digits) := by
  change reading.run (line :: (lines ++ rest)) = .error digits
  rw [run_cons, step]

/-- Lines are read one part after the other, the second with the method that the first makes. -/
theorem Reaches.append {found : Except Nat OpenMethod} {enter : OpenMethod → Reading}
    {further : OpenMethod → Except Nat Reading}
    (first : reading.Reaches lines (more ++ rest) (found.map enter))
    (second : ∀ method, found = .ok method → (enter method).Reaches more rest (further method)) :
    reading.Reaches (lines ++ more) rest (found.bind further) := by
  cases found with
  | error digits =>
    change reading.run (lines ++ more ++ rest) = .error digits
    rw [List.append_assoc]
    exact first
  | ok method =>
    have behind := second method rfl
    have reached : reading.readLines lines (more ++ rest) = some (enter method) := first
    change reading.Reaches (lines ++ more) rest (further method)
    cases result : further method with
    | ok last =>
      rw [result] at behind
      change reading.readLines (lines ++ more) rest = some last
      rw [readLines_append, reached]
      exact behind
    | error digits =>
      rw [result] at behind
      change reading.run (lines ++ more ++ rest) = .error digits
      rw [List.append_assoc, run_append reached]
      exact behind

end Reaches

/-- The attributes of a method give it its argument size, and nothing else. -/
theorem reaches_attributes {reading : Reading} {method : OpenMethod} {lines behind : List Text}
    (outside : reading.phase ≠ .inTable) (current : reading.current = some method)
    (attributes : areAttributes behind reading.openSwitches lines = true) :
    reading.Reaches lines behind ((method.readSizes lines).map fun read =>
      { reading with current := some read, openSwitches := 0 }) := by
  -- the count of open switches changes on the way, so the induction is over any reading
  induction lines generalizing reading method with
  | nil =>
    have closed : reading.openSwitches = 0 := by simpa [areAttributes] using attributes
    change some reading = some { reading with current := some method, openSwitches := 0 }
    rw [← current, ← closed]
  | cons line lines ih =>
    have known : reading.current.isSome = true := by simp [current]
    have step := feed_eq_feedLine line (nextContent (lines ++ behind)) outside
    unfold feedLine at step
    rw [known] at step
    rw [areAttributes] at attributes
    rw [OpenMethod.readSizes]
    cases shape : shapeOf true line (nextContent (lines ++ behind)) with
    | inert =>
      rw [shape] at step attributes
      rw [beginsWith_sizes shape (by simp)]
      exact .cons step (ih outside current attributes)
    | codeSizes =>
      rw [shape] at step attributes
      rw [beginsWith_sizes shape (by simp), if_pos (by decide)]
      dsimp only at step
      unfold takeSizes at step
      cases given : argumentSize? line with
      | none =>
        rw [given] at step
        exact .cons step (ih outside current attributes)
      | some digits =>
        rw [given] at step
        dsimp only at step ⊢
        cases number : number? digits with
        | none =>
          rw [number] at step
          exact .oversized step
        | some size =>
          rw [number, current] at step
          let sized : Reading :=
            { reading with current := some { method with argumentSize := some size } }
          have outsideSized : sized.phase ≠ .inTable := outside
          exact .cons step (ih outsideSized rfl attributes)
    | switchOpening =>
      rw [shape] at step attributes
      rw [beginsWith_sizes shape (by simp)]
      let inSwitch : Reading := { reading with openSwitches := reading.openSwitches + 1 }
      have outsideSwitch : inSwitch.phase ≠ .inTable := outside
      exact .cons step (ih outsideSwitch current attributes)
    | closing =>
      rw [shape] at step attributes
      rw [beginsWith_sizes shape (by simp)]
      rw [Bool.and_eq_true, decide_eq_true_eq] at attributes
      dsimp only at step
      rw [if_pos attributes.1] at step
      let behindSwitch : Reading := { reading with openSwitches := reading.openSwitches - 1 }
      have outsideSwitch : behindSwitch.phase ≠ .inTable := outside
      exact .cons step (ih outsideSwitch current attributes.2)
    | _ =>
      rw [shape] at attributes
      contradiction

/-- The rows of a table are added to the method, in their order. -/
theorem reaches_rows (reading : Reading) (method : OpenMethod) {rows behind : List Text}
    (tabular : ∀ row ∈ rows, isTabular row = true) :
    (reading.insideTable method).Reaches rows behind
      ((method.readRows rows).map reading.insideTable) := by
  induction rows generalizing method with
  | nil => rfl
  | cons row rows ih =>
    have isRow := tabular row List.mem_cons_self
    have others : ∀ row ∈ rows, isTabular row = true := fun row member =>
      tabular row (List.mem_cons_of_mem _ member)
    rw [isTabular] at isRow
    rw [OpenMethod.readRows]
    cases kind : tableLineOf row with
    | columnHeads =>
      have step : (reading.insideTable method).feed row (nextContent (rows ++ behind)) =
          .next (reading.insideTable method) := by
        simp only [feed, insideTable, kind]
      exact .cons step (ih method others)
    | row slot name =>
      dsimp only
      cases number : number? slot with
      | none => exact .oversized (by simp only [feed, insideTable, kind, number])
      | some slot =>
        have step : (reading.insideTable method).feed row (nextContent (rows ++ behind)) =
            .next (reading.insideTable (method.addRow slot name)) := by
          simp only [feed, insideTable, kind, number, updateCurrent, Option.map_some]
        exact .cons step (ih (method.addRow slot name) others)
    | _ =>
      rw [kind] at isRow
      contradiction

end Reading

/-- The lines of a method up to the rows of its variable table. -/
structure MethodBlock where
  line : Text
  signature : MethodSummary
  attributes : List Text
  rows : List Text
  listed : shapeOf true line (nextContent (attributes ++ [tableHeader])) = .method
  accepted : Member.parseMethod line = some signature
  attached : areAttributes [tableHeader] 0 attributes = true
  tabular : ∀ row ∈ rows, isTabular row = true

namespace MethodBlock

/-- The lines of the block. -/
def lines (block : MethodBlock) : List Text :=
  block.line :: (block.attributes ++ tableHeader :: block.rows)

/-- The method as the block alone tells it. A number too long to read gives its count of digits. -/
def read (block : MethodBlock) : Except Nat OpenMethod :=
  ((OpenMethod.ofSignature block.signature).readSizes block.attributes).bind fun method =>
    method.readRows block.rows

/-- A block is read as it is told alone, wherever it stands and whatever comes behind it. -/
theorem reaches (block : MethodBlock) {reading : Reading} (behind : List Text)
    (foreign : reading.phase = .inTable → tableLineOf block.line = .foreign) :
    reading.Reaches block.lines behind
      (block.read.map (reading.beginMethod block.signature).insideTable) := by
  have ahead : nextContent (block.attributes ++ tableHeader :: block.rows ++ behind) =
      nextContent (block.attributes ++ [tableHeader]) := by
    rw [List.append_assoc, List.cons_append, nextContent_append_header]
  have shape : ∀ insideMethod,
      shapeOf insideMethod block.line (nextContent (block.attributes ++ [tableHeader])) =
        .method := by
    intro insideMethod
    cases insideMethod with
    | true => exact block.listed
    | false =>
      rw [shapeOf_false_of_true (by simp [block.listed])]
      exact block.listed
  have begun : reading.feed block.line
      (nextContent (block.attributes ++ tableHeader :: block.rows ++ behind)) =
      .next (reading.beginMethod block.signature) := by
    rw [ahead, Reading.feed_eq_leaveTable _ foreign]
    unfold Reading.feedLine
    rw [shape, block.accepted]
    rfl
  have attached : areAttributes (tableHeader :: block.rows ++ behind) 0 block.attributes = true := by
    rw [List.cons_append, areAttributes_header]
    exact block.attached
  have attributes :
      (reading.beginMethod block.signature).Reaches block.attributes
        (tableHeader :: block.rows ++ behind)
        (((OpenMethod.ofSignature block.signature).readSizes block.attributes).map
          (reading.beginMethod block.signature).insideBody) :=
    Reading.reaches_attributes (by simp [Reading.beginMethod]) rfl attached
  have whole : block.read.map (reading.beginMethod block.signature).insideTable =
      ((OpenMethod.ofSignature block.signature).readSizes block.attributes).bind fun method =>
        (method.readRows block.rows).map (reading.beginMethod block.signature).insideTable := by
    unfold read
    cases (OpenMethod.ofSignature block.signature).readSizes block.attributes <;> rfl
  rw [whole]
  apply Reading.Reaches.cons begun
  apply attributes.append
  intro method found
  have unsettled : method.settled = none := (OpenMethod.settled_of_readSizes found).1
  have header : ((reading.beginMethod block.signature).insideBody method).feed tableHeader
      (nextContent (block.rows ++ behind)) =
      .next ((reading.beginMethod block.signature).insideTable method) := by
    rw [Reading.feed_eq_feedLine _ _ (by simp [Reading.insideBody])]
    unfold Reading.feedLine
    rw [shapeOf_tableHeader]
    simp [Reading.insideBody, Reading.insideTable, unsettled]
  exact .cons header (Reading.reaches_rows _ method block.tabular)

end MethodBlock

end JarAtlas.Listing
