import JarAtlas.Proofs.Listing.PrintedMember

/-!
# Runs over printed members

Between two members all that counts of a reading is the class as it would be settled there. A run
over the lines of one member adds that member to it, so a run over many adds them all, in their
order.
-/

namespace JarAtlas.Listing

open Text

/-- A member as it is printed. -/
inductive PrintedMember
  | field (printed : PrintedField)
  | method (printed : PrintedMethod)

namespace PrintedMember

/-- The lines of a member. -/
def lines : PrintedMember → List Text
  | .field printed => printed.lines
  | .method printed => printed.lines

/-- The class with one more member. -/
def addTo (summary : ClassSummary) : PrintedMember → ClassSummary
  | .field printed => { summary with fields := summary.fields ++ [printed.summary] }
  | .method printed => { summary with methods := summary.methods ++ [printed.summary] }

end PrintedMember

/-- The reading stands between two members of a class that is settled as far as `known` tells. -/
structure Reading.Between (known : ClassSummary) (reading : Reading) : Prop where
  settled : reading.endMethod.settled = known
  outside : reading.phase ≠ .inTable
  opened : reading.bodyOpened = true
  unswitched : reading.openSwitches = 0

theorem isDescriptor_cons {line : Text} (rest : List Text)
    (describes : beginsWith descriptorStart line = true) :
    IsDescriptor (nextContent (line :: rest)) := by
  have described : isDescribed (line :: rest) = true := by
    rw [isDescribed_cons, if_neg]
    · exact describes
    · rintro rfl
      exact absurd describes (by decide)
  exact described

theorem isDescribed_member {words : List Text} {text : Text} (rest : List Text)
    (isText : IsMemberText text) (known : ∀ word ∈ words, word ∈ memberWords) :
    isDescribed ((spaced words ++ text) :: rest) = false := by
  rw [isDescribed_cons, if_neg]
  · exact isText.beginsWith_descriptorStart known
  · intro empty
    rcases isText.isVisible_spaced known with ⟨first, head, -⟩
    simp [empty] at head

namespace PrintedField

variable (field : PrintedField)

theorem known_memberWords : ∀ word ∈ field.modifiers, word ∈ memberWords := fun word member =>
  mem_memberWords_of_mem_fieldModifiers word (field.known word member)

theorem isDescribed_lines (rest : List Text) : isDescribed (field.lines ++ rest) = false :=
  isDescribed_member _ (field.isType.isMemberText _) field.known_memberWords

theorem parseField_line : Member.parseField
    (Member.fieldLine field.modifiers field.type field.name) = some field.summary := by
  have foreign : firstWord field.type ∉ Member.fieldModifiers := fun known =>
    field.isType.wordless (mem_memberWords_of_mem_fieldModifiers _ known)
  rw [Member.parseField_fieldLine field.known field.isFieldType foreign field.isName,
    Member.firstOccurrences_of_nodup field.distinct]
  rfl

/-- The lines of a field add the field. -/
theorem run_lines {known : ClassSummary} {reading : Reading} {rest : List Text}
    (between : reading.Between known) (undescribed : isDescribed rest = false) :
    ∃ after : Reading, reading.run (field.lines ++ rest) = after.run rest ∧
      after.Between { known with fields := known.fields ++ [field.summary] } := by
  have ahead := isDescribed_inert field.inert undescribed
  have fed : reading.feed (Member.fieldLine field.modifiers field.type field.name)
      (nextContent (field.descriptor :: (field.attributes ++ rest))) =
      .next (reading.addField field.summary) := by
    rw [Reading.feed_eq_feedLine _ _ between.outside]
    unfold Reading.feedLine
    rw [shapeOf_fieldLine (field.isType.isMemberText _) field.known field.isFieldType field.isName
      (isDescriptor_cons _ field.describes)]
    dsimp only
    rw [field.parseField_line]
  have outside : (reading.addField field.summary).phase ≠ .inTable := by
    simp [Reading.addField, Reading.endMethod]
  refine ⟨reading.addField field.summary, ?_, ?_⟩
  · have silent := isSilent_descriptor (reading.addField field.summary).current.isSome
      field.describes
    rw [lines, List.cons_append, Reading.run_cons, List.cons_append, fed]
    dsimp only
    rw [Reading.run_silent outside (silent.shapeOf ahead),
      Reading.run_inert outside field.inert undescribed]
  · have settled := between.settled
    refine ⟨?_, outside, between.opened, rfl⟩
    rw [← settled]
    simp [Reading.addField, Reading.endMethod]

end PrintedField

namespace PrintedCode

theorem isCode_sizes (code : PrintedCode) :
    IsCode (sizesLine code.stack code.locals code.arguments :: code.instructions) :=
  .sizes (beginsWith_iff.mpr (List.prefix_append _ _)) code.isCode

theorem readSizes_of_sizeless {method : OpenMethod} {lines : List Text}
    (sizeless : ∀ line ∈ lines, beginsWith "stack=" line = false) :
    method.readSizes lines = .ok method := by
  induction lines with
  | nil => rfl
  | cons line lines ih =>
    rw [OpenMethod.readSizes, sizeless line List.mem_cons_self]
    exact ih fun line member => sizeless line (List.mem_cons_of_mem _ member)

/-- The sizes give the argument size. -/
theorem readSizes_code (code : PrintedCode) (method : OpenMethod) :
    method.readSizes (sizesLine code.stack code.locals code.arguments :: code.instructions) =
      .ok { method with argumentSize := some code.arguments } := by
  have begins : beginsWith "stack=" (sizesLine code.stack code.locals code.arguments) = true :=
    beginsWith_iff.mpr (List.prefix_append _ _)
  rw [OpenMethod.readSizes, if_pos begins, argumentSize?_sizesLine]
  dsimp only
  rw [number?_ofNat code.short]
  exact readSizes_of_sizeless code.sizeless

theorem isDescribed_behind (code : PrintedCode) {rest : List Text}
    (undescribed : isDescribed rest = false) :
    isDescribed (code.table.toList.flatMap VariableTable.lines ++ code.behind ++ rest) = false := by
  rw [List.append_assoc]
  cases code.table with
  | none =>
    change isDescribed (code.behind ++ rest) = false
    exact isDescribed_inert code.inert undescribed
  | some table => rfl

/-- Behind its code a method has the argument size and the rows that the code gives. -/
theorem run_lines (code : PrintedCode) {reading : Reading} {method : OpenMethod}
    {rest : List Text} (unsettled : method.settled = none) (rowless : method.rows = [])
    (undescribed : isDescribed rest = false) :
    ∃ after, after.settle =
        { method with argumentSize := some code.arguments, rows := code.rows }.settle ∧
      (reading.insideBody method).run (code.lines ++ rest) =
        (reading.insideBody after).run rest := by
  let sized : OpenMethod := { method with argumentSize := some code.arguments }
  have sizes : (reading.insideBody method).run (code.lines ++ rest) =
      (reading.insideBody sized).run
        (code.table.toList.flatMap VariableTable.lines ++ code.behind ++ rest) := by
    have run := Reading.run_code code.isCode_sizes
      (show (reading.insideBody method).phase ≠ .inTable by simp [Reading.insideBody]) rfl
      (code.isDescribed_behind undescribed)
    rw [code.readSizes_code method] at run
    rw [lines, ← List.cons_append, List.append_assoc, run]
    rfl
  have behind : ∀ after : OpenMethod, (reading.insideBody after).run (code.behind ++ rest) =
      (reading.insideBody after).run rest := fun after =>
    Reading.run_inert (by simp [Reading.insideBody]) code.inert undescribed
  cases shape : code.table with
  | none =>
    refine ⟨sized, ?_, ?_⟩
    · have same : sized = { sized with rows := code.rows } := by
        simp [sized, rows, shape, rowless]
      exact congrArg OpenMethod.settle same
    · rw [sizes, shape]
      exact behind sized
  | some table =>
    rcases Reading.run_table table
      (show (reading.insideBody sized).phase ≠ .inTable by simp [Reading.insideBody]) rfl
      (show sized.settled = none from unsettled) (isDescribed_inert code.inert undescribed)
      with ⟨after, settles, runs⟩
    refine ⟨after, ?_, ?_⟩
    · rw [settles]
      simp [sized, rows, shape, rowless]
    · rw [sizes, shape, Option.toList_some, List.flatMap_singleton, List.append_assoc, runs]
      exact behind after

end PrintedCode

namespace PrintedMethod

variable (method : PrintedMethod)

theorem known_memberWords : ∀ word ∈ method.words, word ∈ memberWords := fun word member =>
  mem_memberWords_of_mem_methodWords word (method.known word member)

theorem isDescribed_lines (rest : List Text) : isDescribed (method.lines ++ rest) = false :=
  isDescribed_member _ (method.heading.isMemberText _) method.known_memberWords

theorem isDescribed_code {rest : List Text} (undescribed : isDescribed rest = false) :
    isDescribed (method.code.toList.flatMap PrintedCode.lines ++
      rest) = false := by
  cases shape : method.code with
  | none => exact undescribed
  | some code =>
    rw [Option.toList_some, List.flatMap_singleton, PrintedCode.lines, ← List.cons_append,
      List.append_assoc]
    exact code.isCode_sizes.isDescribed (code.isDescribed_behind undescribed)

/-- Behind the lines of a method everything is read that they say. -/
theorem run_code (reading : Reading) {rest : List Text}
    (undescribed : isDescribed rest = false) :
    ∃ after, after.settle = method.read.settle ∧
      (reading.insideBody (OpenMethod.ofSignature method.signature)).run
          (method.code.toList.flatMap PrintedCode.lines ++ rest) =
        (reading.insideBody after).run rest := by
  cases shape : method.code with
  | none => exact ⟨OpenMethod.ofSignature method.signature, by simp [read, shape]; rfl, rfl⟩
  | some code =>
    rcases code.run_lines
      (show (OpenMethod.ofSignature method.signature).settled = none from rfl) rfl undescribed
      with ⟨after, settles, runs⟩
    refine ⟨after, ?_, ?_⟩
    · rw [settles]
      simp [read, shape]
    · rw [Option.toList_some, List.flatMap_singleton]
      exact runs

/-- The lines of a method add the method. -/
theorem run_lines {known : ClassSummary} {reading : Reading} {rest : List Text}
    (between : reading.Between known) (undescribed : isDescribed rest = false) :
    ∃ after : Reading, reading.run (method.lines ++ rest) = after.run rest ∧
      after.Between { known with methods := known.methods ++ [method.summary] } := by
  have bare := method.isDescribed_code undescribed
  have begun : reading.feed method.line (nextContent (method.descriptor :: (method.attributes ++
      method.code.toList.flatMap PrintedCode.lines) ++ rest)) =
      .next (reading.beginMethod method.signature) := by
    rw [Reading.feed_eq_feedLine _ _ between.outside]
    unfold Reading.feedLine line
    rw [List.cons_append, shapeOf_methodLine (method.heading.isMemberText _)
      method.known_memberWords method.heading.isMethodHead.uncut method.ends
      (isDescriptor_cons _ method.describes)]
    dsimp only
    rw [← line, method.parseMethod_line]
  have body : reading.beginMethod method.signature =
      reading.endMethod.insideBody (OpenMethod.ofSignature method.signature) := rfl
  have outside : (reading.beginMethod method.signature).phase ≠ .inTable := by
    simp [Reading.beginMethod]
  rcases method.run_code reading.endMethod undescribed with ⟨after, settles, runs⟩
  refine ⟨reading.endMethod.insideBody after, ?_, ?_⟩
  · have silent := isSilent_descriptor (reading.beginMethod method.signature).current.isSome
      method.describes
    rw [lines, List.cons_append, Reading.run_cons, begun]
    dsimp only
    rw [List.cons_append, List.append_assoc,
      Reading.run_silent outside (silent.shapeOf (isDescribed_inert method.inert bare)),
      Reading.run_inert outside method.inert bare, body, runs]
  · have settled := between.settled
    refine ⟨?_, by simp [Reading.insideBody], between.opened, rfl⟩
    rw [← settled, ← method.summary_settle_read, ← settles]
    simp [Reading.endMethod, Reading.insideBody]

end PrintedMethod

namespace PrintedMember

theorem isDescribed_lines (member : PrintedMember) (rest : List Text) :
    isDescribed (member.lines ++ rest) = false := by
  cases member with
  | field printed => exact printed.isDescribed_lines rest
  | method printed => exact printed.isDescribed_lines rest

theorem run_lines (member : PrintedMember) {known : ClassSummary} {reading : Reading}
    {rest : List Text} (between : reading.Between known)
    (undescribed : isDescribed rest = false) :
    ∃ after : Reading, reading.run (member.lines ++ rest) = after.run rest ∧
      after.Between (addTo known member) := by
  cases member with
  | field printed => exact printed.run_lines between undescribed
  | method printed => exact printed.run_lines between undescribed

theorem isDescribed_members (members : List PrintedMember) {rest : List Text}
    (undescribed : isDescribed rest = false) :
    isDescribed (members.flatMap lines ++ rest) = false := by
  cases members with
  | nil => exact undescribed
  | cons member members =>
    rw [List.flatMap_cons, List.append_assoc]
    exact member.isDescribed_lines _

/-- The lines of members add the members, in their order. -/
theorem run_members (members : List PrintedMember) {known : ClassSummary} {reading : Reading}
    {rest : List Text} (between : reading.Between known)
    (undescribed : isDescribed rest = false) :
    ∃ after : Reading, reading.run (members.flatMap lines ++ rest) = after.run rest ∧
      after.Between (members.foldl addTo known) := by
  induction members generalizing known reading with
  | nil => exact ⟨reading, rfl, between⟩
  | cons member members ih =>
    rcases member.run_lines between (isDescribed_members members undescribed)
      with ⟨middle, first, betweenMiddle⟩
    rcases ih betweenMiddle with ⟨after, others, betweenAfter⟩
    refine ⟨after, ?_, betweenAfter⟩
    rw [List.flatMap_cons, List.append_assoc, first, others]

end PrintedMember

end JarAtlas.Listing
