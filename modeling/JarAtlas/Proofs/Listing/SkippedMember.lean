import JarAtlas.Proofs.Listing.SwitchBlock
import JarAtlas.Proofs.Listing.VariableTable

/-!
# Members that cannot be read

A line that lists a method and cannot be read adds no member, and it does not end the method in
front of it either. So what stands below it is read as if it belonged to that method: it may still
get another argument size or other parameter names, unless it was settled before. Everything else
in the class stays as it is without these lines, which is a frame property: a reading that differs
only in a settled method leads to a class that differs only in this method.
-/

namespace JarAtlas

/-- The class with another method in one place. -/
def ClassSummary.setMethod (summary : ClassSummary) (index : Nat) (method : MethodSummary) :
    ClassSummary :=
  { summary with methods := summary.methods.set index method }

theorem ClassSummary.setMethod_declare (summary : ClassSummary) (index : Nat)
    (method : MethodSummary) (declaration : Declaration) :
    (summary.setMethod index method).declare declaration =
      (summary.declare declaration).setMethod index method := by
  unfold declare
  by_cases nameless : summary.simpleName.isEmpty = true
  · simp only [setMethod, nameless]
    split_ifs <;> rfl
  · simp only [setMethod, nameless]
    split_ifs <;> rfl

namespace Listing

open Text

/-- The step to a changed reading. -/
def Step.map (change : Reading → Reading) : Step → Step
  | .next reading => .next (change reading)
  | .closed reading => .closed (change reading)
  | .oversized digits => .oversized digits

namespace Reading

/-! ### Readings that differ in a settled method -/

/-- The reading with another settled method in one place. -/
def setMethod (index : Nat) (method : MethodSummary) (reading : Reading) : Reading :=
  { reading with settled := reading.settled.setMethod index method }

section Frame

variable {reading : Reading} {index : Nat} {method : MethodSummary}

theorem setMethod_endMethod (below : index < reading.settled.methods.length) :
    (reading.setMethod index method).endMethod = reading.endMethod.setMethod index method := by
  simp only [setMethod, endMethod, ClassSummary.setMethod, List.set_append_left _ _ below]

theorem setMethod_declare (line : Text) :
    (reading.setMethod index method).declare line =
      (reading.declare line).setMethod index method := by
  unfold declare
  split
  · simp only [setMethod, ClassSummary.setMethod_declare]
  · rfl

theorem setMethod_takeSizes (line : Text) :
    (reading.setMethod index method).takeSizes line =
      (reading.takeSizes line).map (setMethod index method) := by
  unfold takeSizes
  split
  · rfl
  · split <;> rfl

/-- A line is read alike whatever a settled method is. -/
theorem setMethod_feedLine (below : index < reading.settled.methods.length) (line : Text)
    (next : Option Text) :
    (reading.setMethod index method).feedLine line next =
      (reading.feedLine line next).map (setMethod index method) := by
  have ended : (reading.setMethod index method).endMethod = reading.endMethod.setMethod index method :=
    setMethod_endMethod below
  unfold feedLine
  have current : (reading.setMethod index method).current = reading.current := rfl
  rw [current, setMethod_declare, setMethod_takeSizes]
  cases shapeOf reading.current.isSome line next with
  | method =>
    cases Member.parseMethod line with
    | none => rfl
    | some signature => simp only [beginMethod, ended]; rfl
  | tableHeader =>
    dsimp only
    split_ifs <;> rfl
  | staticBlock => rw [ended]; rfl
  | field =>
    cases Member.parseField line with
    | none => rfl
    | some field => simp only [addField, ended]; rfl
  | closing =>
    simp only [ended, apply_ite (Step.map (setMethod index method))]
    rfl
  | trailer => rw [ended]; rfl
  | _ => rfl

theorem setMethod_feed (below : index < reading.settled.methods.length) (line : Text)
    (next : Option Text) :
    (reading.setMethod index method).feed line next =
      (reading.feed line next).map (setMethod index method) := by
  cases reading with
  | mk settled phase current bodyOpened openSwitches =>
    cases phase with
    | inTable =>
      cases kind : tableLineOf line with
      | row slot name =>
        simp only [feed, setMethod, kind]
        cases number? slot <;> rfl
      | foreign =>
        simp only [feed, setMethod, kind]
        let left : Reading := ⟨settled, .inBody, current, bodyOpened, openSwitches⟩
        have belowLeft : index < left.settled.methods.length := below
        exact setMethod_feedLine belowLeft line next
      | _ =>
        simp only [feed, setMethod, kind]
        rfl
    | _ => exact setMethod_feedLine below line next

/-- Settled methods stay, and more of them come behind. -/
theorem settled_prefix_of_lineEffect {after : Reading} {line : Text}
    (effect : LineEffect line reading after) :
    reading.settled.methods <+: after.settled.methods := by
  cases effect with
  | declaration opened =>
    rcases reading.declare_eq line with ⟨settled, declared, -, methods⟩
    rw [declared]
    exact methods ▸ List.prefix_refl _
  | method parsed => exact List.prefix_append _ _
  | methodEnd => exact List.prefix_append _ _
  | field parsed => exact List.prefix_append _ _
  | _ => exact List.prefix_refl _

theorem settled_prefix_of_effect {after : Reading} {line : Text}
    (effect : Effect line reading after) :
    reading.settled.methods <+: after.settled.methods := by
  cases effect with
  | outside effect => exact settled_prefix_of_lineEffect effect
  | foreign inTable effect =>
    change ({ reading with phase := .inBody } : Reading).settled.methods <+: _
    exact settled_prefix_of_lineEffect effect
  | _ => exact List.prefix_refl _

/-- What is read behind a settled method does not depend on it. -/
theorem setMethod_run (below : index < reading.settled.methods.length) (lines : List Text) :
    (reading.setMethod index method).run lines =
      (reading.run lines).map fun summary => summary.setMethod index method := by
  induction lines generalizing reading with
  | nil =>
    change Except.ok (reading.setMethod index method).endMethod.settled = _
    rw [setMethod_endMethod below]
    rfl
  | cons line lines ih =>
    rw [run_cons, run_cons, setMethod_feed below]
    cases step : reading.feed line (nextContent lines) with
    | next after =>
      have grows := settled_prefix_of_effect (effect_of_feed (congrArg Step.reading? step))
      exact ih (below.trans_le grows.length_le)
    | closed after =>
      have grows := settled_prefix_of_effect (effect_of_feed (congrArg Step.reading? step))
      dsimp only [Step.map]
      rw [setMethod_endMethod (below.trans_le grows.length_le)]
      rfl
    | oversized digits => rfl

/-- A settled method is listed where it was settled. -/
theorem getElem?_of_run {lines : List Text} {summary : ClassSummary}
    (below : index < reading.settled.methods.length) (done : reading.run lines = .ok summary) :
    summary.methods[index]? = reading.settled.methods[index]? := by
  induction lines generalizing reading with
  | nil =>
    cases done
    exact List.getElem?_append_left below
  | cons line lines ih =>
    rw [run_cons] at done
    cases step : reading.feed line (nextContent lines) with
    | next after =>
      rw [step] at done
      have grows := settled_prefix_of_effect (effect_of_feed (congrArg Step.reading? step))
      rw [ih (below.trans_le grows.length_le) done]
      exact (List.prefix_iff_getElem?.mp grows index below).trans
        (List.getElem?_eq_getElem below).symm
    | closed after =>
      rw [step] at done
      cases done
      have grows := settled_prefix_of_effect (effect_of_feed (congrArg Step.reading? step))
      have kept := grows.trans (List.prefix_append _ _ :
        after.settled.methods <+: after.endMethod.settled.methods)
      exact (List.prefix_iff_getElem?.mp kept index below).trans
        (List.getElem?_eq_getElem below).symm
    | oversized digits =>
      rw [step] at done
      contradiction

end Frame

end Reading

/-! ### What stands below a member that cannot be read -/

/-- The line adds no member and ends none, wherever it stands: it is inert, belongs to the
attributes of a method, or lists a member that cannot be read. -/
inductive IsSkipped : (line : Text) → (next : Option Text) → Prop
  | inert {line : Text} {next : Option Text} (silent : shapeOf true line next = .inert) :
      IsSkipped line next
  | tableHeader (next : Option Text) : IsSkipped tableHeader next
  | sizes {line : Text} {next : Option Text} (begins : beginsWith "stack=" line = true)
      (undescribed : IsUndescribed next) : IsSkipped line next
  | method {line : Text} {next : Option Text} (shape : shapeOf true line next = .method)
      (rejected : Member.parseMethod line = none) (sizeless : beginsWith "stack=" line = false) :
      IsSkipped line next
  | field {line : Text} {next : Option Text} (shape : shapeOf true line next = .field)
      (rejected : Member.parseField line = none) (sizeless : beginsWith "stack=" line = false) :
      IsSkipped line next

/-- Each of the lines is skipped in front of those behind it. -/
def AreSkipped (behind : List Text) : List Text → Prop
  | [] => True
  | line :: lines => IsSkipped line (nextContent (lines ++ behind)) ∧ AreSkipped behind lines

namespace OpenMethod

/-- What a line outside a variable table makes of a method, and whether it opens the table. -/
def readLine (method : OpenMethod) (line : Text) : Except Nat (Bool × OpenMethod) :=
  if line = tableHeader then .ok (method.settled.isNone, method)
  else (method.readSizes [line]).map fun method => (false, method)

/-- What a line makes of a method, and whether its variable table goes on behind the line. A number
too long to read gives its count of digits. -/
def readAttribute (inTable : Bool) (method : OpenMethod) (line : Text) :
    Except Nat (Bool × OpenMethod) :=
  if inTable then
    match tableLineOf line with
    | .blank => .ok (false, method.settle)
    | .columnHeads => .ok (true, method)
    | .row slot name =>
      match number? slot with
      | none => .error slot.length
      | some slot => .ok (true, method.addRow slot name)
    | .foreign => method.readLine line
  else method.readLine line

/-- What lines make of a method, and whether its variable table goes on behind them. -/
def readAttributes (inTable : Bool) (method : OpenMethod) :
    List Text → Except Nat (Bool × OpenMethod)
  | [] => .ok (inTable, method)
  | line :: lines =>
    (method.readAttribute inTable line).bind fun (inTable, method) =>
      method.readAttributes inTable lines

theorem settled_of_readSizes {method read : OpenMethod} {lines : List Text}
    (reads : method.readSizes lines = .ok read) :
    read.settled = method.settled ∧ read.summary = method.summary := by
  induction lines generalizing method with
  | nil =>
    cases reads
    exact ⟨rfl, rfl⟩
  | cons line lines ih =>
    unfold readSizes at reads
    split_ifs at reads with sizes
    · cases given : argumentSize? line with
      | none =>
        rw [given] at reads
        exact ih reads
      | some digits =>
        rw [given] at reads
        dsimp only at reads
        cases number : number? digits with
        | none =>
          rw [number] at reads
          contradiction
        | some size =>
          rw [number] at reads
          have sized : OpenMethod.readSizes { method with argumentSize := some size } lines =
              .ok read := reads
          have kept := ih sized
          exact kept
    · exact ih reads

/-- A line that neither opens a variable table nor gives sizes says nothing about a method. -/
theorem readLine_eq_self (method : OpenMethod) {line : Text} (headless : line ≠ tableHeader)
    (sizeless : beginsWith "stack=" line = false) : method.readLine line = .ok (false, method) := by
  unfold readLine readSizes
  rw [if_neg headless, sizeless]
  rfl

/-- A settled method stays as it is known, and no variable table is read for it. -/
theorem readLine_of_settled {method read : OpenMethod} {line : Text} {inTable : Bool}
    (settled : method.settled ≠ none) (reads : method.readLine line = .ok (inTable, read)) :
    inTable = false ∧ read.settled ≠ none ∧ read.summary = method.summary := by
  unfold readLine at reads
  split_ifs at reads with header
  · cases reads
    exact ⟨Option.isNone_eq_false_iff.mpr (Option.isSome_iff_ne_none.mpr settled), settled, rfl⟩
  · cases sized : method.readSizes [line] with
    | error digits =>
      rw [sized] at reads
      contradiction
    | ok found =>
      rw [sized] at reads
      cases reads
      have same := settled_of_readSizes sized
      exact ⟨rfl, same.1 ▸ settled, same.2⟩

theorem summary_of_settled {lines : List Text} {method read : OpenMethod} {inTable : Bool}
    (settled : method.settled ≠ none)
    (reads : method.readAttributes false lines = .ok (inTable, read)) :
    read.settled ≠ none ∧ read.summary = method.summary := by
  induction lines generalizing method with
  | nil =>
    cases reads
    exact ⟨settled, rfl⟩
  | cons line lines ih =>
    change (method.readLine line).bind _ = _ at reads
    cases first : method.readLine line with
    | error digits =>
      rw [first] at reads
      contradiction
    | ok found =>
      rcases found with ⟨goesOn, after⟩
      rw [first] at reads
      rcases readLine_of_settled settled first with ⟨rfl, afterSettled, same⟩
      have rest := ih afterSettled reads
      exact ⟨rest.1, rest.2.trans same⟩

end OpenMethod

/-- Whether a method is being read matters to sizes and switches only. -/
theorem shapeOf_false_of_true {line : Text} {next : Option Text}
    (other : shapeOf true line next ∉ [Shape.codeSizes, .switchOpening]) :
    shapeOf false line next = shapeOf true line next := by
  revert other
  unfold shapeOf
  cases isDeclaration line
  case true => exact fun _ => rfl
  cases line == ['\x7b']
  case true => exact fun _ => rfl
  cases listsMethod line next
  case true => exact fun _ => rfl
  cases line == tableHeader
  case true => exact fun _ => rfl
  cases beginsWith "stack=" line
  case true => exact fun other => absurd (by simp) other
  cases opensSwitch line
  case true => exact fun other => absurd (by simp) other
  exact fun _ => rfl

namespace Reading

/-- The reading of a method, in its variable table or not. -/
def inside (reading : Reading) (inTable : Bool) (method : OpenMethod) : Reading :=
  if inTable then reading.insideTable method else reading.insideBody method

/-- A line that is skipped may tell something about the method being read, and nothing else. -/
theorem feedLine_insideBody (reading : Reading) (method : OpenMethod) {line : Text}
    {next : Option Text} (skipped : IsSkipped line next) :
    (reading.insideBody method).feedLine line next =
      match method.readLine line with
      | .ok (inTable, method) => .next (reading.inside inTable method)
      | .error digits => .oversized digits := by
  have headless : shapeOf true line next ≠ .tableHeader → line ≠ tableHeader := by
    rintro other rfl
    exact other (shapeOf_tableHeader true next)
  have current : (reading.insideBody method).current.isSome = true := rfl
  unfold feedLine
  rw [current]
  cases skipped with
  | inert silent =>
    have sizeless : beginsWith "stack=" line = false := by
      simpa using (shapeOf_eq_inert_iff.mp silent).2.2.2.2.1
    rw [method.readLine_eq_self (headless (by simp [silent])) sizeless, silent]
    rfl
  | tableHeader =>
    rw [shapeOf_tableHeader, OpenMethod.readLine, if_pos rfl]
    cases settled : method.settled <;> simp [insideBody, insideTable, inside, settled]
  | sizes begins undescribed =>
    have shape := shapeOf_codeSizes begins undescribed
    rw [shape, OpenMethod.readLine, if_neg (headless (by simp [shape])), OpenMethod.readSizes,
      if_pos begins]
    dsimp only
    unfold takeSizes
    cases argumentSize? line with
    | none => rfl
    | some digits =>
      dsimp only
      cases number? digits <;> rfl
  | method shape rejected sizeless =>
    rw [method.readLine_eq_self (headless (by simp [shape])) sizeless, shape, rejected]
    rfl
  | field shape rejected sizeless =>
    rw [method.readLine_eq_self (headless (by simp [shape])) sizeless, shape, rejected]
    rfl

theorem feed_inside (reading : Reading) (inTable : Bool) (method : OpenMethod) {line : Text}
    {next : Option Text} (skipped : IsSkipped line next) :
    (reading.inside inTable method).feed line next =
      match method.readAttribute inTable line with
      | .ok (inTable, method) => .next (reading.inside inTable method)
      | .error digits => .oversized digits := by
  have outside := reading.feedLine_insideBody method skipped
  cases inTable with
  | false => exact outside
  | true =>
    unfold feed OpenMethod.readAttribute
    dsimp only [inside, insideTable, if_true]
    cases tableLineOf line with
    | blank => rfl
    | columnHeads => rfl
    | row slot name =>
      dsimp only
      cases number? slot <;> rfl
    | foreign => exact outside

/-- While a method is being read, lines that are skipped are read as its attributes. -/
theorem run_inside (reading : Reading) {inTable : Bool} {method : OpenMethod}
    {lines behind : List Text} (skipped : AreSkipped behind lines) :
    (reading.inside inTable method).run (lines ++ behind) =
      (method.readAttributes inTable lines).bind fun (inTable, method) =>
        (reading.inside inTable method).run behind := by
  induction lines generalizing inTable method with
  | nil => rfl
  | cons line lines ih =>
    rw [List.cons_append, run_cons, reading.feed_inside inTable method skipped.1,
      OpenMethod.readAttributes]
    cases method.readAttribute inTable line with
    | error digits => rfl
    | ok read => exact ih skipped.2

/-- Where no method is being read, lines that are skipped change nothing. -/
theorem feed_outside {reading : Reading} {line : Text} {next : Option Text}
    (outside : reading.phase ≠ .inTable) (noMethod : reading.current = none)
    (skipped : IsSkipped line next) : reading.feed line next = .next reading := by
  have noneInside : reading.current.isSome = false := by rw [noMethod]; rfl
  rw [feed_eq_feedLine line next outside]
  unfold feedLine
  rw [noneInside]
  cases skipped with
  | inert silent => rw [shapeOf_false_of_true (by simp [silent]), silent]
  | tableHeader =>
    rw [shapeOf_tableHeader, noMethod]
    rfl
  | sizes begins undescribed => rw [(isSilent_codeSizes begins).shapeOf undescribed]
  | method shape rejected => rw [shapeOf_false_of_true (by simp [shape]), shape, rejected]
  | field shape rejected => rw [shapeOf_false_of_true (by simp [shape]), shape, rejected]

theorem run_outside {reading : Reading} {lines behind : List Text}
    (outside : reading.phase ≠ .inTable) (noMethod : reading.current = none)
    (skipped : AreSkipped behind lines) : reading.run (lines ++ behind) = reading.run behind := by
  induction lines with
  | nil => rfl
  | cons line lines ih =>
    rw [List.cons_append, run_cons, feed_outside outside noMethod skipped.1]
    exact ih skipped.2

/-! ### The line that ends the method -/

/-- The line ends the method being read, if there is one. -/
def EndsMethod (reading : Reading) (line : Text) (next : Option Text) : Prop :=
  match shapeOf true line next with
  | .method => Member.parseMethod line ≠ none
  | .field => Member.parseField line ≠ none
  | .staticBlock => True
  | .closing => reading.openSwitches = 0
  | .trailer => True
  | _ => False

/-- The method being read ends at the first of the lines, or there is none. -/
def EndsAt (reading : Reading) : List Text → Prop
  | [] => True
  | line :: lines => reading.EndsMethod line (nextContent lines)

/-- A line that ends the method is read as it is once the method has ended. -/
theorem feedLine_endMethod {reading : Reading} {line : Text} {next : Option Text}
    (ends : reading.EndsMethod line next) :
    reading.endMethod.feedLine line next = reading.feedLine line next := by
  have shape : ∀ insideMethod, shapeOf insideMethod line next = shapeOf true line next := by
    intro insideMethod
    cases insideMethod with
    | true => rfl
    | false =>
      apply shapeOf_false_of_true
      intro other
      unfold EndsMethod at ends
      simp only [List.mem_cons, List.not_mem_nil, or_false] at other
      rcases other with sizes | switches
      · rw [sizes] at ends
        exact ends
      · rw [switches] at ends
        exact ends
  unfold feedLine
  rw [shape reading.endMethod.current.isSome, shape reading.current.isSome]
  unfold EndsMethod at ends
  cases kind : shapeOf true line next with
  | method =>
    simp only [beginMethod, endMethod_endMethod]
    rw [kind] at ends
    cases parsed : Member.parseMethod line with
    | none => exact absurd parsed ends
    | some signature => rfl
  | field =>
    simp only [addField, endMethod_endMethod]
    rw [kind] at ends
    cases parsed : Member.parseField line with
    | none => exact absurd parsed ends
    | some field => rfl
  | staticBlock => simp only [endMethod_endMethod]
  | trailer => simp only [endMethod_endMethod]
  | closing =>
    rw [kind] at ends
    have unswitched : reading.openSwitches = 0 := ends
    simp only [endMethod_endMethod, unswitched]
    rfl
  | _ =>
    rw [kind] at ends
    exact ends.elim

theorem run_endMethod {reading : Reading} {behind : List Text} (ends : reading.EndsAt behind)
    (foreign : reading.phase = .inTable → ∀ line ∈ behind.head?, tableLineOf line = .foreign) :
    reading.endMethod.run behind = reading.run behind := by
  cases behind with
  | nil =>
    change Except.ok reading.endMethod.endMethod.settled = _
    rw [endMethod_endMethod]
    rfl
  | cons line lines =>
    have outside : reading.endMethod.phase ≠ .inTable := by simp [endMethod]
    have left : reading.leaveTable.endMethod = reading.endMethod := rfl
    have endsLeft : reading.leaveTable.EndsMethod line (nextContent lines) := ends
    rw [run_cons, run_cons, feed_eq_feedLine _ _ outside,
      feed_eq_leaveTable _ fun inTable => foreign inTable line rfl, ← left,
      feedLine_endMethod endsLeft]

/-- Behind a method, all that its attributes can matter to is the method itself. -/
theorem run_behind {reading : Reading} {method : OpenMethod} {behind : List Text}
    (current : reading.current = some method) (ends : reading.EndsAt behind) (inTable : Bool)
    (changed : OpenMethod)
    (foreign : reading.phase = .inTable ∨ inTable = true →
      ∀ line ∈ behind.head?, tableLineOf line = .foreign) :
    (reading.inside inTable changed).run behind = (reading.run behind).map fun summary =>
      summary.setMethod reading.settled.methods.length changed.settle.summary := by
  have endsInside : (reading.inside inTable changed).EndsAt behind := by
    cases inTable <;> exact ends
  have phase : (reading.inside inTable changed).phase = .inTable → inTable = true := by
    cases inTable <;> simp [inside, insideBody]
  have ended : (reading.inside inTable changed).endMethod =
      reading.endMethod.setMethod reading.settled.methods.length changed.settle.summary := by
    cases inTable <;>
      simp [inside, insideBody, insideTable, endMethod, setMethod, ClassSummary.setMethod, current]
  have below : reading.settled.methods.length < reading.endMethod.settled.methods.length := by
    simp [endMethod, current]
  rw [← run_endMethod endsInside fun open_ => foreign (.inr (phase open_)), ended,
    setMethod_run below, run_endMethod ends fun open_ => foreign (.inl open_)]

theorem leaveTable_of_ne {reading : Reading} (outside : reading.phase ≠ .inTable) :
    reading.leaveTable = reading := by
  cases reading
  simp_all [leaveTable]

theorem leaveTable_eq_inside {fed : List Text} {reading : Reading} {method : OpenMethod}
    (coherent : reading.Coherent fed) (current : reading.current = some method) :
    reading.leaveTable = reading.inside false method := by
  have notOutside := coherent.phase_ne_outside current
  cases reading with
  | mk settled phase current bodyOpened openSwitches =>
    cases phase <;> simp_all [inside, insideBody, leaveTable]

/-- The method being read is listed with what is known of it where it ends. -/
theorem getElem?_of_run_endsAt {reading : Reading} {method : OpenMethod} {behind : List Text}
    {summary : ClassSummary} (current : reading.current = some method)
    (ends : reading.EndsAt behind)
    (foreign : reading.phase = .inTable → ∀ line ∈ behind.head?, tableLineOf line = .foreign)
    (done : reading.run behind = .ok summary) :
    summary.methods[reading.settled.methods.length]? = some method.settle.summary := by
  have ended : reading.endMethod.settled.methods =
      reading.settled.methods ++ [method.settle.summary] := by
    simp [endMethod, current]
  have below : reading.settled.methods.length < reading.endMethod.settled.methods.length := by
    simp [ended]
  rw [← run_endMethod ends foreign] at done
  rw [getElem?_of_run below done, ended]
  simp

end Reading

theorem ClassSummary.setMethod_of_getElem? {summary : ClassSummary} {index : Nat}
    {method : MethodSummary} (known : summary.methods[index]? = some method) :
    summary.setMethod index method = summary := by
  rcases List.getElem?_eq_some_iff.mp known with ⟨below, rfl⟩
  simp [ClassSummary.setMethod]

/-- A member of a listing that cannot be read, with the lines below it that belong to no member that
can. -/
structure SkippedSite where
  front : List Text
  member : Text
  attributes : List Text
  behind : List Text
  listed : shapeOf true member (nextContent (attributes ++ behind)) = .method
  rejected : Member.parseMethod member = none
  not_descriptor : beginsWith descriptorStart member = false
  skipped : AreSkipped behind attributes
  undescribed : isDescribed behind = false
  visible : ∃ line ∈ front ++ behind, line ≠ []

namespace SkippedSite

/-- The lines of the listing. -/
def lines (site : SkippedSite) : List Text :=
  site.front ++ site.member :: (site.attributes ++ site.behind)

/-- The lines of the listing without the member. -/
def shorter (site : SkippedSite) : List Text := site.front ++ site.behind

variable (site : SkippedSite)

theorem member_ne_nil : site.member ≠ [] := by
  apply ne_nil_of_shapeOf
  rw [site.listed]
  simp

/-- The line of the member changes nothing but that it ends an open variable table. -/
theorem feed_member (reading : Reading)
    (foreign : reading.phase = .inTable → tableLineOf site.member = .foreign) :
    reading.feed site.member (nextContent (site.attributes ++ site.behind)) =
      .next reading.leaveTable := by
  have shape : ∀ insideMethod, shapeOf insideMethod site.member
      (nextContent (site.attributes ++ site.behind)) = .method := by
    intro insideMethod
    cases insideMethod with
    | true => exact site.listed
    | false =>
      rw [shapeOf_false_of_true (by simp [site.listed])]
      exact site.listed
  rw [Reading.feed_eq_leaveTable _ foreign]
  unfold Reading.feedLine
  rw [shape, site.rejected]

theorem isDescribed_member :
    isDescribed (site.member :: (site.attributes ++ site.behind)) = isDescribed site.behind := by
  rw [isDescribed_cons, if_neg site.member_ne_nil, site.not_descriptor, site.undescribed]

end SkippedSite

theorem conclude_map_setMethod (result : Except Nat ClassSummary) (index : Nat)
    (method : MethodSummary) :
    conclude (result.map fun summary => summary.setMethod index method) =
      (conclude result).map fun summary => summary.setMethod index method := by
  cases result with
  | error digits => rfl
  | ok summary =>
    change (if summary.simpleName.isEmpty then _ else _) =
      Except.map _ (if summary.simpleName.isEmpty then _ else _)
    split_ifs <;> rfl

/-- A listing with a member that cannot be read is read as without it, but for the method in front
of it. What stands below the member is read as attributes of that method, up to the line that ends
it. So nothing changes where no method is being read or the method is settled, and else exactly
this method gets the parameters that these attributes give it. -/
theorem parse_skippedMember {text shorter : Text} {className : Option Text} {site : SkippedSite}
    {before : Reading} (listed : contentLines text = site.lines)
    (deleted : contentLines shorter = site.shorter)
    (reached : (startFor className).readLines site.front
      (site.member :: (site.attributes ++ site.behind)) = some before)
    (foreign : before.phase = .inTable → tableLineOf site.member = .foreign) :
    (before.current = none → parse (some text) className = parse (some shorter) className) ∧
    ∀ method, before.current = some method →
      (∀ digits, method.readAttributes false site.attributes = .error digits →
        parse (some text) className = .error (.oversized digits)) ∧
      ∀ inTable read, method.readAttributes false site.attributes = .ok (inTable, read) →
        before.EndsAt site.behind →
        (before.phase = .inTable ∨ inTable = true →
          ∀ line ∈ site.behind.head?, tableLineOf line = .foreign) →
        parse (some text) className = (parse (some shorter) className).map (fun summary =>
          summary.setMethod before.settled.methods.length read.settle.summary) ∧
        (∀ summary, parse (some shorter) className = .ok summary →
          summary.methods[before.settled.methods.length]? = some method.settle.summary) ∧
        (method.settled ≠ none → parse (some text) className = parse (some shorter) className) := by
  have coherent : before.Coherent ([] ++ site.front) :=
    (Reading.coherent_start _).of_readLines reached
  have parsed : parse (some text) className =
      conclude (before.leaveTable.run (site.attributes ++ site.behind)) := by
    have member : site.member ∈ contentLines text := by simp [listed, SkippedSite.lines]
    rw [parse_eq_conclude (isBlankText_eq_false member site.member_ne_nil), listed,
      SkippedSite.lines, Reading.run_append reached, Reading.run_cons, site.feed_member _ foreign]
  have parsedShorter : parse (some shorter) className = conclude (before.run site.behind) := by
    rcases site.visible with ⟨line, member, visible⟩
    have isLine : line ∈ contentLines shorter := by rwa [deleted]
    rw [Reading.readLines_congr site.isDescribed_member] at reached
    rw [parse_eq_conclude (isBlankText_eq_false isLine visible), deleted, SkippedSite.shorter,
      Reading.run_append reached]
  refine ⟨?_, ?_⟩
  · intro noMethod
    have outside : before.phase = .outside := coherent.outside_iff.mpr noMethod
    have inBody : before.phase ≠ .inTable := by simp [outside]
    rw [parsed, parsedShorter, Reading.leaveTable_of_ne inBody,
      Reading.run_outside inBody noMethod site.skipped]
  · intro method current
    rw [Reading.leaveTable_eq_inside coherent current, before.run_inside site.skipped] at parsed
    refine ⟨?_, ?_⟩
    · intro digits oversized
      rw [parsed, oversized]
      rfl
    · intro inTable read reads ends foreignBehind
      have replaced : parse (some text) className = (parse (some shorter) className).map
          (fun summary =>
            summary.setMethod before.settled.methods.length read.settle.summary) := by
        rw [parsed, reads, parsedShorter, ← conclude_map_setMethod,
          ← Reading.run_behind current ends inTable read foreignBehind]
        rfl
      have known : ∀ summary, parse (some shorter) className = .ok summary →
          summary.methods[before.settled.methods.length]? = some method.settle.summary := by
        intro summary readShorter
        rw [parsedShorter, conclude_eq_ok_iff] at readShorter
        exact Reading.getElem?_of_run_endsAt current ends (fun open_ => foreignBehind (.inl open_))
          readShorter.1
      refine ⟨replaced, known, ?_⟩
      intro settled
      have kept := OpenMethod.summary_of_settled settled reads
      have same : read.settle.summary = method.settle.summary := by
        rw [Reading.OpenMethod.settle_of_settled kept.1,
          Reading.OpenMethod.settle_of_settled settled, kept.2]
      rw [replaced, same]
      cases readShorter : parse (some shorter) className with
      | error fault => rfl
      | ok summary =>
        change Except.ok (summary.setMethod _ _) = _
        rw [ClassSummary.setMethod_of_getElem? (known summary readShorter)]

/-- A listing in which a generic constructor, whose line cannot be read, stands below an abstract
method. -/
def shapeSite : SkippedSite where
  front := ["public abstract class a.Shape", ['\x7b'], "public abstract int scale(long);",
    "descriptor: (J)I", "flags: (0x0401) ACC_PUBLIC, ACC_ABSTRACT", ""]
  member := "public <T> a.Shape(T);"
  attributes := ["descriptor: (Ljava/lang/Object;)V", "Code:", "stack=1, locals=2, args_size=2",
    tableHeader, "Start  Length  Slot  Name   Signature", "0       5     0  this   La/Shape;",
    "0       5     1  seed   Ljava/lang/Object;", ""]
  behind := ["public void after();", "descriptor: ()V", ['\x7d']]
  listed := by decide +kernel
  rejected := by decide +kernel
  not_descriptor := by decide
  skipped := ⟨.inert (by decide +kernel), .inert (by decide +kernel), .sizes (by decide) rfl,
    .tableHeader _, .inert (by decide +kernel), .inert (by decide +kernel),
    .inert (by decide +kernel), .inert (by decide +kernel), trivial⟩
  undescribed := by decide
  visible := ⟨['\x7b'], by decide, by decide⟩

/-- The abstract method, as far as it is read in front of the constructor. -/
def scaleMethod : OpenMethod :=
  { name := "scale", returnType := "int", modifiers := ["public", "abstract"]
    declared := [("long", none)], rows := [], argumentSize := none, settled := none }

/-- The only parameter of the abstract method gets the name of the constructor's. -/
theorem parse_shapeSite :
    parse (some (join "\n" shapeSite.lines)) none =
      (parse (some (join "\n" shapeSite.shorter)) none).map fun summary =>
        summary.setMethod 0
          { name := "scale", returnType := "int", modifiers := ["public", "abstract"]
            parameters := ["long seed"] } := by
  have listed : contentLines (join "\n" shapeSite.lines) = shapeSite.lines := by decide +kernel
  have deleted : contentLines (join "\n" shapeSite.shorter) = shapeSite.shorter := by
    decide +kernel
  have reached : (startFor none).readLines shapeSite.front
      (shapeSite.member :: (shapeSite.attributes ++ shapeSite.behind)) =
      some
        { settled :=
            { kind := some .ordinary, packageName := "a", simpleName := "Shape",
              modifiers := ["public", "abstract"], superclass := none, interfaces := [],
              fields := [], methods := [] }
          phase := .inBody
          current := some scaleMethod
          bodyOpened := true
          openSwitches := 0 } := by
    decide +kernel
  have reads : scaleMethod.readAttributes false shapeSite.attributes =
      .ok (false, { scaleMethod with argumentSize := some 2, settled := some ["long seed"] }) := by
    decide +kernel
  have ends : ∀ reading : Reading, reading.EndsAt shapeSite.behind := by
    intro reading
    have shape : shapeOf true "public void after();"
        (nextContent ["descriptor: ()V", ['\x7d']]) = .method := by
      decide +kernel
    have accepted : Member.parseMethod "public void after();" ≠ none := by decide +kernel
    change reading.EndsMethod "public void after();" (nextContent ["descriptor: ()V", ['\x7d']])
    unfold Reading.EndsMethod
    rw [shape]
    exact accepted
  exact ((parse_skippedMember listed deleted reached (by decide)).2 scaleMethod rfl).2 _ _ reads (ends _)
    (by simp) |>.1

/-- A member that cannot be read can change the names of the parameters in front of it. -/
theorem parse_shapeSite_ne :
    parse (some (join "\n" shapeSite.lines)) none ≠
      parse (some (join "\n" shapeSite.shorter)) none := by
  decide +kernel

end Listing

end JarAtlas
