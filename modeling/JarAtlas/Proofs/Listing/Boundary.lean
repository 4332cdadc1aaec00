import JarAtlas.Proofs.Listing.MethodBlock
import JarAtlas.Proofs.Member.Signature

/-!
# What ends a method

A method that is read up to the rows of its variable table may end in many ways. A blank line settles
it and leaves it being read; the header of another attribute ends the table and settles nothing; a
further member, a static initializer, the brace of the class, the trailer and the end of the text
settle it on the way out. Whichever comes, the method is listed as its own lines tell it, as long as
no sizes and no further table come for it behind a table that ends without settling it.

Inside a table a line is first tried as a line of the table, so a member whose line looks like a row
is no boundary but one row more. And of two braces the one that closes a switch block ends nothing.
-/

namespace JarAtlas.Listing

open Text

/-- The lines say nothing about the method being read up to the one that ends it, outside a table
with as many open switches. -/
def leavesMethod : (openSwitches : Nat) → List Text → Bool
  | _, [] => true
  | openSwitches, line :: lines =>
    match shapeOf true line (nextContent lines) with
    | .tableHeader => false
    | .codeSizes => false
    | .method => (Member.parseMethod line).isSome || leavesMethod openSwitches lines
    | .field => (Member.parseField line).isSome || leavesMethod openSwitches lines
    | .staticBlock => true
    | .trailer => true
    | .closing => openSwitches == 0 || leavesMethod (openSwitches - 1) lines
    | .switchOpening => leavesMethod (openSwitches + 1) lines
    | .declaration => leavesMethod openSwitches lines
    | .bodyOpening => leavesMethod openSwitches lines
    | .inert => leavesMethod openSwitches lines

/-- What comes behind the variable table of a method. -/
inductive Boundary : List Text → Prop
  | endOfText : Boundary []
  | blank (behind : List Text) : Boundary ([] :: behind)
  | header {line : Text} {behind : List Text}
      (inert : shapeOf true line (nextContent behind) = .inert)
      (foreign : tableLineOf line = .foreign) (leaves : leavesMethod 0 behind = true) :
      Boundary (line :: behind)
  | method {line : Text} {behind : List Text}
      (listed : shapeOf true line (nextContent behind) = .method)
      (accepted : Member.parseMethod line ≠ none) (foreign : tableLineOf line = .foreign) :
      Boundary (line :: behind)
  | field {line : Text} {behind : List Text}
      (listed : shapeOf true line (nextContent behind) = .field)
      (accepted : Member.parseField line ≠ none) (noStart : beginsWith "Start" line = false)
      (noSlot : beginsWith "Slot" line = false) : Boundary (line :: behind)
  | ending {line : Text} {behind : List Text}
      (ends : shapeOf true line (nextContent behind) ∈ [Shape.staticBlock, .closing, .trailer]) :
      Boundary (line :: behind)

/-! ### Boundaries are no lines of a table -/

theorem tableLineOf_of_parseField {line : Text} (accepted : Member.parseField line ≠ none)
    (noStart : beginsWith "Start" line = false) (noSlot : beginsWith "Slot" line = false) :
    tableLineOf line = .foreign := by
  cases line with
  | nil =>
    have unread : Member.parseField [] = none := by decide
    exact absurd unread accepted
  | cons first others =>
    have noDigit : isDigit first = false := by
      rw [Bool.eq_false_iff]
      intro digital
      exact accepted (Member.parseField_of_digit others digital)
    exact tableLineOf_eq_foreign rfl noDigit noStart noSlot

theorem exists_ending_prefix {line : Text} {next : Option Text}
    (ends : shapeOf true line next ∈ [Shape.staticBlock, .closing, .trailer]) :
    ∃ start ∈ ([['\x7d'], "static \x7b", "SourceFile:"] : List Text), start <+: line := by
  by_contra none
  have absent : ∀ start ∈ ([['\x7d'], "static \x7b", "SourceFile:"] : List Text),
      beginsWith start line = false := by
    intro start member
    rw [Bool.eq_false_iff]
    intro begins
    exact none ⟨start, member, beginsWith_iff.mp begins⟩
  revert ends
  unfold shapeOf
  rw [absent ['\x7d'] (by simp), absent "static \x7b" (by simp), absent "SourceFile:" (by simp)]
  split_ifs <;> simp_all

theorem tableLineOf_of_ending {line : Text} {next : Option Text}
    (ends : shapeOf true line next ∈ [Shape.staticBlock, .closing, .trailer]) :
    tableLineOf line = .foreign := by
  rcases exists_ending_prefix ends with ⟨start, member, rest, rfl⟩
  simp only [List.mem_cons, List.not_mem_nil, or_false] at member
  rcases member with rfl | rfl | rfl
  · exact tableLineOf_eq_foreign rfl (by decide) rfl rfl
  · exact tableLineOf_eq_foreign rfl (by decide) rfl rfl
  · exact tableLineOf_eq_foreign rfl (by decide) rfl rfl

/-- Behind a boundary that is not blank nothing is said about the method up to the line that ends
it, and the boundary ends the table. -/
theorem Boundary.leaves {behind : List Text} (boundary : Boundary behind)
    (visible : behind.head? ≠ some []) :
    leavesMethod 0 behind = true ∧ ∀ line ∈ behind.head?, tableLineOf line = .foreign := by
  cases boundary with
  | endOfText => exact ⟨rfl, by simp⟩
  | blank behind => exact absurd rfl visible
  | header inert foreign leaves =>
    exact ⟨by rw [leavesMethod, inert, leaves], by simpa using foreign⟩
  | method listed accepted foreign =>
    have read := Option.isSome_iff_ne_none.mpr accepted
    exact ⟨by rw [leavesMethod, listed, read]; rfl, by simpa using foreign⟩
  | field listed accepted noStart noSlot =>
    have read := Option.isSome_iff_ne_none.mpr accepted
    have foreign := tableLineOf_of_parseField accepted noStart noSlot
    exact ⟨by rw [leavesMethod, listed, read]; rfl, by simpa using foreign⟩
  | ending ends =>
    refine ⟨?_, by simpa using tableLineOf_of_ending ends⟩
    rw [leavesMethod]
    simp only [List.mem_cons, List.not_mem_nil, or_false] at ends
    rcases ends with shape | shape | shape
    · rw [shape]
    · rw [shape]
      rfl
    · rw [shape]

namespace Reading

/-- A line that leaves the method being read alone either ends it or changes nothing about it. -/
theorem endsMethod_or_feedLine {reading : Reading} {method : OpenMethod} {line : Text}
    {lines : List Text} (current : reading.current = some method)
    (leaves : leavesMethod reading.openSwitches (line :: lines) = true) :
    reading.EndsMethod line (nextContent lines) ∨
      ∃ after, reading.feedLine line (nextContent lines) = .next after ∧
        after.phase = reading.phase ∧ after.current = some method ∧
        after.settled.methods = reading.settled.methods ∧
        leavesMethod after.openSwitches lines = true := by
  have known : reading.current.isSome = true := by simp [current]
  unfold EndsMethod feedLine
  rw [known]
  rw [leavesMethod] at leaves
  cases shape : shapeOf true line (nextContent lines) with
  | declaration =>
    rw [shape] at leaves
    rcases reading.declare_eq line with ⟨settled, declared, -, methods⟩
    rw [declared]
    exact .inr ⟨_, rfl, rfl, current, methods, leaves⟩
  | bodyOpening | inert =>
    rw [shape] at leaves
    exact .inr ⟨_, rfl, rfl, current, rfl, leaves⟩
  | method =>
    rw [shape] at leaves
    dsimp only at leaves ⊢
    cases parsed : Member.parseMethod line with
    | some signature => exact .inl (by simp)
    | none =>
      rw [parsed] at leaves
      exact .inr ⟨_, rfl, rfl, current, rfl, leaves⟩
  | field =>
    rw [shape] at leaves
    dsimp only at leaves ⊢
    cases parsed : Member.parseField line with
    | some field => exact .inl (by simp)
    | none =>
      rw [parsed] at leaves
      exact .inr ⟨_, rfl, rfl, current, rfl, leaves⟩
  | tableHeader | codeSizes =>
    rw [shape] at leaves
    contradiction
  | switchOpening =>
    rw [shape] at leaves
    exact .inr ⟨_, rfl, rfl, current, rfl, leaves⟩
  | staticBlock | trailer => exact .inl trivial
  | closing =>
    rw [shape] at leaves
    by_cases closed : reading.openSwitches = 0
    · exact .inl closed
    · have goesOn : leavesMethod (reading.openSwitches - 1) lines = true := by
        simpa [closed] using leaves
      dsimp only
      rw [if_pos (Nat.pos_of_ne_zero closed)]
      exact .inr ⟨_, rfl, rfl, current, rfl, goesOn⟩

/-- A method that is left alone is listed as it is known. -/
theorem getElem?_of_run_leavesMethod {reading : Reading} {method : OpenMethod} {lines : List Text}
    {summary : ClassSummary} (outside : reading.phase ≠ .inTable)
    (current : reading.current = some method)
    (leaves : leavesMethod reading.openSwitches lines = true)
    (done : reading.run lines = .ok summary) :
    summary.methods[reading.settled.methods.length]? = some method.settle.summary := by
  induction lines generalizing reading with
  | nil =>
    have ends : reading.EndsAt [] := trivial
    exact getElem?_of_run_endsAt current ends (fun inTable => absurd inTable outside) done
  | cons line lines ih =>
    rcases endsMethod_or_feedLine current leaves with
      ends | ⟨after, step, phase, goesOn, methods, leavesOn⟩
    · have endsAt : reading.EndsAt (line :: lines) := ends
      exact getElem?_of_run_endsAt current endsAt (fun inTable => absurd inTable outside) done
    · rw [run_cons, feed_eq_feedLine _ _ outside, step] at done
      rw [← methods]
      exact ih (phase ▸ outside) goesOn leavesOn done

/-- A line that ends a table is read as it is behind the table. -/
theorem run_leaveTable {reading : Reading} {lines : List Text}
    (foreign : ∀ line ∈ lines.head?, tableLineOf line = .foreign) :
    reading.leaveTable.run lines = reading.run lines := by
  cases lines with
  | nil => rfl
  | cons line lines =>
    rw [run_cons, run_cons, feed_eq_feedLine _ _ reading.phase_leaveTable,
      feed_eq_leaveTable _ fun _ => foreign line rfl]

/-- At a boundary the method in whose table the reading stands is listed as it is known there. -/
theorem getElem?_of_run_boundary {fed behind : List Text} {reading : Reading} {method : OpenMethod}
    {summary : ClassSummary} (coherent : (reading.insideTable method).Coherent fed)
    (closed : reading.openSwitches = 0) (boundary : Boundary behind)
    (done : (reading.insideTable method).run behind = .ok summary) :
    summary.methods[reading.settled.methods.length]? = some method.settle.summary := by
  by_cases blank : behind.head? = some []
  · rcases List.head?_eq_some_iff.mp blank with ⟨rest, rfl⟩
    have step : (reading.insideTable method).feed [] (nextContent rest) =
        .next (reading.insideBody method.settle) := rfl
    have settled := coherent.of_feed (congrArg Step.reading? step)
    rw [run_cons, step] at done
    have inBody : (reading.insideBody method.settle).run rest = .ok summary := done
    have kept := getElem?_of_run_settled settled rfl method.settle_settled inBody
    exact kept
  · rcases boundary.leaves blank with ⟨leaves, foreign⟩
    rw [← run_leaveTable foreign] at done
    have leavesInside : leavesMethod (reading.insideTable method).leaveTable.openSwitches behind =
        true := by
      rw [← leaves, ← closed]
      rfl
    have outside := (reading.insideTable method).phase_leaveTable
    have ended := getElem?_of_run_leavesMethod outside rfl leavesInside done
    exact ended

end Reading

/-- The boundary behind a method does not matter. Wherever a block stands that is read, and whichever
boundary comes behind it, the method is listed as the block alone tells it. If a number in the block
is too long to read, the listing cannot be read either. -/
theorem parse_boundary {text : Text} {className : Option Text} {front behind : List Text}
    {block : MethodBlock} {before : Reading}
    (listed : contentLines text = front ++ (block.lines ++ behind))
    (reached : (startFor className).readLines front (block.lines ++ behind) = some before)
    (foreign : before.phase = .inTable → tableLineOf block.line = .foreign)
    (boundary : Boundary behind) :
    (∀ digits, block.read = .error digits →
      parse (some text) className = .error (.oversized digits)) ∧
    ∀ method, block.read = .ok method → ∀ summary, parse (some text) className = .ok summary →
      summary.methods[before.summary.methods.length]? = some method.settle.summary := by
  have reaches := block.reaches behind foreign
  have visible : ∃ line ∈ front ++ (block.lines ++ behind), line ≠ [] := by
    refine ⟨block.line, by simp [MethodBlock.lines], ?_⟩
    apply ne_nil_of_shapeOf
    rw [block.listed]
    simp
  have parsed := parse_of_readLines listed visible reached
  refine ⟨?_, ?_⟩
  · intro digits oversized
    rw [oversized] at reaches
    have stopped : before.run (block.lines ++ behind) = .error digits := reaches
    rw [parsed, stopped]
    rfl
  · intro method read summary done
    rw [read] at reaches
    have through : before.readLines block.lines behind =
        some ((before.beginMethod block.signature).insideTable method) := reaches
    have coherent := ((Reading.coherent_start _).of_readLines reached).of_readLines through
    rw [parsed, conclude_eq_ok_iff, Reading.run_append through] at done
    have listedAt := Reading.getElem?_of_run_boundary coherent rfl boundary done.1
    have index : (before.beginMethod block.signature).settled.methods.length =
        before.summary.methods.length := by
      simp [Reading.beginMethod, Reading.endMethod, Reading.summary]
    rwa [index] at listedAt

/-- A method with a switch in its code and a table of two variables. -/
def swapBlock : MethodBlock where
  line := "public void swap(int);"
  signature :=
    { name := "swap", returnType := "void", modifiers := ["public"], parameters := ["int"] }
  attributes := ["descriptor: (I)V", "Code:", "stack=1, locals=2, args_size=2",
    "0: tableswitch   \x7b // 1 to 1", "1: 20", "default: 20", ['\x7d'], "20: return"]
  rows := ["Start  Length  Slot  Name   Signature", "0      21     0  this   La/Pair;",
    "0      21     1  size   I"]
  listed := by decide +kernel
  accepted := by decide +kernel
  attached := by decide +kernel
  tabular := by decide +kernel

/-- The lines in front of that method. -/
def swapFront : List Text := ["public class a.Pair", ['\x7b']]

/-- The text of a class with that method, and with any lines behind its table. -/
def swapText (behind : List Text) : Text :=
  join "\n" (swapFront ++ (swapBlock.lines ++ behind))

/-- The method as its block tells it. -/
def swapRead : OpenMethod where
  name := "swap"
  returnType := "void"
  modifiers := ["public"]
  declared := [("int", none)]
  rows := [(0, "this"), (1, "size")]
  argumentSize := some 2
  settled := none

/-- The header of another attribute with a further switch behind it. -/
def typeTable : List Text :=
  ["LocalVariableTypeTable:", "Start  Length  Slot  Name   Signature",
    "9: lookupswitch  \x7b", ['\x7d']]

/-- The switch behind the table does not count as an end of the method, but the brace of the class
behind it does, and the sizes behind that one make no difference. -/
theorem parse_boundary_swap :
    ∃ summary, parse (some (swapText (typeTable ++ [['\x7d'], "stack=1, locals=2, args_size=1"])))
        none = .ok summary ∧
      summary.methods[0]? = some
        { name := "swap", returnType := "void", modifiers := ["public"]
          parameters := ["int size"] } := by
  have listed : contentLines (swapText (typeTable ++ [['\x7d'], "stack=1, locals=2, args_size=1"])) =
      swapFront ++ (swapBlock.lines ++
        (typeTable ++ [['\x7d'], "stack=1, locals=2, args_size=1"])) := by
    decide +kernel
  have reached : (startFor none).readLines swapFront (swapBlock.lines ++
      (typeTable ++ [['\x7d'], "stack=1, locals=2, args_size=1"])) =
      some
        { settled :=
            { kind := some .ordinary, packageName := "a", simpleName := "Pair",
              modifiers := ["public"], superclass := none, interfaces := [], fields := [],
              methods := [] }
          phase := .outside
          current := none
          bodyOpened := true
          openSwitches := 0 } := by
    decide +kernel
  have boundary : Boundary (typeTable ++ [['\x7d'], "stack=1, locals=2, args_size=1"]) :=
    .header (by decide +kernel) (by decide +kernel) (by decide +kernel)
  have read : swapBlock.read = .ok swapRead := by decide +kernel
  have parsed : parse (some (swapText (typeTable ++ [['\x7d'], "stack=1, locals=2, args_size=1"])))
      none = .ok
        { kind := some .ordinary, packageName := "a", simpleName := "Pair", modifiers := ["public"]
          superclass := none, interfaces := [], fields := []
          methods :=
            [{ name := "swap", returnType := "void", modifiers := ["public"]
               parameters := ["int size"] }] } := by
    decide +kernel
  exact ⟨_, parsed, ((parse_boundary listed reached (by decide) boundary).2 _ read _ parsed).trans
    (by decide +kernel)⟩

/-- The parameters of the first method of a class. -/
def firstParameters (text : Text) : Option (List Text) :=
  ((parse (some text) none).toOption.bind fun summary => summary.methods.head?).map
    MethodSummary.parameters

/-- A brace that closes only a switch ends nothing, so sizes behind it still count; and a method
line that looks like a row is taken for one. -/
theorem parse_swap_ne :
    firstParameters (swapText [[]]) = some (["int size"] : List Text) ∧
      (tableLineOf "LocalVariableTypeTable:" = .foreign ∧
        shapeOf true "LocalVariableTypeTable:" (some "Start  Length  Slot  Name   Signature") =
          .inert ∧
        firstParameters (swapText (typeTable ++ [("stack=1, locals=2, args_size=1" : Text)])) =
          some (["int this"] : List Text)) ∧
      shapeOf true "0 9 1 other go(int);" (some "descriptor: (I)V") = .method ∧
      Member.parseMethod "0 9 1 other go(int);" ≠ none ∧
      firstParameters (swapText ["0 9 1 other go(int);", "descriptor: (I)V"]) =
        some (["int other"] : List Text) := by
  decide +kernel

end JarAtlas.Listing
