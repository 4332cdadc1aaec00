import JarAtlas.Proofs.Listing.Finishing
import JarAtlas.Proofs.Listing.Inert
import Mathlib.Data.List.TakeDrop

/-!
# Switch blocks in code

The brace that closes a block of switch cases looks like the one that closes the class, and only the
count of open switches tells them apart. Switches are counted while a method is being read, so a
block in the code of a method leaves no trace. In the code of a static initializer, or of a member
that cannot be read and follows no method, nothing is counted and the block closes the class.
-/

namespace JarAtlas.Listing

open Text

/-- A block of switch cases: the line that opens it, the cases, and the brace that closes it. -/
inductive IsSwitchBlock : List Text → Prop
  | mk {opener : Text} {cases : List Text} (opens : opensSwitch opener = true)
      (inert : ∀ line ∈ cases, isInert line = true) :
      IsSwitchBlock (opener :: (cases ++ [['\x7d']]))

/-- The lines of a member's code: inert ones, sizes, and complete switch blocks. -/
inductive IsCode : List Text → Prop
  | nil : IsCode []
  | inert {line : Text} {lines : List Text} (inert : isInert line = true) (others : IsCode lines) :
      IsCode (line :: lines)
  | sizes {line : Text} {lines : List Text} (begins : beginsWith "stack=" line = true)
      (others : IsCode lines) : IsCode (line :: lines)
  | block {block lines : List Text} (complete : IsSwitchBlock block) (others : IsCode lines) :
      IsCode (block ++ lines)

/-- The method with the argument size that code lines give. A number too long to read gives its
count of digits. -/
def OpenMethod.readSizes (method : OpenMethod) : List Text → Except Nat OpenMethod
  | [] => .ok method
  | line :: lines =>
    if beginsWith "stack=" line then
      match argumentSize? line with
      | none => method.readSizes lines
      | some digits =>
        match number? digits with
        | none => .error digits.length
        | some size => OpenMethod.readSizes { method with argumentSize := some size } lines
    else method.readSizes lines

theorem exists_digit_of_opensSwitch {line : Text} (opens : opensSwitch line = true) :
    ∃ digit ∈ line.head?, isDigit digit = true := by
  simp only [opensSwitch, List.span_eq_takeWhile_dropWhile, Bool.and_eq_true] at opens
  rcases opens with ⟨some, -⟩
  cases line with
  | nil => simp at some
  | cons first others =>
    refine ⟨first, rfl, ?_⟩
    by_contra letter
    simp [letter] at some

theorem shapeOf_switchOpening {line : Text} {next : Option Text} (opens : opensSwitch line = true)
    (undescribed : IsUndescribed next) : shapeOf true line next = .switchOpening := by
  have digit := exists_digit_of_opensSwitch opens
  have silent := IsSilent.of_digit digit
  have notBrace := beq_eq_false_iff_ne.mpr silent.not_bodyOpening
  have notHeader := beq_eq_false_iff_ne.mpr silent.not_tableHeader
  unfold shapeOf
  rw [silent.undeclared, notBrace, listsMethod_eq_false silent.wordless undescribed, notHeader,
    beginsWith_eq_false_of_digit digit (by decide), opens]
  rfl

theorem shapeOf_closing (insideMethod : Bool) (next : Option Text) :
    shapeOf insideMethod ['\x7d'] next = .closing := by
  have undeclared : isDeclaration ['\x7d'] = false := isDeclaration_eq_false (by decide)
  unfold shapeOf
  rw [undeclared]
  cases insideMethod <;> rfl

theorem shapeOf_codeSizes {line : Text} {next : Option Text}
    (begins : beginsWith "stack=" line = true) (undescribed : IsUndescribed next) :
    shapeOf true line next = .codeSizes := by
  have silent := isSilent_codeSizes begins
  have notBrace := beq_eq_false_iff_ne.mpr silent.not_bodyOpening
  have notHeader := beq_eq_false_iff_ne.mpr silent.not_tableHeader
  unfold shapeOf
  rw [silent.undeclared, notBrace, listsMethod_eq_false silent.wordless undescribed, notHeader,
    begins]
  rfl

theorem isDescribed_closing (rest : List Text) : isDescribed (['\x7d'] :: rest) = false := rfl

/-- A switch block describes nothing, whatever comes behind it. -/
theorem IsSwitchBlock.isDescribed {block : List Text} (complete : IsSwitchBlock block)
    (rest : List Text) : isDescribed (block ++ rest) = false := by
  cases complete with
  | @mk opener cases opens inert =>
    have digit := exists_digit_of_opensSwitch opens
    rw [List.cons_append, isDescribed_cons, if_neg]
    · exact beginsWith_eq_false_of_digit digit (by decide)
    · rintro rfl
      simp at digit

theorem IsSwitchBlock.not_codeSizes {block : List Text} (complete : IsSwitchBlock block) :
    ∀ line ∈ block, beginsWith "stack=" line = false := by
  cases complete with
  | @mk opener cases opens inert =>
    intro line member
    simp only [List.mem_cons, List.mem_append, List.not_mem_nil, or_false] at member
    rcases member with rfl | isCase | rfl
    · exact beginsWith_eq_false_of_digit (exists_digit_of_opensSwitch opens) (by decide)
    · exact not_codeSizes_of_isInert (inert line isCase)
    · rfl

theorem IsCode.isDescribed {code rest : List Text} (isCode : IsCode code)
    (undescribed : isDescribed rest = false) : isDescribed (code ++ rest) = false := by
  induction isCode with
  | nil => exact undescribed
  | inert inert others ih =>
    rw [List.cons_append, isDescribed_cons]
    split
    · exact ih
    · exact beginsWith_descriptorStart_of_isInert inert
  | sizes begins others ih =>
    rcases beginsWith_iff.mp begins with ⟨behind, rfl⟩
    rfl
  | block complete others ih =>
    rw [List.append_assoc]
    exact complete.isDescribed _

namespace Reading

/-- A switch block leaves no trace in the code of a method. -/
theorem run_switchBlock {reading : Reading} {block rest : List Text}
    (complete : IsSwitchBlock block) (outside : reading.phase ≠ .inTable)
    (inside : reading.current.isSome = true) :
    reading.run (block ++ rest) = reading.run rest := by
  cases complete with
  | @mk opener cases opens inert =>
    have ahead : Listing.isDescribed (cases ++ ['\x7d'] :: rest) = false :=
      isDescribed_inert inert (isDescribed_closing rest)
    -- the reading between the opening line and the brace
    let inBlock : Reading := { reading with openSwitches := reading.openSwitches + 1 }
    have outsideInBlock : inBlock.phase ≠ .inTable := outside
    have opening : reading.feed opener (nextContent (cases ++ ['\x7d'] :: rest)) =
        .next inBlock := by
      rw [feed_eq_feedLine _ _ outside]
      unfold feedLine
      rw [inside, shapeOf_switchOpening opens ahead]
    have closing : inBlock.feed ['\x7d'] (nextContent rest) = .next reading := by
      rw [feed_eq_feedLine _ _ outsideInBlock]
      unfold feedLine
      rw [shapeOf_closing]
      simp [inBlock]
    rw [List.cons_append, List.append_assoc, List.singleton_append, run_cons, opening]
    dsimp only
    rw [run_inert outsideInBlock inert (isDescribed_closing rest), run_cons, closing]

/-- The brace of the class ends a run. -/
theorem run_closing {reading : Reading} {rest : List Text} (outside : reading.phase ≠ .inTable)
    (opened : reading.bodyOpened = true) (unswitched : reading.openSwitches = 0) :
    reading.run (['\x7d'] :: rest) = .ok reading.endMethod.settled := by
  rw [run_cons, feed_eq_feedLine _ _ outside]
  unfold feedLine
  rw [shapeOf_closing]
  simp [unswitched, opened, endMethod]

/-- Where no method is being read, a switch block closes the class. -/
theorem run_switchBlock_closing {reading : Reading} {block rest : List Text}
    (complete : IsSwitchBlock block) (outside : reading.phase ≠ .inTable)
    (noMethod : reading.current = none) (opened : reading.bodyOpened = true)
    (unswitched : reading.openSwitches = 0) :
    reading.run (block ++ rest) = .ok reading.endMethod.settled := by
  cases complete with
  | @mk opener cases opens inert =>
    have ahead : Listing.isDescribed (cases ++ ['\x7d'] :: rest) = false :=
      isDescribed_inert inert (isDescribed_closing rest)
    have silent : IsSilent reading.current.isSome opener := by
      rw [noMethod]
      exact .of_digit (exists_digit_of_opensSwitch opens)
    rw [List.cons_append, List.append_assoc, List.singleton_append,
      run_silent outside (silent.shapeOf ahead), run_inert outside inert (isDescribed_closing rest),
      run_closing outside opened unswitched]

/-- The code of a method gives the method its argument size. -/
theorem run_code {reading : Reading} {method : OpenMethod} {code rest : List Text}
    (isCode : IsCode code) (outside : reading.phase ≠ .inTable)
    (current : reading.current = some method) (undescribed : Listing.isDescribed rest = false) :
    reading.run (code ++ rest) = (method.readSizes code).bind fun method =>
      ({ reading with current := some method } : Reading).run rest := by
  induction isCode generalizing reading method with
  | nil =>
    change reading.run rest = ({ reading with current := some method } : Reading).run rest
    rw [← current]
  | @inert line lines inert others ih =>
    have silent : shapeOf reading.current.isSome line (nextContent (lines ++ rest)) = .inert :=
      shapeOf_of_isInert _ inert (others.isDescribed undescribed)
    rw [List.cons_append, run_silent outside silent, ih outside current, OpenMethod.readSizes,
      not_codeSizes_of_isInert inert]
    rfl
  | @sizes line lines begins others ih =>
    have ahead : IsUndescribed (nextContent (lines ++ rest)) := others.isDescribed undescribed
    rw [List.cons_append, run_cons, feed_eq_feedLine _ _ outside, OpenMethod.readSizes,
      if_pos begins]
    unfold feedLine
    rw [current, Option.isSome_some, shapeOf_codeSizes begins ahead]
    dsimp only
    unfold takeSizes
    cases argumentSize? line with
    | none => exact ih outside current
    | some digits =>
      dsimp only
      cases number? digits with
      | none => rfl
      | some size =>
        dsimp only
        rw [current]
        let sized : Reading :=
          { reading with current := some { method with argumentSize := some size } }
        have outsideSized : sized.phase ≠ .inTable := outside
        exact ih outsideSized rfl
  | @block block lines complete others ih =>
    have same : method.readSizes (block ++ lines) = method.readSizes lines := by
      have sizeless := complete.not_codeSizes
      clear complete
      induction block with
      | nil => rfl
      | cons line block ihBlock =>
        rw [List.cons_append, OpenMethod.readSizes, sizeless line List.mem_cons_self]
        exact ihBlock fun line member => sizeless line (List.mem_cons_of_mem _ member)
    rw [List.append_assoc, run_switchBlock complete outside (by simp [current]), ih outside current,
      same]

/-- Where no method is being read, the first switch block in code closes the class. -/
theorem run_code_closing {reading : Reading} {code block rest : List Text} (isCode : IsCode code)
    (complete : IsSwitchBlock block) (outside : reading.phase ≠ .inTable)
    (noMethod : reading.current = none) (opened : reading.bodyOpened = true)
    (unswitched : reading.openSwitches = 0) :
    reading.run (code ++ (block ++ rest)) = .ok reading.endMethod.settled := by
  have bare := complete.isDescribed rest
  induction isCode with
  | nil =>
    change reading.run (block ++ rest) = _
    exact run_switchBlock_closing complete outside noMethod opened unswitched
  | @inert line lines inert others ih =>
    have silent : shapeOf reading.current.isSome line
        (nextContent (lines ++ (block ++ rest))) = .inert :=
      shapeOf_of_isInert _ inert (others.isDescribed bare)
    rw [List.cons_append, run_silent outside silent, ih]
  | @sizes line lines begins others ih =>
    have silent : IsSilent reading.current.isSome line := by
      rw [noMethod]
      exact isSilent_codeSizes begins
    rw [List.cons_append, run_silent outside (silent.shapeOf (others.isDescribed bare)), ih]
  | block earlier others ih =>
    rw [List.append_assoc]
    exact run_switchBlock_closing earlier outside noMethod opened unswitched

/-- The reading as a line finds it that ends a variable table. -/
def leaveTable (reading : Reading) : Reading :=
  { reading with phase := if reading.phase = .inTable then .inBody else reading.phase }

theorem phase_leaveTable (reading : Reading) : reading.leaveTable.phase ≠ .inTable := by
  cases reading with
  | mk settled phase current bodyOpened openSwitches => cases phase <;> simp [leaveTable]

theorem feed_eq_leaveTable {reading : Reading} {line : Text} (next : Option Text)
    (foreign : reading.phase = .inTable → tableLineOf line = .foreign) :
    reading.feed line next = reading.leaveTable.feedLine line next := by
  by_cases inTable : reading.phase = .inTable
  · unfold feed leaveTable
    rw [if_pos inTable, inTable]
    dsimp only
    rw [foreign inTable]
  · rw [feed_eq_feedLine line next inTable, leaveTable, if_neg inTable]

@[simp]
theorem endMethod_endMethod (reading : Reading) :
    reading.endMethod.endMethod = reading.endMethod := by
  simp [endMethod]

/-- A method is being read behind a member line: the one that the line lists or, where the line
cannot be read, the one in front of it. -/
def ReadsMethodBehind (reading : Reading) (line : Text) (next : Option Text) : Prop :=
  shapeOf reading.current.isSome line next = .method ∧
    (Member.parseMethod line ≠ none ∨ reading.current ≠ none)

end Reading

/-- A switch block in the code of a member of a listing. -/
structure SwitchSite where
  front : List Text
  member : Text
  descriptor : Option Text
  code : List Text
  block : List Text
  behind : List Text
  describes : ∀ line ∈ descriptor, beginsWith descriptorStart line = true
  isCode : IsCode code
  complete : IsSwitchBlock block
  undescribed : isDescribed behind = false

namespace SwitchSite

/-- The lines behind the member's, with or without the block. -/
def attributes (site : SwitchSite) (block : List Text) : List Text :=
  site.descriptor.toList ++ (site.code ++ (block ++ site.behind))

/-- The lines of the listing, with or without the block. -/
def lines (site : SwitchSite) (block : List Text) : List Text :=
  site.front ++ site.member :: site.attributes block

variable {site : SwitchSite} {reading : Reading}

theorem isDescribed_attributes {block : List Text}
    (undescribed : isDescribed (block ++ site.behind) = false) :
    isDescribed (site.attributes block) = site.descriptor.isSome := by
  unfold attributes
  cases descriptor : site.descriptor with
  | none => exact site.isCode.isDescribed undescribed
  | some line =>
    have begins := site.describes line descriptor
    rw [Option.toList_some, List.singleton_append, isDescribed_cons, if_neg]
    · exact begins
    · rintro rfl
      exact absurd begins (by decide)

theorem run_attributes {block : List Text} (outside : reading.phase ≠ .inTable)
    (undescribed : isDescribed (block ++ site.behind) = false) :
    reading.run (site.attributes block) = reading.run (site.code ++ (block ++ site.behind)) := by
  unfold attributes
  cases descriptor : site.descriptor with
  | none => rfl
  | some line =>
    have silent := isSilent_descriptor reading.current.isSome (site.describes line descriptor)
    exact Reading.run_silent outside (silent.shapeOf (site.isCode.isDescribed undescribed))

/-- In the code of a method the block can be left out. -/
theorem run_attributes_of_method (outside : reading.phase ≠ .inTable)
    (inside : reading.current ≠ none) :
    reading.run (site.attributes site.block) = reading.run (site.attributes []) := by
  rcases Option.ne_none_iff_exists'.mp inside with ⟨method, current⟩
  have bare := site.complete.isDescribed site.behind
  have bareWithout : isDescribed ([] ++ site.behind) = false := site.undescribed
  rw [run_attributes outside bare, run_attributes outside bareWithout,
    Reading.run_code site.isCode outside current bare,
    Reading.run_code site.isCode outside current bareWithout]
  congr 1
  funext method
  have outsideMethod : ({ reading with current := some method } : Reading).phase ≠ .inTable :=
    outside
  exact Reading.run_switchBlock site.complete outsideMethod rfl

/-- Elsewhere the block closes the class, or an earlier one does. -/
theorem run_attributes_closing (coherent : reading.current = none → reading.openSwitches = 0)
    (outside : reading.phase ≠ .inTable) (noMethod : reading.current = none)
    (opened : reading.bodyOpened = true) :
    reading.run (site.attributes site.block) = .ok reading.endMethod.settled := by
  rw [run_attributes outside (site.complete.isDescribed site.behind)]
  exact Reading.run_code_closing site.isCode site.complete outside noMethod opened
    (coherent noMethod)

theorem isDescribed_attributes_eq (site : SwitchSite) :
    isDescribed (site.attributes site.block) = isDescribed (site.attributes []) := by
  have bareWithout : isDescribed ([] ++ site.behind) = false := site.undescribed
  rw [isDescribed_attributes (site.complete.isDescribed site.behind),
    isDescribed_attributes bareWithout]

/-- The member's line leads to the same reading with the block and without it. -/
theorem feed_member_eq (site : SwitchSite) (reading : Reading) :
    reading.feed site.member (nextContent (site.attributes []) ) =
      reading.feed site.member (nextContent (site.attributes site.block)) :=
  reading.feed_congr site.member site.isDescribed_attributes_eq.symm

theorem run_member_of_method
    (foreign : reading.phase = .inTable → tableLineOf site.member = .foreign)
    (reads : reading.ReadsMethodBehind site.member (nextContent (site.attributes site.block))) :
    reading.run (site.member :: site.attributes site.block) =
      reading.run (site.member :: site.attributes []) := by
  rcases reads with ⟨shape, readable⟩
  rw [Reading.run_cons, Reading.run_cons, feed_member_eq, Reading.feed_eq_leaveTable _ foreign]
  unfold Reading.feedLine
  change shapeOf reading.leaveTable.current.isSome _ _ = _ at shape
  rw [shape]
  dsimp only
  cases parsed : Member.parseMethod site.member with
  | some signature =>
    exact run_attributes_of_method (by simp [Reading.beginMethod]) (by simp [Reading.beginMethod])
  | none =>
    rw [parsed] at readable
    have inside : reading.current ≠ none := readable.resolve_left (by simp)
    exact run_attributes_of_method reading.phase_leaveTable inside

theorem run_member_closing {fed : List Text} (coherent : reading.Coherent fed)
    (opened : reading.bodyOpened = true)
    (foreign : reading.phase = .inTable → tableLineOf site.member = .foreign)
    (isMember : shapeOf reading.current.isSome site.member
      (nextContent (site.attributes site.block)) ∈ [Shape.method, .staticBlock])
    (unread : ¬reading.ReadsMethodBehind site.member (nextContent (site.attributes site.block))) :
    reading.run (site.member :: site.attributes site.block) = .ok reading.endMethod.settled := by
  rw [Reading.run_cons, Reading.feed_eq_leaveTable _ foreign]
  unfold Reading.feedLine
  unfold Reading.ReadsMethodBehind at unread
  change shapeOf reading.leaveTable.current.isSome _ _ ∈ _ at isMember
  change ¬(shapeOf reading.leaveTable.current.isSome _ _ = _ ∧ _) at unread
  simp only [List.mem_cons, List.not_mem_nil, or_false] at isMember
  rcases isMember with shape | shape
  · rw [shape] at unread ⊢
    have unreadable : Member.parseMethod site.member = none ∧ reading.current = none := by
      simpa using unread
    dsimp only
    rw [unreadable.1]
    have unswitched : reading.current = none → reading.openSwitches = 0 := by
      intro noMethod
      by_contra counted
      exact coherent.switches (Nat.pos_of_ne_zero counted) noMethod
    have closed : reading.leaveTable.run (site.attributes site.block) =
        .ok reading.leaveTable.endMethod.settled :=
      run_attributes_closing unswitched reading.phase_leaveTable unreadable.2 opened
    exact closed
  · rw [shape]
    have closed : reading.leaveTable.endMethod.run (site.attributes site.block) =
        .ok reading.leaveTable.endMethod.endMethod.settled :=
      run_attributes_closing (fun _ => rfl) (by simp [Reading.endMethod]) rfl opened
    rw [Reading.endMethod_endMethod] at closed
    exact closed

end SwitchSite

theorem ne_nil_of_shapeOf {insideMethod : Bool} {line : Text} {next : Option Text}
    (telling : shapeOf insideMethod line next ≠ .inert) : line ≠ [] := by
  rintro rfl
  have undeclared : isDeclaration [] = false := isDeclaration_eq_false (by decide)
  apply telling
  unfold shapeOf
  rw [undeclared]
  cases insideMethod <;> rfl

/-- Deleting a switch block from the code of a member changes nothing exactly if a method is being
read there, or if nothing more is known of the class without the block than in front of it. Where no
method is being read, the block closes the class, and what is listed behind it is lost. -/
theorem parse_switchBlock {text shorter : Text} {className : Option Text} {site : SwitchSite}
    {before : Reading} (listed : contentLines text = site.lines site.block)
    (deleted : contentLines shorter = site.lines [])
    (reached : (startFor className).readLines site.front
      (site.member :: site.attributes site.block) = some before)
    (opened : before.bodyOpened = true)
    (foreign : before.phase = .inTable → tableLineOf site.member = .foreign)
    (isMember : shapeOf before.current.isSome site.member
      (nextContent (site.attributes site.block)) ∈ [Shape.method, .staticBlock]) :
    (parse (some text) className = parse (some shorter) className ↔
      before.ReadsMethodBehind site.member (nextContent (site.attributes site.block)) ∨
        parse (some shorter) className = conclude (.ok before.endMethod.settled)) ∧
    (¬before.ReadsMethodBehind site.member (nextContent (site.attributes site.block)) →
      parse (some text) className = conclude (.ok before.endMethod.settled)) := by
  have visible : site.member ≠ [] := by
    apply ne_nil_of_shapeOf
    intro inert
    rw [inert] at isMember
    exact absurd isMember (by decide)
  have coherent : before.Coherent ([] ++ site.front) :=
    (Reading.coherent_start _).of_readLines reached
  have ahead : isDescribed (site.member :: site.attributes site.block) =
      isDescribed (site.member :: site.attributes []) := by
    rw [isDescribed_cons, isDescribed_cons, if_neg visible, if_neg visible]
  have parsed : parse (some text) className =
      conclude (before.run (site.member :: site.attributes site.block)) := by
    have member : site.member ∈ contentLines text := by simp [listed, SwitchSite.lines]
    rw [parse_eq_conclude (isBlankText_eq_false member visible), listed, SwitchSite.lines,
      Reading.run_append reached]
  have parsedShorter : parse (some shorter) className =
      conclude (before.run (site.member :: site.attributes [])) := by
    have member : site.member ∈ contentLines shorter := by simp [deleted, SwitchSite.lines]
    rw [Reading.readLines_congr ahead] at reached
    rw [parse_eq_conclude (isBlankText_eq_false member visible), deleted, SwitchSite.lines,
      Reading.run_append reached]
  have closing : ¬before.ReadsMethodBehind site.member (nextContent (site.attributes site.block)) →
      parse (some text) className = conclude (.ok before.endMethod.settled) := by
    intro unread
    rw [parsed, SwitchSite.run_member_closing coherent opened foreign isMember unread]
  refine ⟨⟨?_, ?_⟩, closing⟩
  · intro same
    by_cases reads :
        before.ReadsMethodBehind site.member (nextContent (site.attributes site.block))
    · exact .inl reads
    · exact .inr (same ▸ closing reads)
  · intro either
    by_cases reads :
        before.ReadsMethodBehind site.member (nextContent (site.attributes site.block))
    · rw [parsed, parsedShorter, SwitchSite.run_member_of_method foreign reads]
    · rw [closing reads, either.resolve_left reads]

/-- A listing in which a switch stands in the code of the first of two members. -/
def routerSite (member : Text) : SwitchSite where
  front := ["public class a.Router", ['\x7b']]
  member := member
  descriptor := some "descriptor: (I)I"
  code := ["Code:", "stack=1, locals=2, args_size=2"]
  block := ["1: tableswitch   \x7b // 1 to 1", "1: 20", "default: 22", ['\x7d']]
  behind := ["20: ireturn", "public void after();", "descriptor: ()V", ['\x7d']]
  describes := by decide
  isCode := .inert (by decide +kernel) (.sizes (by decide) .nil)
  complete := IsSwitchBlock.mk (show opensSwitch "1: tableswitch   \x7b // 1 to 1" = true by decide)
    (show ∀ line ∈ (["1: 20", "default: 22"] : List Text), isInert line = true by decide +kernel)
  undescribed := by decide

/-- The text of that listing, with or without the switch. -/
def routerText (member : Text) (block : List Text) : Text :=
  join "\n" ((routerSite member).lines block)

deriving instance DecidableEq for Reading

theorem parse_router :
    parse (some (routerText "public int pick(int);" (routerSite []).block)) none =
      parse (some (routerText "public int pick(int);" [])) none := by
  have listed : contentLines (routerText "public int pick(int);" (routerSite []).block) =
      (routerSite "public int pick(int);").lines (routerSite "public int pick(int);").block := by
    decide +kernel
  have deleted : contentLines (routerText "public int pick(int);" []) =
      (routerSite "public int pick(int);").lines [] := by
    decide +kernel
  have reached : (startFor none).readLines (routerSite "public int pick(int);").front
      ("public int pick(int);" :: (routerSite "public int pick(int);").attributes
        (routerSite "public int pick(int);").block) =
      some
        { settled :=
            { kind := some .ordinary, packageName := "a", simpleName := "Router",
              modifiers := ["public"], superclass := none, interfaces := [], fields := [],
              methods := [] }
          phase := .outside
          current := none
          bodyOpened := true
          openSwitches := 0 } := by
    decide +kernel
  exact (parse_switchBlock listed deleted reached rfl (by decide) (by decide +kernel)).1.mpr
    (.inl ⟨by decide +kernel, .inl (by decide +kernel)⟩)

/-- A switch in the code of a static initializer costs the members behind it. -/
theorem parse_staticBlock_ne :
    parse (some (routerText "static \x7b\x7d;" (routerSite []).block)) none ≠
      parse (some (routerText "static \x7b\x7d;" [])) none := by
  decide +kernel

end JarAtlas.Listing
