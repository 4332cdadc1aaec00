import JarAtlas.Proofs.Listing.Growth
import JarAtlas.Proofs.Listing.SwitchBlock
import JarAtlas.Proofs.Text.Lines

/-!
# Listings that go on

A listing is read again with more text below it. Only its last line that is not blank can be read
differently, since a descriptor may now come next: a line that ends in a semicolon is then a member,
while the listing that ended there took it for something that adds no member. Hence the class only
grows. A number of too many digits is all that can keep the longer listing from being read.
-/

namespace JarAtlas.Listing

open Text

/-- A descriptor can only make more lines look like methods, namely ones that end in a semicolon. -/
theorem listsMethod_of_undescribed (line : Text) {first : Option Text} (second : Option Text)
    (undescribed : IsUndescribed first) :
    listsMethod line first = listsMethod line second ∨
      (listsMethod line first = false ∧ listsMethod line second = true ∧
        endsWith ";" line = true) := by
  unfold listsMethod
  rw [undescribed]
  split
  · simp
  · cases endsWith ";" line with
    | false => simp
    | true =>
      rename_i behind _
      cases second.any (beginsWith descriptorStart) <;> cases behind.contains ')' <;>
        cases Member.methodModifiers.contains (firstWord line) <;>
        cases Member.passedMethodWords.contains (firstWord line) <;> simp

/-- A descriptor can only make more lines look like fields, namely ones that end in a semicolon. -/
theorem listsField_of_undescribed (line : Text) {first : Option Text} (second : Option Text)
    (undescribed : IsUndescribed first) :
    listsField line first = listsField line second ∨
      (listsField line first = false ∧ listsField line second = true ∧
        endsWith ";" line = true) := by
  unfold listsField
  rw [undescribed]
  cases endsWith ";" line with
  | false => simp
  | true =>
    cases second.any (beginsWith descriptorStart) <;> cases line.contains '(' <;>
      cases Member.fieldModifiers.contains (firstWord line) <;> simp

/-- No line looks like a field and a method. -/
theorem listsMethod_eq_false_of_listsField {line : Text} {next other : Option Text}
    (listed : listsField line next = true) : listsMethod line other = false := by
  simp only [listsField, Bool.and_eq_true, Bool.not_eq_true', List.contains_eq_mem,
    decide_eq_false_iff_not] at listed
  simp [listsMethod, cutFirst_eq_none_iff.mpr listed.1.2]

/-- Where a line is listed with one line behind it and not with another, that makes its shape that of a
member, or no difference. -/
theorem shapeOf_of_unlisted (insideMethod : Bool) {line : Text} {first second : Option Text}
    (noMethod : listsMethod line first = false) (noField : listsField line first = false)
    (listed : listsMethod line second = true ∨ listsField line second = true) :
    shapeOf insideMethod line first = shapeOf insideMethod line second ∨
      (shapeOf insideMethod line first ∉ [Shape.declaration, .bodyOpening, .method, .field] ∧
        shapeOf insideMethod line second ∈ [Shape.method, .field]) := by
  unfold shapeOf
  rw [noMethod, noField]
  -- What the line itself tells is the same both times, so all answers to the tests are gone through.
  generalize isDeclaration line = declares
  generalize (line == ['\x7b']) = opens
  generalize listsMethod line second = isMethod at listed ⊢
  generalize (line == tableHeader) = isHeader
  generalize (insideMethod && beginsWith "stack=" line) = givesSizes
  generalize (insideMethod && opensSwitch line) = isSwitch
  generalize beginsWith "static \x7b" line = isStatic
  generalize listsField line second = isField at listed ⊢
  generalize beginsWith ['\x7d'] line = closes
  generalize beginsWith "SourceFile:" line = trails
  revert declares opens isMethod isHeader givesSizes isSwitch isStatic isField closes trails
  decide

/-- With a descriptor behind it, a line is read as before, or it lists a member and did not tell of
one before. -/
theorem shapeOf_of_undescribed (insideMethod : Bool) (line : Text) {first : Option Text}
    (second : Option Text) (undescribed : IsUndescribed first) :
    shapeOf insideMethod line first = shapeOf insideMethod line second ∨
      (shapeOf insideMethod line first ∉ [Shape.declaration, .bodyOpening, .method, .field] ∧
        shapeOf insideMethod line second ∈ [Shape.method, .field] ∧ endsWith ";" line = true) := by
  rcases listsMethod_of_undescribed line second undescribed with methods | ⟨noMethod, method, ends⟩
  · rcases listsField_of_undescribed line second undescribed with fields | ⟨noField, field, ends⟩
    · left
      simp only [shapeOf, methods, fields]
    · have noMethod : listsMethod line first = false := listsMethod_eq_false_of_listsField field
      exact (shapeOf_of_unlisted insideMethod noMethod noField (.inr field)).imp_right
        fun shapes => ⟨shapes.1, shapes.2, ends⟩
  · have noField : listsField line first = false := by
      by_contra field
      rw [Bool.not_eq_false] at field
      have unlisted : listsMethod line second = false := listsMethod_eq_false_of_listsField field
      rw [method] at unlisted
      contradiction
    exact (shapeOf_of_unlisted insideMethod noMethod noField (.inl method)).imp_right
      fun shapes => ⟨shapes.1, shapes.2, ends⟩

/-- A number that the line gives has too many digits to be read. -/
def IsOversized (line : Text) (digits : Nat) : Prop :=
  ∃ number : Text, number.length = digits ∧ digitLimit < digits ∧
    (argumentSize? line = some number ∨ ∃ name, tableRow? line = some (number, name))

theorem isOversized_of_number? {line number : Text} (unread : number? number = none)
    (given : argumentSize? line = some number ∨ ∃ name, tableRow? line = some (number, name)) :
    IsOversized line number.length := by
  simp only [number?, ite_eq_right_iff, reduceCtorEq, imp_false, not_le] at unread
  exact ⟨number, rfl, unread, given⟩

theorem not_isOversized_nil (digits : Nat) : ¬IsOversized [] digits := by
  rintro ⟨number, -, -, size | ⟨name, row⟩⟩
  · exact absurd size (by simp [argumentSize?, argumentSizeFrom])
  · exact absurd row (by simp [tableRow?, numberColumn])

namespace Reading

/-- The line that closes the class in a run, if one does. -/
def closingLine? (reading : Reading) : List Text → Option Text
  | [] => none
  | line :: lines =>
      match reading.feed line (nextContent lines) with
      | .next after => after.closingLine? lines
      | .closed _ => some line
      | .oversized _ => none

theorem isOversized_of_feedLine {reading : Reading} {line : Text} {next : Option Text}
    {digits : Nat} (fed : reading.feedLine line next = .oversized digits) :
    shapeOf reading.current.isSome line next = .codeSizes ∧ IsOversized line digits := by
  unfold feedLine at fed
  generalize isShape : shapeOf reading.current.isSome line next = shape at fed
  cases shape with
  | codeSizes =>
    refine ⟨rfl, ?_⟩
    unfold takeSizes at fed
    dsimp only at fed
    split at fed
    · contradiction
    · rename_i number given
      split at fed
      · rename_i unread
        cases fed
        exact isOversized_of_number? unread (.inl given)
      · contradiction
  | _ =>
    -- No other line has a number in it that is read.
    dsimp only at fed
    repeat' split at fed
    all_goals contradiction

theorem isOversized_of_feed {reading : Reading} {line : Text} {next : Option Text}
    {digits : Nat} (fed : reading.feed line next = .oversized digits) : IsOversized line digits := by
  unfold feed at fed
  split at fed
  · split at fed
    · contradiction
    · contradiction
    · rename_i slot name row
      split at fed
      · rename_i unread
        cases fed
        exact isOversized_of_number? unread (.inr ⟨name, tableRow?_of_tableLineOf row⟩)
      · contradiction
    · exact (isOversized_of_feedLine fed).2
  · exact (isOversized_of_feedLine fed).2

/-- Only a number of too many digits keeps a run from its end. -/
theorem isOversized_of_run {reading : Reading} {lines : List Text} {digits : Nat}
    (failed : reading.run lines = .error digits) : ∃ line ∈ lines, IsOversized line digits := by
  induction lines generalizing reading with
  | nil => contradiction
  | cons line lines ih =>
    rw [run_cons] at failed
    cases step : reading.feed line (nextContent lines) with
    | next after =>
      rw [step] at failed
      rcases ih failed with ⟨other, member, oversized⟩
      exact ⟨other, List.mem_cons_of_mem _ member, oversized⟩
    | closed after =>
      rw [step] at failed
      contradiction
    | oversized found =>
      rw [step] at failed
      cases failed
      exact ⟨line, List.mem_cons_self, isOversized_of_feed step⟩

/-- Blank lines add nothing to the class. -/
theorem run_blank {reading : Reading} {lines : List Text} (blank : ∀ line ∈ lines, line = []) :
    reading.run lines = .ok reading.ended ∧ reading.closingLine? lines = none := by
  induction lines generalizing reading with
  | nil => exact ⟨rfl, rfl⟩
  | cons line lines ih =>
    have others : ∀ line ∈ lines, line = [] := fun line member =>
      blank line (List.mem_cons_of_mem _ member)
    obtain rfl : line = [] := blank line List.mem_cons_self
    have step : ∃ after : Reading, reading.feed [] (nextContent lines) = .next after ∧
        after.ended = reading.ended := by
      by_cases inTable : reading.phase = .inTable
      · refine ⟨{ reading.updateCurrent .settle with phase := .inBody }, ?_, ?_⟩
        · simp [feed, inTable, tableLineOf]
        · cases current : reading.current with
          | none => simp [ended, endMethod, Reading.updateCurrent, current]
          | some method =>
            simp [ended, endMethod, Reading.updateCurrent, current,
              OpenMethod.settle_of_settled method.settle_settled]
      · have inert : shapeOf reading.current.isSome [] (nextContent lines) = .inert := by
          by_contra telling
          exact ne_nil_of_shapeOf telling rfl
        refine ⟨reading, ?_, rfl⟩
        rw [feed_eq_feedLine _ _ inTable, feedLine, inert]
    rcases step with ⟨after, fed, same⟩
    have rest : after.run lines = .ok after.ended ∧ after.closingLine? lines = none := ih others
    rw [same] at rest
    rw [run_cons, closingLine?, fed]
    exact rest

/-- A line that tells of no member adds none. -/
theorem growsTo_of_feedLine {reading after : Reading} {line : Text} {next : Option Text}
    (plain : reading.IsPlain)
    (memberless : shapeOf reading.current.isSome line next ∉
      [Shape.declaration, .bodyOpening, .method, .field])
    (fed : (reading.feedLine line next).reading? = some after) :
    after.ended.GrowsTo reading.ended := by
  have ended : reading.endMethod.ended = reading.ended := by simp [Reading.ended]
  unfold feedLine at fed
  generalize isShape : shapeOf reading.current.isSome line next = shape at fed memberless
  cases shape with
  | tableHeader =>
    dsimp only at fed
    split_ifs at fed
    · cases fed
      exact .refl _
    · cases fed
      exact .refl _
  | codeSizes =>
    rcases Option.isSome_iff_exists.mp (insideMethod_of_shapeOf (.inl isShape))
      with ⟨method, current⟩
    rcases eq_of_takeSizes fed with rfl | ⟨size, rfl⟩
    · exact .refl _
    · rw [current]
      refine growsTo_of_current rfl rfl current ?_
      rw [((plain method current).withSize size).bare_settle, (plain method current).bare_settle]
  | closing =>
    dsimp only at fed
    split_ifs at fed
    · cases fed
      exact .refl _
    · cases fed
      rw [ended]
      exact .refl _
    · cases fed
      rw [ended]
      exact .refl _
  | staticBlock | trailer =>
    cases fed
    rw [ended]
    exact .refl _
  | switchOpening | inert =>
    cases fed
    exact .refl _
  | declaration | bodyOpening | method | field => exact absurd memberless (by decide)

/-- How the last line that is not blank is read, with a descriptor behind it and without: alike, or
it lists a member only with the descriptor. -/
theorem feed_of_undescribed (reading : Reading) (line : Text) {first : Option Text}
    (second : Option Text) (undescribed : IsUndescribed first) :
    reading.feed line first = reading.feed line second ∨
      (endsWith ";" line = true ∧ (∀ digits, reading.feed line second ≠ .oversized digits) ∧
        ∀ after, reading.IsPlain → (reading.feed line first).reading? = some after →
          after.ended.GrowsTo reading.ended) := by
  by_cases foreign : reading.phase = .inTable → tableLineOf line = .foreign
  · rw [feed_eq_leaveTable first foreign, feed_eq_leaveTable second foreign]
    rcases shapeOf_of_undescribed reading.current.isSome line second undescribed
      with same | ⟨memberless, member, ends⟩
    · left
      change shapeOf reading.leaveTable.current.isSome line first =
        shapeOf reading.leaveTable.current.isSome line second at same
      simp only [feedLine, same]
    · refine .inr ⟨ends, ?_, ?_⟩
      · intro digits oversized
        have shape := (isOversized_of_feedLine oversized).1
        change shapeOf reading.leaveTable.current.isSome line second ∈ _ at member
        rw [shape] at member
        exact absurd member (by decide)
      · intro after plain fed
        have left : reading.leaveTable.IsPlain := plain
        have grows := growsTo_of_feedLine left memberless fed
        exact grows
  · left
    rw [Classical.not_imp] at foreign
    unfold feed
    rw [foreign.1]
    dsimp only
    split
    · rfl
    · rfl
    · rfl
    · rename_i kind
      exact absurd kind foreign.2

/-- What stands below changes nothing as long as it does not describe the last line. -/
theorem nextContent_append_eq {lines : List Text} (more : List Text)
    (visible : nextContent lines ≠ none) : nextContent (lines ++ more) = nextContent lines := by
  rcases Option.ne_none_iff_exists'.mp visible with ⟨next, found⟩
  rw [nextContent_append, found]
  rfl

theorem blank_of_nextContent {lines : List Text} (nothing : nextContent lines = none) :
    ∀ line ∈ lines, line = [] := by
  intro line member
  have blank := List.find?_eq_none.mp nothing line member
  simpa using blank

/-- How one line is read in front of some lines and in front of more: alike, or nothing but blank
lines stands between the two. -/
theorem feed_append (reading : Reading) (line : Text) (lines more : List Text) :
    reading.feed line (nextContent lines) = reading.feed line (nextContent (lines ++ more)) ∨
      ((∀ line ∈ lines, line = []) ∧ endsWith ";" line = true ∧
        (∀ digits, reading.feed line (nextContent (lines ++ more)) ≠ .oversized digits) ∧
        ∀ after, reading.IsPlain → (reading.feed line (nextContent lines)).reading? = some after →
          after.ended.GrowsTo reading.ended) := by
  by_cases nothing : nextContent lines = none
  · have undescribed : IsUndescribed (nextContent lines) := by
      rw [nothing]
      rfl
    rcases reading.feed_of_undescribed line (nextContent (lines ++ more)) undescribed
      with same | different
    · exact .inl same
    · exact .inr ⟨blank_of_nextContent nothing, different⟩
  · left
    rw [nextContent_append_eq more nothing]

/-- With more lines the class only grows. -/
theorem growsTo_of_append {reading : Reading} {lines more : List Text}
    {former latter : ClassSummary} (plain : reading.IsPlain)
    (short : reading.run lines = .ok former) (long : reading.run (lines ++ more) = .ok latter) :
    former.GrowsTo latter := by
  induction lines generalizing reading with
  | nil =>
    cases short
    exact growsTo_of_run plain long
  | cons line lines ih =>
    rw [run_cons] at short
    rw [List.cons_append, run_cons] at long
    rcases reading.feed_append line lines more with same | ⟨blank, -, -, back⟩
    · rw [← same] at long
      cases step : reading.feed line (nextContent lines) with
      | next after =>
        rw [step] at short long
        exact ih (plain.of_effect (effect_of_feed (congrArg Step.reading? step))) short long
      | closed after =>
        rw [step] at short long
        cases short
        cases long
        exact .refl _
      | oversized digits =>
        rw [step] at short
        contradiction
    · -- the shorter listing ends with this line
      have shortGrows : former.GrowsTo reading.ended := by
        cases step : reading.feed line (nextContent lines) with
        | next after =>
          rw [step] at short back
          dsimp only at short
          rw [(run_blank blank).1] at short
          cases short
          exact back after plain rfl
        | closed after =>
          rw [step] at short back
          cases short
          exact back after plain rfl
        | oversized digits =>
          rw [step] at short
          contradiction
      have whole : reading.run (line :: (lines ++ more)) = .ok latter := long
      exact shortGrows.trans (growsTo_of_run plain whole)

/-- Only a line among the further ones can keep a longer run from its end. -/
theorem isOversized_of_append {reading : Reading} {lines more : List Text} {former : ClassSummary}
    {digits : Nat} (short : reading.run lines = .ok former)
    (failed : reading.run (lines ++ more) = .error digits) :
    ∃ line ∈ more, IsOversized line digits := by
  induction lines generalizing reading with
  | nil => exact isOversized_of_run failed
  | cons line lines ih =>
    rw [run_cons] at short
    rw [List.cons_append, run_cons] at failed
    rcases reading.feed_append line lines more with same | ⟨blank, -, readable, -⟩
    · rw [← same] at failed
      cases step : reading.feed line (nextContent lines) with
      | next after =>
        rw [step] at short failed
        exact ih short failed
      | closed after =>
        rw [step] at failed
        contradiction
      | oversized found =>
        rw [step] at short
        contradiction
    · cases step : reading.feed line (nextContent (lines ++ more)) with
      | next after =>
        rw [step] at failed
        rcases isOversized_of_run failed with ⟨other, member, oversized⟩
        rcases List.mem_append.mp member with empty | below
        · rw [blank other empty] at oversized
          exact absurd oversized (not_isOversized_nil digits)
        · exact ⟨other, below, oversized⟩
      | closed after =>
        rw [step] at failed
        contradiction
      | oversized found => exact absurd step (readable found)

/-- Nothing is read behind the line that closes the class. -/
theorem run_append_of_closingLine? {reading : Reading} {lines : List Text} {closing : Text}
    (more : List Text) (closes : reading.closingLine? lines = some closing)
    (unended : endsWith ";" closing = false) :
    reading.run (lines ++ more) = reading.run lines := by
  induction lines generalizing reading with
  | nil => contradiction
  | cons line lines ih =>
    rw [closingLine?] at closes
    rw [List.cons_append, run_cons, run_cons]
    rcases reading.feed_append line lines more with same | ⟨blank, ends, -, -⟩
    · rw [← same]
      cases step : reading.feed line (nextContent lines) with
      | next after =>
        rw [step] at closes
        exact ih closes
      | closed after => rfl
      | oversized digits => rfl
    · cases step : reading.feed line (nextContent lines) with
      | next after =>
        rw [step] at closes
        dsimp only at closes
        rw [(run_blank blank).2] at closes
        contradiction
      | closed after =>
        rw [step] at closes
        cases closes
        rw [ends] at unended
        contradiction
      | oversized digits =>
        rw [step] at closes
        contradiction

end Reading

theorem digitLimit_lt_of_parse {text : Text} {className : Option Text} {digits : Nat}
    (failed : parse (some text) className = .error (.oversized digits)) : digitLimit < digits := by
  cases visible : isBlankText text with
  | true => simp [parse, visible] at failed
  | false =>
    rw [parse_eq_conclude visible] at failed
    cases ran : (startFor className).run (contentLines text) with
    | ok summary =>
      rw [ran, conclude] at failed
      split_ifs at failed
      cases failed
    | error found =>
      rw [ran] at failed
      cases failed
      rcases Reading.isOversized_of_run ran with ⟨line, -, number, -, more, -⟩
      exact more

/-! ### The first lines of a listing -/

/-- The text of the first lines of a listing. -/
def firstLines (lines : List Text) (count : Nat) : Text := join "\n" (lines.take count)

theorem contentLines_append_feed (text below : Text) :
    ∃ opened : List Text, (∀ line ∈ opened, line = []) ∧
      contentLines (text ++ '\n' :: below) = contentLines text ++ (opened ++ contentLines below) := by
  rcases lines_append_feed text below with ⟨opened, blank, split⟩
  refine ⟨opened.map trim, ?_, ?_⟩
  · intro line member
    rcases List.mem_map.mp member with ⟨written, isOpened, rfl⟩
    rw [blank written isOpened]
    rfl
  · simp only [contentLines, split, List.map_append]

/-- A visible line of joined texts is a line of one of them. -/
theorem exists_of_mem_contentLines_join {texts : List Text} {line : Text}
    (member : line ∈ contentLines (join "\n" texts)) :
    line = [] ∨ ∃ text ∈ texts, line ∈ contentLines text := by
  induction texts with
  | nil => contradiction
  | cons text others ih =>
    cases others with
    | nil => exact .inr ⟨text, List.mem_cons_self, member⟩
    | cons next others =>
      rcases contentLines_append_feed text (join "\n" (next :: others)) with ⟨opened, blank, split⟩
      rw [join_cons_cons] at member
      change line ∈ contentLines (text ++ '\n' :: join "\n" (next :: others)) at member
      rw [split, List.mem_append, List.mem_append] at member
      rcases member with here | opens | below
      · exact .inr ⟨text, List.mem_cons_self, here⟩
      · exact .inl (blank line opens)
      · rcases ih below with empty | ⟨other, isOther, found⟩
        · exact .inl empty
        · exact .inr ⟨other, List.mem_cons_of_mem _ isOther, found⟩

/-- More lines add to the lines in front, and all that they add and that is visible is theirs. -/
theorem contentLines_firstLines {lines : List Text} {count longer : Nat} (inOrder : count ≤ longer)
    (nonempty : lines.take count ≠ []) :
    ∃ more : List Text,
      contentLines (firstLines lines longer) = contentLines (firstLines lines count) ++ more ∧
      ∀ line ∈ more, line = [] ∨ ∃ added ∈ (lines.take longer).drop count,
        line ∈ contentLines added := by
  unfold firstLines
  rcases join_take_append "\n" inOrder nonempty with same | further
  · exact ⟨[], by rw [List.append_nil, same], by simp⟩
  · rcases contentLines_append_feed (join "\n" (lines.take count))
        (join "\n" ((lines.take longer).drop count)) with ⟨opened, blank, split⟩
    rw [further]
    refine ⟨_, split, ?_⟩
    intro line member
    rcases List.mem_append.mp member with opens | below
    · exact .inl (blank line opens)
    · exact exists_of_mem_contentLines_join below

/-- Reading more lines of a listing never takes back what fewer of them have shown: members stay, in
their order, and at most the last method gets other parameter names. More lines can be read as well,
unless one of them gives a number of too many digits, and behind a line that closes the class they
change nothing. -/
theorem parse_firstLines {lines : List Text} {count longer : Nat} {className : Option Text}
    {former : ClassSummary} (inOrder : count ≤ longer)
    (read : parse (some (firstLines lines count)) className = .ok former) :
    (∀ latter, parse (some (firstLines lines longer)) className = .ok latter →
      former.GrowsTo latter) ∧
    ((∃ latter, parse (some (firstLines lines longer)) className = .ok latter) ∨
      ∃ digits, parse (some (firstLines lines longer)) className = .error (.oversized digits) ∧
        ∃ added ∈ (lines.take longer).drop count, ∃ line ∈ contentLines added,
          IsOversized line digits) ∧
    ∀ closing,
      (startFor className).closingLine? (contentLines (firstLines lines count)) = some closing →
      endsWith ";" closing = false →
        parse (some (firstLines lines longer)) className = .ok former := by
  rcases parse_eq_ok_iff.mp read with ⟨visible, done, named⟩
  have nonempty : lines.take count ≠ [] := by
    intro empty
    rw [firstLines, empty] at visible
    contradiction
  rcases contentLines_firstLines inOrder nonempty with ⟨more, split, theirs⟩
  have visibleLonger : isBlankText (firstLines lines longer) = false := by
    rcases join_take_append "\n" inOrder nonempty with same | further
    · rw [firstLines, same]
      exact visible
    · rw [firstLines, further, isBlankText, List.all_append]
      rw [firstLines, isBlankText] at visible
      rw [visible, Bool.false_and]
  have plain : (startFor className).IsPlain := Reading.isPlain_start _
  have parsed : parse (some (firstLines lines longer)) className =
      conclude ((startFor className).run (contentLines (firstLines lines count) ++ more)) := by
    rw [parse_eq_conclude visibleLonger, split]
  refine ⟨?_, ?_, ?_⟩
  · intro latter readLonger
    rw [parsed, conclude_eq_ok_iff] at readLonger
    exact Reading.growsTo_of_append plain done readLonger.1
  · cases doneLonger : (startFor className).run (contentLines (firstLines lines count) ++ more) with
    | ok latter =>
      have grows := Reading.growsTo_of_append plain done doneLonger
      exact .inl ⟨latter, by rw [parsed, conclude_eq_ok_iff]; exact ⟨doneLonger, grows.named named⟩⟩
    | error digits =>
      rcases Reading.isOversized_of_append done doneLonger with ⟨line, member, oversized⟩
      refine .inr ⟨digits, by rw [parsed, doneLonger]; rfl, ?_⟩
      rcases theirs line member with empty | ⟨added, isAdded, found⟩
      · rw [empty] at oversized
        exact absurd oversized (not_isOversized_nil digits)
      · exact ⟨added, isAdded, line, found, oversized⟩
  · intro closing closes unended
    rw [parsed, Reading.run_append_of_closingLine? more closes unended, conclude_eq_ok_iff]
    exact ⟨done, named⟩

/-- A listing in which a line becomes a method when its descriptor is read. -/
def pairLines : List Text :=
  ["public class a.Pair", ['\x7b'], "  public int first(int);", "    stack=1, locals=2, args_size=2",
    "  int second();", "    descriptor: ()I"]

theorem parse_pairLines :
    ∃ former latter, parse (some (firstLines pairLines 5)) none = .ok former ∧
      parse (some (firstLines pairLines 6)) none = .ok latter ∧
      former.methods.map MethodSummary.name = ["first"] ∧
      latter.methods.map MethodSummary.name = ["first", "second"] ∧ former.GrowsTo latter := by
  have former : parse (some (firstLines pairLines 5)) none = .ok
      { kind := some .ordinary, packageName := "a", simpleName := "Pair", modifiers := ["public"]
        superclass := none, interfaces := [], fields := []
        methods :=
          [{ name := "first", returnType := "int", modifiers := ["public"]
             parameters := ["int param1"] }] } := by
    decide +kernel
  have latter : parse (some (firstLines pairLines 6)) none = .ok
      { kind := some .ordinary, packageName := "a", simpleName := "Pair", modifiers := ["public"]
        superclass := none, interfaces := [], fields := []
        methods :=
          [{ name := "first", returnType := "int", modifiers := ["public"]
             parameters := ["int param1"] },
           { name := "second", returnType := "int", modifiers := [], parameters := [] }] } := by
    decide +kernel
  exact ⟨_, _, former, latter, rfl, rfl, (parse_firstLines (by decide) former).1 _ latter⟩

/-- A listing that ends in a number of too many digits. The method is static, so the number says
nothing about its parameters. -/
def oversizedLines : List Text :=
  ["public class a.Pair", ['\x7b'], "  public static void swap(int);", "    descriptor: (I)V",
    "      stack=1, locals=1, args_size=" ++ List.replicate (digitLimit + 1) '1']

set_option maxRecDepth 100000 in
/-- One more line can keep a listing from being read. -/
theorem parse_oversizedLines :
    (∃ former, parse (some (firstLines oversizedLines 4)) none = .ok former) ∧
      ∀ latter, parse (some (firstLines oversizedLines 5)) none ≠ .ok latter := by
  have former : parse (some (firstLines oversizedLines 4)) none = .ok
      { kind := some .ordinary, packageName := "a", simpleName := "Pair", modifiers := ["public"]
        superclass := none, interfaces := [], fields := []
        methods :=
          [{ name := "swap", returnType := "void", modifiers := ["public", "static"]
             parameters := ["int param1"] }] } := by
    decide +kernel
  have refused : parse (some (firstLines oversizedLines 5)) none =
      .error (.oversized (digitLimit + 1)) := by
    decide +kernel
  refine ⟨⟨_, former⟩, ?_⟩
  intro latter read
  rw [refused] at read
  contradiction

end JarAtlas.Listing
