import JarAtlas.Proofs.Listing.Invariant
import JarAtlas.Proofs.Listing.Run

/-!
# Every method is finished once

The readings that a run passes through, from the first line to the end that settles the last
method. The invariant holds of all of them; from each to the next the finished methods only grow at
the end, and at the end of the run they are the methods of the class. So each method is finished by
exactly one step of the run, and stays as it was finished.
-/

namespace JarAtlas.Listing

namespace Reading

/-- The readings of a run: the first, one after every line that is read, and the last. A number too
long to read ends the run without a last one. -/
def states (reading : Reading) : List Text → List Reading
  | [] => [reading, reading.endMethod]
  | line :: lines =>
      match reading.feed line (lines.find? (!·.isEmpty)) with
      | .next after => reading :: after.states lines
      | .closed after => [reading, after, after.endMethod]
      | .oversized _ => [reading]

theorem head?_states (reading : Reading) (lines : List Text) :
    (reading.states lines).head? = some reading := by
  cases lines with
  | nil => rfl
  | cons line lines =>
    unfold states
    split <;> rfl

theorem Coherent.of_feed {fed : List Text} {reading after : Reading} {line : Text}
    {next : Option Text} (coherent : reading.Coherent fed)
    (step : (reading.feed line next).reading? = some after) : after.Coherent (fed ++ [line]) :=
  coherent.of_effect (effect_of_feed step)

/-- The reading behind the first lines is coherent with them. -/
theorem Coherent.of_readLines {fed lines rest : List Text} {reading after : Reading}
    (coherent : reading.Coherent fed) (reached : reading.readLines lines rest = some after) :
    after.Coherent (fed ++ lines) := by
  induction lines generalizing fed reading with
  | nil =>
    cases reached
    simpa using coherent
  | cons line lines ih =>
    unfold readLines at reached
    split at reached
    · rename_i next step
      simpa using ih (coherent.of_feed (congrArg Step.reading? step)) reached
    · contradiction

/-- Every state of a run is coherent with the lines that are read by then. -/
theorem coherent_of_getElem?_states {fed lines : List Text} {reading state : Reading} {count : Nat}
    (coherent : reading.Coherent fed) (reached : (reading.states lines)[count]? = some state) :
    state.Coherent (fed ++ lines.take count) := by
  induction lines generalizing fed reading count with
  | nil =>
    have grown := coherent.mono (List.sublist_append_left fed (([] : List Text).take count))
    rcases count with _ | _ | count
    · cases reached
      exact grown
    · cases reached
      exact grown.endMethod
    · simp [states] at reached
  | cons line lines ih =>
    unfold states at reached
    cases step : reading.feed line (lines.find? (!·.isEmpty)) with
    | next after =>
      rw [step] at reached
      cases count with
      | zero =>
        cases reached
        simpa using coherent
      | succ count =>
        have stepped := coherent.of_feed (congrArg Step.reading? step)
        simpa using ih stepped reached
    | closed after =>
      rw [step] at reached
      have stepped := coherent.of_feed (congrArg Step.reading? step)
      rcases count with _ | _ | _ | count
      · cases reached
        simpa using coherent
      · cases reached
        simpa using stepped
      · cases reached
        refine stepped.endMethod.mono ?_
        simp
      · simp at reached
    | oversized digits =>
      rw [step] at reached
      cases count with
      | zero =>
        cases reached
        simpa using coherent
      | succ count => simp at reached

theorem finished_endMethod (reading : Reading) :
    reading.endMethod.finished = reading.settled.methods ++
      reading.current.toList.map fun method => method.settle.summary := by
  simp [finished, endMethod]

theorem OpenMethod.settle_of_settled {method : OpenMethod} (settled : method.settled ≠ none) :
    method.settle = method := by
  unfold OpenMethod.settle
  split
  · rfl
  · contradiction

/-- The finished methods stay, and more of them come behind. -/
theorem finished_prefix_endMethod (reading : Reading) :
    reading.finished <+: reading.endMethod.finished := by
  rw [finished_endMethod, finished]
  cases reading.current with
  | none => simp
  | some method =>
    cases settled : method.settled with
    | none => simp [settled]
    | some parameters =>
      simp [settled, OpenMethod.settle_of_settled (by simp [settled] : method.settled ≠ none)]

theorem finished_beginMethod (reading : Reading) (signature : MethodSummary) :
    (reading.beginMethod signature).finished = reading.endMethod.finished := by
  simp [finished, beginMethod, OpenMethod.ofSignature, endMethod]

theorem finished_prefix_of_lineEffect {reading after : Reading} {line : Text}
    (effect : LineEffect line reading after) : reading.finished <+: after.finished := by
  cases effect with
  | inert => exact List.prefix_refl _
  | declaration opened =>
    rcases reading.declare_eq line with ⟨settled, declared, -, methods⟩
    simp only [declared, finished, methods]
    exact List.prefix_refl _
  | bodyOpening => exact List.prefix_refl _
  | method parsed =>
    rw [finished_beginMethod]
    exact reading.finished_prefix_endMethod
  | tableHeader current unsettled => exact List.prefix_refl _
  | codeSizes current size =>
    simp only [finished, current, Option.toList_some]
    cases settled : OpenMethod.settled _ <;> simp [settled, OpenMethod.summary]
  | switchOpening current => exact List.prefix_refl _
  | methodEnd => exact reading.finished_prefix_endMethod
  | field parsed => exact reading.finished_prefix_endMethod
  | switchClosing open_ => exact List.prefix_refl _

theorem finished_prefix_of_effect {fed : List Text} {reading after : Reading} {line : Text}
    (coherent : reading.Coherent fed) (effect : Effect line reading after) :
    reading.finished <+: after.finished := by
  cases effect with
  | outside effect => exact finished_prefix_of_lineEffect effect
  | columnHeads => exact List.prefix_refl _
  | row number found inTable =>
    rcases coherent.table_unsettled inTable with ⟨method, current, unsettled⟩
    simp [finished, updateCurrent, current, unsettled, OpenMethod.addRow]
  | tableEnd inTable =>
    rcases coherent.table_unsettled inTable with ⟨method, current, unsettled⟩
    simp [finished, updateCurrent, current, unsettled]
  | foreign inTable effect =>
    change ({ reading with phase := .inBody } : Reading).finished <+: after.finished
    exact finished_prefix_of_lineEffect effect

/-- The state behind any other holds its finished methods, in the same order. -/
theorem finished_pairwise_states {fed lines : List Text} {reading : Reading}
    (coherent : reading.Coherent fed) :
    (reading.states lines).Pairwise fun first second => first.finished <+: second.finished := by
  have least : ∀ (lines fed : List Text) (reading : Reading), reading.Coherent fed →
      (∀ state ∈ reading.states lines, reading.finished <+: state.finished) ∧
      (reading.states lines).Pairwise fun first second => first.finished <+: second.finished := by
    intro lines
    induction lines with
    | nil =>
      intro fed reading coherent
      have last := reading.finished_prefix_endMethod
      simp [states, last]
    | cons line lines ih =>
      intro fed reading coherent
      unfold states
      cases step : reading.feed line (lines.find? (!·.isEmpty)) with
      | next after =>
        have effect := effect_of_feed (congrArg Step.reading? step)
        have grows := finished_prefix_of_effect coherent effect
        rcases ih _ after (coherent.of_effect effect) with ⟨from_after, pairwise⟩
        have all : ∀ state ∈ after.states lines, reading.finished <+: state.finished :=
          fun state member => grows.trans (from_after state member)
        exact ⟨by simpa using all, List.pairwise_cons.mpr ⟨all, pairwise⟩⟩
      | closed after =>
        have effect := effect_of_feed (congrArg Step.reading? step)
        have grows := finished_prefix_of_effect coherent effect
        have last := after.finished_prefix_endMethod
        simp [grows, last, grows.trans last]
      | oversized digits => simp
  exact (least lines fed reading coherent).2

/-- A run that is not cut short ends with all methods of the class finished. -/
theorem finished_last_of_run {lines : List Text} {reading : Reading} {summary : ClassSummary}
    (done : reading.run lines = .ok summary) :
    ∃ last, (reading.states lines).getLast? = some last ∧ last.finished = summary.methods := by
  induction lines generalizing reading with
  | nil =>
    cases done
    exact ⟨reading.endMethod, rfl, by simp [finished, endMethod]⟩
  | cons line lines ih =>
    unfold run at done
    unfold states
    cases step : reading.feed line (lines.find? (!·.isEmpty)) with
    | next after =>
      rw [step] at done
      rcases ih done with ⟨last, ends, finished⟩
      refine ⟨last, ?_, finished⟩
      change (reading :: after.states lines).getLast? = some last
      cases shape : after.states lines with
      | nil => simp [shape] at ends
      | cons state others =>
        rw [List.getLast?_cons_cons, ← shape]
        exact ends
    | closed after =>
      rw [step] at done
      cases done
      exact ⟨after.endMethod, rfl, by simp [finished, endMethod]⟩
    | oversized digits =>
      rw [step] at done
      contradiction

/-- Counts that never fall pass every number between the first and the last at one place. -/
theorem existsUnique_passing {counts : List Nat} {first last number : Nat}
    (sorted : counts.Pairwise (· ≤ ·)) (starts : counts.head? = some first)
    (ends : counts.getLast? = some last) (above : first ≤ number) (below : number < last) :
    ∃! place, ∃ before after, counts[place]? = some before ∧ counts[place + 1]? = some after ∧
      before ≤ number ∧ number < after := by
  induction counts generalizing first with
  | nil => simp at starts
  | cons count counts ih =>
    rw [List.head?_cons, Option.some.injEq] at starts
    subst starts
    cases counts with
    | nil =>
      rw [List.getLast?_singleton, Option.some.injEq] at ends
      omega
    | cons next counts =>
      rcases List.pairwise_cons.mp sorted with ⟨least, sortedRest⟩
      by_cases passes : number < next
      · refine ⟨0, ⟨count, next, rfl, rfl, above, passes⟩, ?_⟩
        rintro place ⟨before, after, foundBefore, -, notAbove, -⟩
        cases place with
        | zero => rfl
        | succ place =>
          have member := List.mem_of_getElem? (l := next :: counts) foundBefore
          rcases List.mem_cons.mp member with rfl | later
          · omega
          · have atLeast := (List.pairwise_cons.mp sortedRest).1 before later
            omega
      · rw [List.getLast?_cons_cons] at ends
        rcases ih sortedRest rfl ends (by omega) with ⟨place, found, unique⟩
        refine ⟨place + 1, found, ?_⟩
        rintro other ⟨before, after, foundBefore, foundAfter, notAbove, passed⟩
        cases other with
        | zero =>
          cases foundAfter
          contradiction
        | succ other =>
          rw [unique other ⟨before, after, foundBefore, foundAfter, notAbove, passed⟩]

/-- Each method of the class is finished by exactly one step of a run. -/
theorem existsUnique_finishing {simpleName : Text} {lines : List Text} {summary : ClassSummary}
    (done : (start simpleName).run lines = .ok summary) {index : Nat}
    (below : index < summary.methods.length) :
    ∃! count, ∃ before after : Reading, ((start simpleName).states lines)[count]? = some before ∧
      ((start simpleName).states lines)[count + 1]? = some after ∧
      before.finished.length ≤ index ∧ index < after.finished.length := by
  have pairwise : ((start simpleName).states lines).Pairwise fun first second =>
      first.finished <+: second.finished := finished_pairwise_states (coherent_start simpleName)
  rcases finished_last_of_run done with ⟨last, ends, finished⟩
  have sorted : (((start simpleName).states lines).map (·.finished.length)).Pairwise (· ≤ ·) :=
    List.pairwise_map.mpr (pairwise.imp fun grows => grows.length_le)
  have starts : (((start simpleName).states lines).map (·.finished.length)).head? = some 0 := by
    rw [List.head?_map, head?_states]
    rfl
  have stops : (((start simpleName).states lines).map (·.finished.length)).getLast? =
      some last.finished.length := by
    rw [List.getLast?_map, ends]
    rfl
  have passed := existsUnique_passing sorted starts stops (Nat.zero_le index) (finished ▸ below)
  simpa only [List.getElem?_map, Option.map_eq_some_iff, exists_and_left, exists_and_right,
    exists_exists_and_eq_and] using passed

/-- What is finished at any state is a beginning of the methods of the class. -/
theorem finished_prefix_of_run {fed lines : List Text} {reading : Reading} {summary : ClassSummary}
    (coherent : reading.Coherent fed) (done : reading.run lines = .ok summary) :
    ∀ state ∈ reading.states lines, state.finished <+: summary.methods := by
  have pairwise : (reading.states lines).Pairwise fun first second =>
      first.finished <+: second.finished := finished_pairwise_states coherent
  rcases finished_last_of_run done with ⟨last, ends, finished⟩
  rcases List.getLast?_eq_some_iff.mp ends with ⟨others, split⟩
  intro state member
  rw [split] at member pairwise
  rw [← finished]
  rcases List.mem_append.mp member with earlier | same
  · exact (List.pairwise_append.mp pairwise).2.2 state earlier last List.mem_cons_self
  · rcases List.mem_singleton.mp same with rfl
    exact List.prefix_refl _

/-- A method that is finished stays as it is, whatever is read behind it. -/
theorem getElem?_of_run_settled {fed lines : List Text} {reading : Reading} {method : OpenMethod}
    {summary : ClassSummary} (coherent : reading.Coherent fed)
    (current : reading.current = some method) (settled : method.settled ≠ none)
    (done : reading.run lines = .ok summary) :
    summary.methods[reading.settled.methods.length]? = some method.summary := by
  have isState : reading ∈ reading.states lines := List.mem_of_head? (reading.head?_states lines)
  rcases finished_prefix_of_run coherent done reading isState with ⟨others, whole⟩
  have finished : reading.finished = reading.settled.methods ++ [method.summary] := by
    simp [Reading.finished, current, Option.isSome_iff_ne_none.mpr settled]
  rw [← whole, finished, List.append_assoc, List.getElem?_append_right (Nat.le_refl _), Nat.sub_self]
  rfl

/-- The methods of the class come from lines of their own, in the order of these lines. -/
theorem exists_signatureLines_of_run {fed lines : List Text} {reading : Reading}
    {summary : ClassSummary} (coherent : reading.Coherent fed)
    (done : reading.run lines = .ok summary) :
    ∃ signatureLines, signatureLines.Sublist (fed ++ lines) ∧
      List.Forall₂ NamedAt signatureLines summary.methods := by
  induction lines generalizing fed reading with
  | nil =>
    cases done
    rcases coherent.endMethod.methods with ⟨named, sublist, listed, -⟩
    exact ⟨named, by simpa using sublist, listed⟩
  | cons line lines ih =>
    unfold run at done
    cases step : reading.feed line (lines.find? (!·.isEmpty)) with
    | next after =>
      rw [step] at done
      simpa using ih (coherent.of_feed (congrArg Step.reading? step)) done
    | closed after =>
      rw [step] at done
      cases done
      have stepped := coherent.of_feed (congrArg Step.reading? step)
      rcases stepped.endMethod.methods with ⟨named, sublist, listed, -⟩
      refine ⟨named, sublist.trans ?_, listed⟩
      simp
    | oversized digits =>
      rw [step] at done
      contradiction

/-- The invariant of the state machine once the lines `read` are read: the phases and the current
method go together, and of the known methods all but an unsettled current one have their names. -/
structure StateInvariant (read : List Text) (reading : Reading) : Prop where
  outside_iff : reading.phase = .outside ↔ reading.current = none
  table_unsettled : reading.phase = .inTable →
    ∃ method, reading.current = some method ∧ method.settled = none
  current_last : ∀ method ∈ reading.current,
    reading.summary.methods.getLast? = some method.summary
  switches : 0 < reading.openSwitches → reading.current ≠ none
  settled_rows : ∀ method ∈ reading.current, method.settled ≠ none → method.rows = []
  methods_eq : reading.summary.methods = reading.finished ++ reading.unfinished
  methods : ∃ named bare : List Text, (named ++ bare).Sublist read ∧
    List.Forall₂ NamedAt named reading.finished ∧ List.Forall₂ BareAt bare reading.unfinished

theorem Coherent.stateInvariant {read : List Text} {reading : Reading}
    (coherent : reading.Coherent read) : reading.StateInvariant read where
  outside_iff := coherent.outside_iff
  table_unsettled := coherent.table_unsettled
  current_last := by
    intro method member
    rw [Option.mem_def] at member
    simp [summary, member]
  switches := coherent.switches
  settled_rows := by
    intro method member
    rcases coherent.methods with ⟨lines, -, -, listed⟩
    rcases listed method member with ⟨line, -, fromLine⟩
    exact fromLine.settled_rows
  methods_eq := reading.summary_methods
  methods := by
    rcases coherent.methods with ⟨lines, sublist, named, listed⟩
    unfold finished unfinished
    cases current : reading.current with
    | none => exact ⟨lines, [], by simpa using sublist, by simpa using named, .nil⟩
    | some method =>
      rcases listed method current with ⟨line, sublistLine, fromLine⟩
      cases settled : method.settled with
      | none =>
        have bare := fromLine.bareAt settled
        exact ⟨lines, [line], sublistLine, by simpa [settled] using named,
          by simpa [settled] using bare⟩
      | some parameters =>
        have last := fromLine.namedAt (by simp [settled])
        refine ⟨lines ++ [line], [], by simpa using sublistLine, ?_, by simp [settled]⟩
        simpa [settled] using List.rel_append named (List.Forall₂.cons last List.Forall₂.nil)

end Reading

/-- The invariant holds after every line of every text. Each method of a class that is read in full
is finished by exactly one step of the run, keeps what it was finished with, and has a named
parameter for every fragment of a line of its own. -/
theorem states_invariant (text : Text) (className : Option Text) :
    (∀ count state, ((startFor className).states (contentLines text))[count]? = some state →
      Reading.StateInvariant ((contentLines text).take count) state) ∧
    ∀ summary, parse (some text) className = .ok summary →
      (∀ index < summary.methods.length, ∃! count, ∃ before after : Reading,
        ((startFor className).states (contentLines text))[count]? = some before ∧
        ((startFor className).states (contentLines text))[count + 1]? = some after ∧
        before.finished.length ≤ index ∧ index < after.finished.length) ∧
      (∀ state ∈ (startFor className).states (contentLines text),
        state.finished <+: summary.methods) ∧
      ∃ signatureLines, signatureLines.Sublist (contentLines text) ∧
        List.Forall₂ NamedAt signatureLines summary.methods := by
  have coherent : (startFor className).Coherent [] := Reading.coherent_start _
  refine ⟨?_, ?_⟩
  · intro count state reached
    simpa using (Reading.coherent_of_getElem?_states coherent reached).stateInvariant
  · intro summary read
    rcases parse_eq_ok_iff.mp read with ⟨-, done, -⟩
    exact ⟨fun index => Reading.existsUnique_finishing done, Reading.finished_prefix_of_run coherent done,
      Reading.exists_signatureLines_of_run coherent done⟩

end JarAtlas.Listing
