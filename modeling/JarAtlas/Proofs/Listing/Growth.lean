import JarAtlas.Proofs.Declaration.QualifiedName
import JarAtlas.Proofs.Listing.Finishing
import JarAtlas.Proofs.Text.Cuts
import JarAtlas.Proofs.Text.Decimal
import Mathlib.Data.List.TakeDrop

/-!
# A class grows while its listing is read

Were a listing to end after some line, the class would be known as far as `Reading.ended` tells.
Every further line only adds to that: fields and methods come behind the ones known, and of these
only the last method can still be given other parameter names. A method is compared without these
names by `MethodSummary.bare`, which cuts each parameter at its last space; no name holds a space,
so what is left is the type.
-/

namespace JarAtlas

/-- The type of a parameter: what stands in front of its last space. -/
def parameterType (parameter : Text) : Text :=
  ((Text.cutLast ' ' parameter).map Prod.fst).getD parameter

/-- A method without the names of its parameters. -/
def MethodSummary.bare (method : MethodSummary) : MethodSummary :=
  { method with parameters := method.parameters.map parameterType }

/-- The latter class has the members of the former, in their order, and maybe more behind. At most
the last method of the former has other parameter names in the latter. A name is never lost. -/
structure ClassSummary.GrowsTo (former latter : ClassSummary) : Prop where
  named : former.simpleName ≠ [] → latter.simpleName ≠ []
  fields : former.fields <+: latter.fields
  methods : former.methods.map MethodSummary.bare <+: latter.methods.map MethodSummary.bare
  finished : former.methods.dropLast <+: latter.methods

namespace ClassSummary.GrowsTo

theorem refl (summary : ClassSummary) : summary.GrowsTo summary where
  named := id
  fields := List.prefix_refl _
  methods := List.prefix_refl _
  finished := List.dropLast_prefix _

theorem trans {first second third : ClassSummary} (grows : first.GrowsTo second)
    (more : second.GrowsTo third) : first.GrowsTo third where
  named := more.named ∘ grows.named
  fields := grows.fields.trans more.fields
  methods := grows.methods.trans more.methods
  finished := by
    have fewer := grows.methods.length_le
    simp only [List.length_map] at fewer
    have kept : first.methods.dropLast <+: second.methods.dropLast := by
      apply List.prefix_of_prefix_length_le grows.finished (List.dropLast_prefix _)
      simp only [List.length_dropLast]
      omega
    exact kept.trans more.finished

/-- Members are added behind the known ones. -/
theorem of_prefix {former latter : ClassSummary}
    (named : former.simpleName ≠ [] → latter.simpleName ≠ [])
    (fields : former.fields <+: latter.fields)
    (methods : former.methods <+: latter.methods) : former.GrowsTo latter where
  named := named
  fields := fields
  methods := methods.map MethodSummary.bare
  finished := (List.dropLast_prefix _).trans methods

end ClassSummary.GrowsTo

namespace Listing

open Text

namespace OpenMethod

/-- No name that a parameter may be given holds a space. -/
structure IsPlain (method : OpenMethod) : Prop where
  rows : ∀ row ∈ method.rows, ' ' ∉ row.2
  declared : ∀ parameter ∈ method.declared, ∀ name ∈ parameter.2, ' ' ∉ name
  settled : ∀ parameters ∈ method.settled,
    parameters.map parameterType = method.declared.map Prod.fst

theorem parameterType_append {type name : Text} (plain : ' ' ∉ name) :
    parameterType (type ++ ' ' :: name) = type := by
  simp [parameterType, cutLast_append type plain]

theorem map_parameterType_nameFrom {rows : List (Nat × Text)}
    {declared : List (Text × Option Text)} (rowsPlain : ∀ row ∈ rows, ' ' ∉ row.2)
    (declaredPlain : ∀ parameter ∈ declared, ∀ name ∈ parameter.2, ' ' ∉ name)
    (slot number : Nat) :
    (nameFrom rows slot number declared).map parameterType = declared.map Prod.fst := by
  induction declared generalizing slot number with
  | nil => rfl
  | cons parameter others ih =>
    rcases parameter with ⟨type, declaredName⟩
    have rest := ih (fun parameter member => declaredPlain parameter (List.mem_cons_of_mem _ member))
      (slot + slotWidth type) (number + 1)
    have plain : ' ' ∉ ((rowName? rows slot).or declaredName).getD
        (("param" : Text) ++ ofNat number) := by
      cases found : rowName? rows slot with
      | some name =>
        rcases Option.map_eq_some_iff.mp found with ⟨row, first, rfl⟩
        exact rowsPlain row (List.mem_reverse.mp (List.mem_of_find?_eq_some first))
      | none =>
        cases declaredName with
        | some name => exact declaredPlain _ List.mem_cons_self name rfl
        | none =>
          intro member
          simp only [Option.none_or, Option.getD_none, List.mem_append] at member
          rcases member with word | digits
          · exact absurd word (by decide)
          · exact absurd rfl (of_mem_ofNat (· ≠ ' ') (by decide) digits)
    simp only [nameFrom, List.map_cons, rest, parameterType_append plain]

namespace IsPlain

variable {method : OpenMethod}

/-- Whatever names are known by then, a method ends with the types that its line gives. -/
theorem bare_settle (plain : method.IsPlain) :
    method.settle.summary.bare =
      { name := method.name, returnType := method.returnType, modifiers := method.modifiers
        parameters := method.declared.map Prod.fst } := by
  unfold settle
  split
  · rename_i parameters settled
    simp [MethodSummary.bare, summary, settled, plain.settled parameters settled]
  · simp [MethodSummary.bare, summary, namedParameters,
      map_parameterType_nameFrom plain.rows plain.declared]

theorem ofSignature (signature : MethodSummary) : (OpenMethod.ofSignature signature).IsPlain where
  rows := by simp [OpenMethod.ofSignature]
  declared := by
    intro parameter member name found
    rcases List.mem_map.mp member with ⟨fragment, -, rfl⟩
    unfold Member.splitDeclaredName at found
    split at found
    · simp at found
    · dsimp only at found
      split_ifs at found with bare
      · simp at found
      · simp only [Option.mem_def, Option.some.injEq] at found
        simp only [found, Bool.or_eq_true, Bool.not_eq_true', not_or, Bool.not_eq_false] at bare
        exact Declaration.not_mem_of_isIdentifier bare.2 (by decide +kernel)
  settled := by simp [OpenMethod.ofSignature]

theorem settle (plain : method.IsPlain) : method.settle.IsPlain := by
  have bare := plain.bare_settle
  cases known : method.settled with
  | some parameters =>
    rw [Reading.OpenMethod.settle_of_settled (by simp [known])]
    exact plain
  | none =>
    refine ⟨?_, ?_, ?_⟩
    · simp [OpenMethod.settle, known]
    · simpa [OpenMethod.settle, known] using plain.declared
    · simpa [OpenMethod.settle, known, MethodSummary.bare, summary] using bare

theorem addRow {line slot name : Text} (plain : method.IsPlain) (number : Nat)
    (found : tableRow? line = some (slot, name)) : (method.addRow number name).IsPlain where
  rows := by
    intro row member
    rcases List.mem_append.mp member with old | new
    · exact plain.rows row old
    · rw [List.mem_singleton.mp new]
      simp only [tableRow?, Option.bind_eq_bind, Option.bind_eq_some_iff] at found
      rcases found with ⟨start, -, length, -, slotColumn, -, type, -, row⟩
      simp only [List.span_eq_takeWhile_dropWhile, Option.ite_none_left_eq_some, Option.some.injEq,
        Prod.mk.injEq] at row
      intro space
      rw [← row.2.2] at space
      exact absurd (List.mem_takeWhile_imp space) (by decide +kernel)
  declared := plain.declared
  settled := plain.settled

theorem withSize (plain : method.IsPlain) (size : Nat) :
    ({ method with argumentSize := some size } : OpenMethod).IsPlain :=
  ⟨plain.rows, plain.declared, plain.settled⟩

end IsPlain

end OpenMethod

namespace Reading

/-- The class as it would be known if the listing ended here. -/
def ended (reading : Reading) : ClassSummary := reading.endMethod.settled

/-- The method being read, if there is one, can only be given names without spaces. -/
def IsPlain (reading : Reading) : Prop := ∀ method ∈ reading.current, method.IsPlain

theorem isPlain_start (simpleName : Text) : (start simpleName).IsPlain := by
  simp [IsPlain, start]

theorem IsPlain.of_lineEffect {line : Text} {reading after : Reading} (plain : reading.IsPlain)
    (effect : LineEffect line reading after) : after.IsPlain := by
  cases effect with
  | declaration opened =>
    rcases reading.declare_eq line with ⟨settled, declared, -, -⟩
    rw [declared]
    exact plain
  | method parsed =>
    intro method member
    simp only [beginMethod, Option.mem_some_iff] at member
    exact member ▸ .ofSignature _
  | codeSizes current size =>
    intro method member
    rw [Option.mem_some_iff] at member
    exact member ▸ (plain _ current).withSize size
  | methodEnd => simp [IsPlain, endMethod]
  | field parsed => simp [IsPlain, addField, endMethod]
  | _ => exact plain

theorem IsPlain.updateCurrent {reading : Reading} {update : OpenMethod → OpenMethod}
    (plain : reading.IsPlain) (kept : ∀ method : OpenMethod, method.IsPlain → (update method).IsPlain) :
    (reading.updateCurrent update).IsPlain := by
  intro method member
  rcases Option.map_eq_some_iff.mp member with ⟨before, current, rfl⟩
  exact kept before (plain before current)

/-- No line leads to a name with a space. -/
theorem IsPlain.of_effect {line : Text} {reading after : Reading} (plain : reading.IsPlain)
    (effect : Effect line reading after) : after.IsPlain := by
  cases effect with
  | outside effect => exact plain.of_lineEffect effect
  | columnHeads => exact plain
  | row number found inTable => exact plain.updateCurrent fun _ before => before.addRow number found
  | tableEnd inTable => exact plain.updateCurrent fun _ before => before.settle
  | foreign inTable effect =>
    have left : ({ reading with phase := .inBody } : Reading).IsPlain := plain
    exact left.of_lineEffect effect

theorem ended_methods (reading : Reading) : reading.ended.methods =
    reading.settled.methods ++ reading.current.toList.map fun method => method.settle.summary := rfl

/-- Two readings know the same class but for the parameter names of the method being read. -/
theorem growsTo_of_current {reading after : Reading} {method changed : OpenMethod}
    (settled : after.settled = reading.settled)
    (before : reading.current = some method) (current : after.current = some changed)
    (same : changed.settle.summary.bare = method.settle.summary.bare) :
    reading.ended.GrowsTo after.ended where
  named := by simp [ended, endMethod, settled]
  fields := by simp [ended, endMethod, settled]
  methods := by simp [ended_methods, settled, before, current, same]
  finished := by simp [ended_methods, settled, before, current]

/-- A declaration never takes a name away. -/
theorem simpleName_declare_ne_nil {reading : Reading} {line : Text}
    (named : reading.settled.simpleName ≠ []) : (reading.declare line).settled.simpleName ≠ [] := by
  unfold declare
  split
  · rename_i accepted
    exact Declaration.simpleName_declare_ne_nil _ accepted
  · exact named

/-- A line adds to the class. -/
theorem growsTo_of_lineEffect {line : Text} {reading after : Reading} (plain : reading.IsPlain)
    (effect : LineEffect line reading after) : reading.ended.GrowsTo after.ended := by
  cases effect with
  | declaration opened =>
    have named : reading.settled.simpleName ≠ [] → (reading.declare line).settled.simpleName ≠ [] :=
      simpleName_declare_ne_nil
    rcases reading.declare_eq line with ⟨settled, declared, fields, methods⟩
    rw [declared] at named ⊢
    apply ClassSummary.GrowsTo.of_prefix
    · exact named
    · simp [ended, endMethod, fields]
    · simp [ended_methods, methods]
  | method parsed =>
    apply ClassSummary.GrowsTo.of_prefix
    · exact id
    · simp [ended, endMethod, beginMethod]
    · simp [ended, endMethod, beginMethod]
  | @codeSizes method current size =>
    refine growsTo_of_current rfl current rfl ?_
    rw [((plain method current).withSize size).bare_settle, (plain method current).bare_settle]
  | methodEnd =>
    apply ClassSummary.GrowsTo.of_prefix
    · exact id
    · simp [ended, endMethod]
    · simp [ended, endMethod]
  | field parsed =>
    apply ClassSummary.GrowsTo.of_prefix
    · exact id
    · simp [ended, endMethod, addField]
    · simp [ended, endMethod, addField]
  | _ => exact .refl _

theorem growsTo_updateCurrent {reading : Reading} {update : OpenMethod → OpenMethod} (phase : Phase)
    (same : ∀ method ∈ reading.current,
      (update method).settle.summary.bare = method.settle.summary.bare) :
    reading.ended.GrowsTo ({ reading.updateCurrent update with phase } : Reading).ended := by
  cases current : reading.current with
  | none => simpa [updateCurrent, current, ended, endMethod] using ClassSummary.GrowsTo.refl _
  | some method =>
    have changed : (reading.updateCurrent update).current = some (update method) := by
      simp [updateCurrent, current]
    exact growsTo_of_current rfl current changed (same method current)

theorem growsTo_of_effect {line : Text} {reading after : Reading} (plain : reading.IsPlain)
    (effect : Effect line reading after) : reading.ended.GrowsTo after.ended := by
  cases effect with
  | outside effect => exact growsTo_of_lineEffect plain effect
  | columnHeads => exact .refl _
  | row number found inTable =>
    exact growsTo_updateCurrent reading.phase fun method current =>
      ((plain method current).addRow number found).bare_settle.trans
        (plain method current).bare_settle.symm
  | tableEnd inTable =>
    apply growsTo_updateCurrent
    intro method current
    rw [OpenMethod.settle_of_settled method.settle_settled]
  | foreign inTable effect =>
    have left : ({ reading with phase := .inBody } : Reading).IsPlain := plain
    have grows := growsTo_of_lineEffect left effect
    exact grows

/-- A run adds to the class that is known where it starts. -/
theorem growsTo_of_run {reading : Reading} {lines : List Text} {summary : ClassSummary}
    (plain : reading.IsPlain) (done : reading.run lines = .ok summary) :
    reading.ended.GrowsTo summary := by
  induction lines generalizing reading with
  | nil =>
    cases done
    exact .refl _
  | cons line lines ih =>
    rw [run_cons] at done
    cases step : reading.feed line (nextContent lines) with
    | next after =>
      rw [step] at done
      have effect := effect_of_feed (congrArg Step.reading? step)
      exact (growsTo_of_effect plain effect).trans (ih (plain.of_effect effect) done)
    | closed after =>
      rw [step] at done
      cases done
      exact growsTo_of_effect plain (effect_of_feed (congrArg Step.reading? step))
    | oversized digits =>
      rw [step] at done
      contradiction

end Reading

end Listing

end JarAtlas
