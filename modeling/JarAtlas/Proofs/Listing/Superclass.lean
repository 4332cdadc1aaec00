import JarAtlas.Proofs.Declaration.QualifiedName
import JarAtlas.Proofs.Listing.Effects

/-!
# Named superclasses

A class that a listing describes has no superclass or one with a name: only a declaration line names
a superclass, and what it names begins with an identifier.
-/

namespace JarAtlas.Listing

namespace Reading

/-- The superclass that is known so far, if there is one, has a name. -/
def NamesSuperclass (reading : Reading) : Prop := reading.settled.superclass ≠ some []

variable {reading after : Reading} {line : Text}

theorem NamesSuperclass.declare (named : reading.NamesSuperclass) (line : Text) :
    (reading.declare line).NamesSuperclass := by
  unfold Reading.declare
  split
  · rename_i declaration accepted
    exact Declaration.superclass?_ne_nil accepted
  · exact named

theorem NamesSuperclass.of_lineEffect (named : reading.NamesSuperclass)
    (effect : LineEffect line reading after) : after.NamesSuperclass := by
  cases effect with
  | declaration opened => exact named.declare line
  | _ => exact named

theorem NamesSuperclass.of_effect (named : reading.NamesSuperclass)
    (effect : Effect line reading after) : after.NamesSuperclass := by
  cases effect with
  | outside effect => exact named.of_lineEffect effect
  | foreign inTable effect =>
    have left : NamesSuperclass { reading with phase := .inBody } := named
    exact left.of_lineEffect effect
  | _ => exact named

theorem superclass_ne_nil_of_run {lines : List Text} {summary : ClassSummary}
    (named : reading.NamesSuperclass) (ran : reading.run lines = .ok summary) :
    summary.superclass ≠ some [] := by
  induction lines generalizing reading with
  | nil =>
    cases ran
    exact named
  | cons line lines ih =>
    rw [run] at ran
    split at ran
    · rename_i next fed
      exact ih (named.of_effect (effect_of_feed (by rw [fed]; rfl))) ran
    · rename_i closed fed
      cases ran
      have atEnd : closed.NamesSuperclass :=
        named.of_effect (effect_of_feed (by rw [fed]; rfl))
      exact atEnd
    · contradiction

end Reading

theorem superclass_ne_nil_of_parse {text className : Option Text} {summary : ClassSummary}
    (parsed : parse text className = .ok summary) : summary.superclass ≠ some [] := by
  unfold parse at parsed
  split at parsed
  · contradiction
  · split_ifs at parsed
    dsimp only at parsed
    split at parsed
    · contradiction
    · rename_i found ran
      split_ifs at parsed
      cases parsed
      refine Reading.superclass_ne_nil_of_run ?_ ran
      intro named
      contradiction

end JarAtlas.Listing
