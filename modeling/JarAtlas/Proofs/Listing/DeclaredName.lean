import JarAtlas.Proofs.Declaration.QualifiedName
import JarAtlas.Proofs.Listing.Heading
import Mathlib.Data.List.Induction

/-!
# Where the name of a class comes from

A declared name with a package takes the place of every name that was known before, be it the
caller's or an earlier declaration's. A declared name without a package does not: it only fills in a
missing simple name. So the class has the name of the last declaration with a package, and only
where there is none the caller's name or, without one, the name that is declared first. The name
declared last is the name of the class exactly if one of these happens to be it.
-/

namespace JarAtlas.Listing

open Text

/-- The accepted declarations among the lines that are read, in their order. -/
def declarationsRead (text : Text) (className : Option Text) : List Declaration :=
  ((startFor className).linesRead (contentLines text)).filterMap declarationOf?

/-- The name of a class that is declared in no package: what the caller takes it for, else the first
of the declared names. -/
def unpackagedName (className : Option Text) (declared : List Declaration) : Text :=
  if simpleNameOf (className.getD []) = [] then
    (declared.head?.map Declaration.qualifiedName).getD []
  else simpleNameOf (className.getD [])

theorem exists_parse_of_mem_declarationsRead {text : Text} {className : Option Text}
    {declaration : Declaration} (member : declaration ∈ declarationsRead text className) :
    ∃ line, Declaration.parse line = .ok declaration := by
  rcases List.mem_filterMap.mp member with ⟨line, -, declares⟩
  refine ⟨line, ?_⟩
  unfold declarationOf? at declares
  split_ifs at declares
  cases accepted : Declaration.parse line with
  | error fault =>
    rw [accepted] at declares
    contradiction
  | ok found =>
    rw [accepted] at declares
    cases declares
    rfl

section Fold

variable {declarations : List Declaration} (summary : ClassSummary)

theorem simpleName_foldl_declare_ne_nil
    (accepted : ∀ declaration ∈ declarations, ∃ line, Declaration.parse line = .ok declaration)
    (declared : declarations ≠ []) :
    (declarations.foldl ClassSummary.declare summary).simpleName ≠ [] := by
  rcases List.eq_nil_or_concat declarations with rfl | ⟨front, last, rfl⟩
  · contradiction
  · rcases accepted last (by simp) with ⟨line, parsed⟩
    rw [List.concat_eq_append, List.foldl_append]
    exact Declaration.simpleName_declare_ne_nil _ parsed

/-- The last declared name with a package takes the place of all others. -/
theorem cutLast_of_getLast?_filter
    (accepted : ∀ declaration ∈ declarations, ∃ line, Declaration.parse line = .ok declaration)
    {last : Declaration} (isLast : last ∈ (declarations.filter (·.IsPackaged)).getLast?) :
    cutLast '.' last.qualifiedName =
      some ((declarations.foldl ClassSummary.declare summary).packageName,
        (declarations.foldl ClassSummary.declare summary).simpleName) := by
  induction declarations using List.reverseRecOn with
  | nil => contradiction
  | append_singleton front declaration ih =>
    have acceptedFront : ∀ declaration ∈ front, ∃ line, Declaration.parse line = .ok declaration :=
      fun declaration member => accepted declaration (List.mem_append_left _ member)
    rw [List.foldl_append]
    by_cases packaged : declaration.IsPackaged
    · rw [List.filter_append, List.filter_cons_of_pos (by simpa using packaged), List.filter_nil,
        List.getLast?_concat] at isLast
      cases isLast
      rcases accepted last (by simp) with ⟨line, parsed⟩
      exact Declaration.cutLast_of_isPackaged _ parsed packaged
    · rw [List.filter_append, List.filter_cons_of_neg (by simpa using packaged), List.filter_nil,
        List.append_nil] at isLast
      -- A simple name is known by then, so a name without a package is not taken over.
      have known : front ≠ [] := by
        rintro rfl
        contradiction
      rcases Declaration.names_declare_of_not_isPackaged
        (front.foldl ClassSummary.declare summary) packaged with ⟨package, simple⟩
      rw [if_neg (simpleName_foldl_declare_ne_nil summary acceptedFront known)] at simple
      rw [List.foldl_cons, List.foldl_nil, package, simple]
      exact ih acceptedFront isLast

/-- Declared names without a package only fill in a missing simple name. -/
theorem names_foldl_declare_of_not_isPackaged
    (accepted : ∀ declaration ∈ declarations, ∃ line, Declaration.parse line = .ok declaration)
    (unpackaged : ∀ declaration ∈ declarations, ¬declaration.IsPackaged) :
    (declarations.foldl ClassSummary.declare summary).packageName = summary.packageName ∧
      (declarations.foldl ClassSummary.declare summary).simpleName =
        if summary.simpleName = [] then
          (declarations.head?.map Declaration.qualifiedName).getD []
        else summary.simpleName := by
  induction declarations using List.reverseRecOn with
  | nil => by_cases nameless : summary.simpleName = [] <;> simp [nameless]
  | append_singleton front declaration ih =>
    have acceptedFront : ∀ declaration ∈ front, ∃ line, Declaration.parse line = .ok declaration :=
      fun declaration member => accepted declaration (List.mem_append_left _ member)
    have before := ih acceptedFront fun declaration member =>
      unpackaged declaration (List.mem_append_left _ member)
    rcases Declaration.names_declare_of_not_isPackaged (front.foldl ClassSummary.declare summary)
      (unpackaged declaration (by simp)) with ⟨package, simple⟩
    rw [List.foldl_append, List.foldl_cons, List.foldl_nil, package, simple]
    refine ⟨before.1, ?_⟩
    cases front with
    | nil => rfl
    | cons first front =>
      rw [if_neg (simpleName_foldl_declare_ne_nil summary acceptedFront (List.cons_ne_nil _ _)),
        before.2]
      rfl

end Fold

section Parse

variable {text : Text} {className : Option Text} {summary : ClassSummary}

theorem outline_of_parse (parsed : parse (some text) className = .ok summary) :
    summary.outline = (declarationsRead text className).foldl ClassSummary.declare
      (startFor className).settled.outline := by
  rcases parse_eq_ok_iff.mp parsed with ⟨-, ran, -⟩
  exact Reading.outline_of_run ran

theorem cutLast_of_parse (parsed : parse (some text) className = .ok summary) {last : Declaration}
    (isLast : last ∈ ((declarationsRead text className).filter (·.IsPackaged)).getLast?) :
    cutLast '.' last.qualifiedName = some (summary.packageName, summary.simpleName) := by
  have package : summary.outline.packageName = summary.packageName := rfl
  have simple : summary.outline.simpleName = summary.simpleName := rfl
  rw [← package, ← simple, outline_of_parse parsed]
  exact cutLast_of_getLast?_filter _ (fun _ => exists_parse_of_mem_declarationsRead) isLast

theorem names_of_parse_of_not_isPackaged (parsed : parse (some text) className = .ok summary)
    (unpackaged : ∀ declaration ∈ declarationsRead text className, ¬declaration.IsPackaged) :
    summary.packageName = [] ∧
      summary.simpleName = unpackagedName className (declarationsRead text className) := by
  have package : summary.outline.packageName = summary.packageName := rfl
  have simple : summary.outline.simpleName = summary.simpleName := rfl
  rw [← package, ← simple, outline_of_parse parsed]
  exact names_foldl_declare_of_not_isPackaged _ (fun _ => exists_parse_of_mem_declarationsRead)
    unpackaged

theorem qualifiedName_of_getLast?_filter (parsed : parse (some text) className = .ok summary)
    {last : Declaration}
    (isLast : last ∈ ((declarationsRead text className).filter (·.IsPackaged)).getLast?) :
    summary.qualifiedName = last.qualifiedName ∧ last.IsPackaged := by
  rcases List.mem_filter.mp (List.mem_of_getLast? isLast) with ⟨declared, packaged⟩
  rcases exists_parse_of_mem_declarationsRead declared with ⟨line, accepted⟩
  rcases Declaration.exists_cutLast_of_isPackaged accepted (of_decide_eq_true packaged) with
    ⟨package, simple, nonempty, -, cut⟩
  have named := cutLast_of_parse parsed isLast
  rw [eq_append_of_cutLast named]
  rw [named] at cut
  cases cut
  rw [ClassSummary.qualifiedName, if_neg (by simpa using nonempty)]
  exact ⟨rfl, of_decide_eq_true packaged⟩

/-- A name without a package is that of the class only where no declared name has a package: the
name of the class would hold a dot otherwise. -/
theorem qualifiedName_eq_iff (parsed : parse (some text) className = .ok summary)
    {last : Declaration} (isLast : last ∈ (declarationsRead text className).getLast?) :
    summary.qualifiedName = last.qualifiedName ↔
      last.IsPackaged ∨
        (∀ declaration ∈ declarationsRead text className, ¬declaration.IsPackaged) ∧
          unpackagedName className (declarationsRead text className) = last.qualifiedName := by
  by_cases unpackaged : ∀ declaration ∈ declarationsRead text className, ¬declaration.IsPackaged
  · rcases names_of_parse_of_not_isPackaged parsed unpackaged with ⟨noPackage, simple⟩
    have noDot : ¬last.IsPackaged := unpackaged last (List.mem_of_getLast? isLast)
    rw [ClassSummary.qualifiedName, noPackage, simple]
    simpa [noDot] using fun _ => unpackaged
  · have nonempty : (declarationsRead text className).filter (·.IsPackaged) ≠ [] := by
      simpa [List.filter_eq_nil_iff] using unpackaged
    rcases Option.ne_none_iff_exists'.mp (mt List.getLast?_eq_none_iff.mp nonempty) with
      ⟨winner, isWinner⟩
    rcases qualifiedName_of_getLast?_filter parsed isWinner with ⟨named, packaged⟩
    simp only [unpackaged, false_and, or_false]
    constructor
    · intro same
      rwa [Declaration.IsPackaged, ← same, named]
    · intro packagedLast
      rcases List.getLast?_eq_some_iff.mp isLast with ⟨front, split⟩
      have isLastPackaged : last ∈
          ((declarationsRead text className).filter (·.IsPackaged)).getLast? := by
        simp [split, packagedLast]
      exact (qualifiedName_of_getLast?_filter parsed isLastPackaged).1

/-- The last declaration with a package names the class, whatever else names it. Only where no
package is declared the class has the caller's name or else the first declared one, and no package.
So the name declared last is that of the class exactly if it has a package, or no declared name has
one and it is the name that the class has then. -/
theorem names_of_parse (parsed : parse (some text) className = .ok summary) :
    (∀ last ∈ ((declarationsRead text className).filter (·.IsPackaged)).getLast?,
      cutLast '.' last.qualifiedName = some (summary.packageName, summary.simpleName)) ∧
    ((∀ declaration ∈ declarationsRead text className, ¬declaration.IsPackaged) →
      summary.packageName = [] ∧
        summary.simpleName = unpackagedName className (declarationsRead text className)) ∧
    ∀ last ∈ (declarationsRead text className).getLast?,
      (summary.qualifiedName = last.qualifiedName ↔
        last.IsPackaged ∨
          (∀ declaration ∈ declarationsRead text className, ¬declaration.IsPackaged) ∧
            unpackagedName className (declarationsRead text className) = last.qualifiedName) :=
  ⟨fun _ => cutLast_of_parse parsed, names_of_parse_of_not_isPackaged parsed,
    fun _ => qualifiedName_eq_iff parsed⟩

end Parse

/-- A listing with a declaration in no package and one in a package behind it. -/
def movedText : Text :=
  join "\n" ["class Pair", ['\x7b'], "public final class a.b.Pair extends c.Base"]

/-- The caller's name gives way to the declared one with a package. -/
theorem names_of_moved :
    ∃ summary last, parse (some movedText) (some "x.Caller") = .ok summary ∧
      last ∈ ((declarationsRead movedText (some "x.Caller")).filter (·.IsPackaged)).getLast? ∧
      last.qualifiedName = ("a.b.Pair" : Text) ∧
      (summary.packageName, summary.simpleName) = (("a.b", "Pair") : Text × Text) := by
  have parsed : parse (some movedText) (some "x.Caller") = .ok
      { kind := some .ordinary, packageName := "a.b", simpleName := "Pair"
        modifiers := ["public", "final"], superclass := some "c.Base", interfaces := []
        fields := [], methods := [] } := by
    decide +kernel
  have read : ((declarationsRead movedText (some "x.Caller")).filter (·.IsPackaged)).getLast?.map
      Declaration.qualifiedName = some ("a.b.Pair" : Text) := by
    decide +kernel
  rcases Option.map_eq_some_iff.mp read with ⟨last, isLast, named⟩
  have cut := (names_of_parse parsed).1 last isLast
  rw [named] at cut
  exact ⟨_, last, parsed, isLast, named, (Option.some.inj cut).symm⟩

/-- A listing that declares a class in a package and then another one in none. -/
def staleText : Text := join "\n" ["public class a.Old extends b.Base", "interface Router"]

/-- The class has the kind that is declared last and the name that is declared first. -/
theorem qualifiedName_of_stale :
    ∃ summary last, parse (some staleText) none = .ok summary ∧
      last ∈ (declarationsRead staleText none).getLast? ∧ summary.kind = some last.kind ∧
      summary.qualifiedName = ("a.Old" : Text) ∧ last.qualifiedName = ("Router" : Text) ∧
      summary.qualifiedName ≠ last.qualifiedName := by
  have parsed : parse (some staleText) none = .ok
      { kind := some .interface, packageName := "a", simpleName := "Old", modifiers := []
        superclass := none, interfaces := [], fields := [], methods := [] } := by
    decide +kernel
  have read : (declarationsRead staleText none).getLast?.map
      (fun last => (last.kind, last.qualifiedName)) =
        some (ClassKind.interface, ("Router" : Text)) := by
    decide +kernel
  rcases Option.map_eq_some_iff.mp read with ⟨last, isLast, declared⟩
  rcases Prod.mk.inj declared with ⟨kind, named⟩
  exact ⟨_, last, parsed, isLast, by rw [kind], rfl, named, by rw [named]; decide⟩

end JarAtlas.Listing
