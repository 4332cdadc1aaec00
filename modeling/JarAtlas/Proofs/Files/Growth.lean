import JarAtlas.Proofs.Files.Operations
import Mathlib.Logic.Relation

/-!
# Growing trees

Operations that make directories and write files only add to a tree: a directory is put at a free
place, a file at a free place or instead of a file. Ways that are open stay open meanwhile, so what
has changed in the end stands where one of the paths leads that were asked for, and a path without a
way back up leads below its beginnings.
-/

namespace JarAtlas

namespace FileTree

variable {tree between changed : FileTree} {workingDirectory here place : Place}
  {path : Path} {allowed : Path → Node → Prop}

/-! ### Ways without a way back -/

theorem walk_append (segments more : List Text) :
    tree.walk here (segments ++ more) =
      (tree.walk here segments).bind fun reached => tree.walk reached more := by
  induction segments generalizing here with
  | nil => rfl
  | cons segment segments ih =>
    rw [List.cons_append, walk, walk]
    split
    · rfl
    · rfl
    · split_ifs
      · rfl
      all_goals exact ih

/-- A way that never leads back up leads to what its names say. -/
theorem eq_append_of_walk {segments : List Text} {reached : Place} (down : (".." : Text) ∉ segments)
    (walked : tree.walk here segments = .ok reached) : reached = here ++ segments := by
  induction segments generalizing here with
  | nil =>
    cases walked
    rw [List.append_nil]
  | cons segment segments ih =>
    rw [List.mem_cons, not_or] at down
    rw [walk] at walked
    split at walked
    · contradiction
    · contradiction
    · rw [if_neg (Ne.symm down.1)] at walked
      split_ifs at walked
      rw [ih down.2 walked, List.append_assoc]
      rfl

/-- A way passes through directories only. -/
theorem exists_directory_of_walk_append {segments more : List Text} {reached : Place}
    (goesOn : more ≠ []) (walked : tree.walk here (segments ++ more) = .ok reached) :
    ∃ between, tree.walk here segments = .ok between ∧ tree.node? between = some .directory := by
  rw [walk_append] at walked
  cases first : tree.walk here segments with
  | error fault =>
    rw [first] at walked
    contradiction
  | ok between =>
    rw [first] at walked
    rcases List.exists_cons_of_ne_nil goesOn with ⟨next, others, rfl⟩
    refine ⟨between, rfl, ?_⟩
    change tree.walk between (next :: others) = .ok reached at walked
    rw [walk] at walked
    split at walked
    · contradiction
    · contradiction
    · assumption

/-! ### Steps and runs -/

/-- One change: at the place that an allowed path leads to, where no directory stands, something new
is put. A directory is put at a free place. -/
inductive Put (workingDirectory : Place) (allowed : Path → Node → Prop) (tree : FileTree) :
    FileTree → Prop
  | intro {path : Path} {place : Place} {node : Node} (isAllowed : allowed path node)
      (located : tree.locate workingDirectory path = .ok place)
      (noDirectory : tree.node? place ≠ some .directory)
      (free : node = .directory → tree.node? place = none) :
      Put workingDirectory allowed tree (tree.set place node)

/-- A tree has become another by allowed changes. -/
def Grows (workingDirectory : Place) (allowed : Path → Node → Prop) : FileTree → FileTree → Prop :=
  Relation.ReflTransGen (Put workingDirectory allowed)

theorem Put.walk {segments : List Text} {reached : Place}
    (put : Put workingDirectory allowed tree changed)
    (walked : tree.walk here segments = .ok reached) : changed.walk here segments = .ok reached := by
  cases put with
  | intro isAllowed located noDirectory free => exact walk_set noDirectory walked

/-- Open ways stay open. -/
theorem Grows.walk {segments : List Text} {reached : Place}
    (grows : Grows workingDirectory allowed tree changed)
    (walked : tree.walk here segments = .ok reached) : changed.walk here segments = .ok reached := by
  induction grows with
  | refl => exact walked
  | tail _ put ih => exact put.walk ih

theorem locate_eq_ok_iff : tree.locate workingDirectory path = .ok place ↔
    Text.byteCount path.text ≤ pathLimit ∧
      tree.walk (if path.root = .relative then workingDirectory else []) path.segments =
        .ok place := by
  unfold locate
  by_cases long : pathLimit < Text.byteCount path.text
  · rw [if_pos long]
    exact iff_of_false (by simp) fun short => Nat.not_le.mpr long short.1
  · rw [if_neg long]
    exact (and_iff_right (Nat.not_lt.mp long)).symm

/-- Whatever is new after a run stands where an allowed path leads; a new directory was not there
before. -/
theorem Grows.exists_of_node?_ne (grows : Grows workingDirectory allowed tree changed)
    (differs : changed.node? place ≠ tree.node? place) :
    ∃ path node, allowed path node ∧ changed.locate workingDirectory path = .ok place ∧
      changed.node? place = some node ∧ (node = .directory → tree.node? place = none) := by
  induction grows with
  | refl => exact absurd rfl differs
  | @tail between changed earlier put ih =>
    have growsOn := put
    cases put with
    | @intro path putPlace node isAllowed located noDirectory free =>
      by_cases isPlace : place = putPlace
      · subst isPlace
        have nonempty : place ≠ [] := by
          rintro rfl
          exact noDirectory rfl
        rw [locate_eq_ok_iff] at located
        refine ⟨path, node, isAllowed, ?_, node?_set_self node nonempty, fun isDirectory => ?_⟩
        · rw [locate_eq_ok_iff]
          exact ⟨located.1, growsOn.walk located.2⟩
        · -- Nothing is ever taken away, so what is free now was free from the beginning.
          by_contra wasThere
          have isFree := free isDirectory
          rcases ih (by rw [isFree]; exact Ne.symm wasThere) with ⟨-, other, -, -, stands, -⟩
          rw [isFree] at stands
          contradiction
      · rw [node?_set_ne node isPlace] at differs ⊢
        rcases ih differs with ⟨other, otherNode, otherAllowed, otherLocated, stands, wasFree⟩
        rw [locate_eq_ok_iff] at otherLocated
        refine ⟨other, otherNode, otherAllowed, ?_, stands, wasFree⟩
        rw [locate_eq_ok_iff]
        exact ⟨otherLocated.1, growsOn.walk otherLocated.2⟩

theorem put_of_makeDirectory (isAllowed : allowed path .directory)
    (made : tree.makeDirectory workingDirectory path = .ok changed) :
    Put workingDirectory allowed tree changed := by
  rcases makeDirectory_eq_ok_iff.mp made with ⟨place, located, free, rfl⟩
  exact .intro isAllowed located (by simp [free]) fun _ => free

theorem put_of_write {content : Content} {stamp : Int} (isAllowed : allowed path (.file content stamp))
    (written : tree.write workingDirectory path content stamp = .ok changed) :
    Put workingDirectory allowed tree changed := by
  rcases write_eq_ok_iff.mp written with ⟨place, located, noDirectory, rfl⟩
  exact .intro isAllowed located noDirectory (by simp)

end FileTree

namespace Files

open Action

variable {α β : Type} {allowed : Path → Node → Prop}

/-- The operation changes the files by allowed changes only. -/
def Puts (allowed : Path → Node → Prop) (action : Action α) : Prop :=
  ∀ setting session, FileTree.Grows setting.host.workingDirectory allowed session.files
    (action setting session).2.files

namespace Puts

variable {action : Action α}

theorem of_keeps (kept : Keeps Session.files action) : Puts allowed action := by
  intro setting session
  rw [kept]
  exact .refl

theorem pure (answer : α) : Puts allowed (pure answer : Action α) := of_keeps (.pure answer)

theorem fail (error : Error) : Puts allowed (fail error : Action α) := of_keeps (.fail error)

theorem bind {next : α → Action β} (first : Puts allowed action)
    (others : ∀ answer, Puts allowed (next answer)) : Puts allowed (action >>= next) := by
  intro setting session
  have grows := first setting session
  rw [run_bind]
  generalize action setting session = outcome at grows ⊢
  rcases outcome with ⟨result, after⟩
  cases result with
  | ok answer => exact grows.trans (others answer setting after)
  | error error => exact grows

theorem attempt (puts : Puts allowed action) : Puts allowed action.attempt := puts

end Puts

theorem puts_change {path : Path} {operation : Place → FileTree → Except FileFault FileTree}
    (puts : ∀ workingDirectory tree changed, operation workingDirectory tree = .ok changed →
      FileTree.Put workingDirectory allowed tree changed) : Puts allowed (change path operation) := by
  intro setting session
  rw [run_change]
  split_ifs
  · exact .refl
  · split
    · rename_i files changed
      exact .single (puts _ _ _ changed)
    · exact .refl

theorem puts_makeDirectory {path : Path} (isAllowed : allowed path .directory) :
    Puts allowed (makeDirectory path) :=
  puts_change fun _ _ _ made => FileTree.put_of_makeDirectory isAllowed made

theorem puts_write {path : Path} {content : Content}
    (isAllowed : ∀ stamp, allowed path (.file content stamp)) :
    Puts allowed (write path content) := by
  apply (Puts.of_keeps Keeps.get).bind
  intro session
  refine Puts.bind ?_ fun _ => .of_keeps (.modify fun _ => rfl)
  exact puts_change fun _ _ _ written => FileTree.put_of_write (isAllowed _) written

/-- What follows a directory that could not be made: nothing new, or an error. -/
theorem puts_unlessDirectory (path : Path) (error : Error) :
    Puts allowed (do unless ← isDirectory path do Action.fail error) := by
  apply (Puts.of_keeps (keeps_isDirectory _)).bind
  intro isThere
  cases isThere with
  | true => exact .pure _
  | false => exact .fail _

theorem puts_ensureDirectory {path : Path} (isAllowed : allowed path .directory) :
    Puts allowed (ensureDirectory path) := by
  apply (puts_makeDirectory isAllowed).attempt.bind
  intro made
  split
  · exact .pure _
  · exact .fail _
  · exact puts_unlessDirectory _ _

/-- The directories that are made are the path itself and those above it. -/
theorem puts_ensureDirectoriesBelow {root : PathRoot} {segments : List Text}
    (isAllowed : ∀ above, above <:+ segments → allowed ⟨root, above.reverse⟩ .directory) :
    Puts allowed (ensureDirectoriesBelow root segments) := by
  induction segments with
  | nil => exact puts_ensureDirectory (isAllowed [] (List.suffix_refl _))
  | cons segment above ih =>
    have itself := isAllowed (segment :: above) (List.suffix_refl _)
    apply (puts_makeDirectory itself).attempt.bind
    intro made
    split
    · exact .pure _
    · apply (ih fun higher isAbove => isAllowed higher (isAbove.trans (List.suffix_cons _ _))).bind
      exact fun _ => puts_ensureDirectory itself
    · exact puts_unlessDirectory _ _

theorem puts_ensureDirectories {path : Path}
    (isAllowed : ∀ segments, segments <+: path.segments →
      allowed { path with segments } .directory) : Puts allowed (ensureDirectories path) := by
  apply puts_ensureDirectoriesBelow
  intro above isAbove
  apply isAllowed
  rw [← List.reverse_suffix, List.reverse_reverse]
  exact isAbove

end Files

end JarAtlas
