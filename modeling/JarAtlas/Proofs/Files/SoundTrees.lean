import JarAtlas.Proofs.Files.DistinctPlaces
import JarAtlas.Proofs.Files.Temporary

/-!
# Sound trees

A file system has each place once, keeps everything in a directory, and has the directories that
operations begin in. No operation breaks this: a path leads from one of these directories, so what it
puts comes into a directory, and neither a file that is taken away nor a temporary directory has one
of them below it.
-/

namespace JarAtlas

open Action

namespace FileTree

variable {tree changed : FileTree} {workingDirectory temporaries place : Place}

/-- The tree has each place once and everything in a directory. The working directory is there, and so
is the directory that temporary ones are made in. -/
structure IsSound (workingDirectory temporaries : Place) (tree : FileTree) : Prop where
  distinct : tree.HasDistinctPlaces
  isTree : tree.IsTree
  works : tree.node? workingDirectory = some .directory
  holds : tree.node? temporaries = some .directory

instance (workingDirectory temporaries : Place) (tree : FileTree) :
    Decidable (tree.IsSound workingDirectory temporaries) :=
  decidable_of_iff (tree.HasDistinctPlaces ∧ tree.IsTree ∧
      tree.node? workingDirectory = some .directory ∧ tree.node? temporaries = some .directory)
    ⟨fun ⟨distinct, isTree, works, holds⟩ => ⟨distinct, isTree, works, holds⟩,
      fun ⟨distinct, isTree, works, holds⟩ => ⟨distinct, isTree, works, holds⟩⟩

namespace IsSound

variable (sound : tree.IsSound workingDirectory temporaries)
include sound

theorem set {node : Node} (keeps : tree.KeepsDirectories (tree.set place node))
    (inDirectory : tree.node? place.dropLast = some .directory) :
    (tree.set place node).IsSound workingDirectory temporaries where
  distinct := sound.distinct.set place node
  isTree := sound.isTree.set keeps inDirectory
  works := keeps _ sound.works
  holds := keeps _ sound.holds

theorem remove (works : (tree.remove place).node? workingDirectory = some .directory)
    (holds : (tree.remove place).node? temporaries = some .directory) :
    (tree.remove place).IsSound workingDirectory temporaries where
  distinct := sound.distinct.remove place
  isTree := sound.isTree.remove place
  works := works
  holds := holds

theorem put {allowed : Path → Node → Prop} (put : Put workingDirectory allowed tree changed) :
    changed.IsSound workingDirectory temporaries := by
  have keeps := put.keepsDirectories
  cases put with
  | @intro path place node isAllowed located noDirectory free =>
    refine sound.set keeps (sound.isTree.parent_of_walk ?_ (locate_eq_ok_iff.mp located).2)
    split_ifs
    · exact sound.isTree.parent sound.works
    · rfl

theorem grows {allowed : Path → Node → Prop} (grows : Grows workingDirectory allowed tree changed) :
    changed.IsSound workingDirectory temporaries := by
  induction grows with
  | refl => exact sound
  | tail _ put ih => exact ih.put put

/-- A file has nothing below it, so all directories stay when it is taken away. -/
theorem unlink {path : Path} (unlinked : tree.unlink workingDirectory path = .ok changed) :
    changed.IsSound workingDirectory temporaries := by
  rcases exists_of_unlink unlinked with ⟨place, content, stamp, -, isFile, rfl⟩
  have keeps := sound.isTree.keepsDirectories_remove isFile
  exact sound.remove (keeps _ sound.works) (keeps _ sound.holds)

end IsSound

/-- A file may go, but not the directory that temporary ones are made in. -/
example :
    let tree : FileTree := ⟨[(["work"], .directory), (["work", "a"], .directory),
      (["work", "a", "b"], .file (.text []) 1)]⟩
    tree.IsSound ["work"] [] ∧ (tree.remove ["work", "a", "b"]).IsSound ["work"] ["work", "a"] ∧
      ¬ (tree.remove ["work", "a"]).IsSound ["work"] ["work", "a"] := by
  decide

theorem keepsDirectories_set_directory (tree : FileTree) (place : Place) :
    tree.KeepsDirectories (tree.set place .directory) := by
  intro here isDirectory
  by_cases itself : here = place
  · subst itself
    by_cases root : here = []
    · rw [root]
      rfl
    · exact node?_set_self _ root
  · rw [node?_set_ne _ itself, isDirectory]

end FileTree

namespace Files

variable {α β : Type} {workingDirectory temporaries : Place}

/-- The host works in the one directory and makes temporary ones in the other, but never so that it
works in a temporary one. -/
structure WorksIn (host : Host) (workingDirectory temporaries : Place) : Prop where
  works : host.workingDirectory = workingDirectory
  isTemporary : ∃ name, host.temporaryDirectory = temporaries ++ [name]
  apart : ¬ host.temporaryDirectory <+: workingDirectory

theorem WorksIn.apart_temporaries {host : Host} (worksIn : WorksIn host workingDirectory temporaries) :
    ¬ host.temporaryDirectory <+: temporaries := by
  intro isPrefix
  rcases worksIn.isTemporary with ⟨name, isName⟩
  rw [isName] at isPrefix
  exact absurd isPrefix.length_le (by simp)

/-- The operation leaves a sound tree where it finds one. -/
def KeepsSound (workingDirectory temporaries : Place) (action : Action α) : Prop :=
  ∀ (setting : Setting) (session : Session), WorksIn setting.host workingDirectory temporaries →
    session.files.IsSound workingDirectory temporaries →
    (action setting session).2.files.IsSound workingDirectory temporaries

namespace KeepsSound

variable {action : Action α}

theorem of_keeps (kept : Keeps Session.files action) :
    KeepsSound workingDirectory temporaries action := by
  intro setting session _ sound
  rw [kept]
  exact sound

theorem of_puts {allowed : Path → Node → Prop} (puts : Puts allowed action) :
    KeepsSound workingDirectory temporaries action := by
  intro setting session worksIn sound
  have grows := puts setting session
  rw [worksIn.works] at grows
  exact sound.grows grows

theorem pure (answer : α) : KeepsSound workingDirectory temporaries (pure answer : Action α) :=
  of_keeps (.pure answer)

theorem fail (error : Error) : KeepsSound workingDirectory temporaries (fail error : Action α) :=
  of_keeps (.fail error)

theorem ofExcept (result : Except Error α) :
    KeepsSound workingDirectory temporaries (Action.ofExcept result) := of_keeps (.ofExcept result)

theorem bind {next : α → Action β} (first : KeepsSound workingDirectory temporaries action)
    (others : ∀ answer, KeepsSound workingDirectory temporaries (next answer)) :
    KeepsSound workingDirectory temporaries (action >>= next) := by
  intro setting session worksIn sound
  have between := first setting session worksIn sound
  rw [run_bind]
  generalize action setting session = outcome at between ⊢
  rcases outcome with ⟨result, after⟩
  cases result with
  | ok answer => exact others answer setting after worksIn between
  | error error => exact between

theorem attempt (keeps : KeepsSound workingDirectory temporaries action) :
    KeepsSound workingDirectory temporaries action.attempt := keeps

theorem foldlM {next : β → α → Action β}
    (keeps : ∀ known item, KeepsSound workingDirectory temporaries (next known item))
    (items : List α) (known : β) :
    KeepsSound workingDirectory temporaries (items.foldlM next known) := by
  induction items generalizing known with
  | nil => exact .pure known
  | cons item items ih =>
    rw [List.foldlM_cons]
    exact (keeps known item).bind ih

theorem unlink (path : Path) : KeepsSound workingDirectory temporaries (unlink path) := by
  intro setting session worksIn sound
  unfold Files.unlink
  rw [run_change, worksIn.works]
  split_ifs
  · exact sound
  · split
    · rename_i files unlinked
      exact sound.unlink unlinked
    · exact sound

/-- What is done in a temporary directory goes with it, and what is done elsewhere leaves a sound tree
around it. -/
theorem withTemporary {work : Path → Action α}
    (keeps : ∀ directory, KeepsSound workingDirectory temporaries (work directory)) :
    KeepsSound workingDirectory temporaries (withTemporary work) := by
  intro setting session worksIn sound
  have inDirectory :
      session.files.node? setting.host.temporaryDirectory.dropLast = some .directory := by
    rcases worksIn.isTemporary with ⟨name, isName⟩
    rw [isName, List.dropLast_concat, sound.holds]
  have made : (withScratch setting session).files.IsSound workingDirectory temporaries :=
    sound.set (FileTree.keepsDirectories_set_directory _ _) inDirectory
  have worked := keeps (pathOf setting.host.temporaryDirectory) setting _ worksIn made
  rw [run_withTemporary]
  refine worked.remove ?_ ?_
  · rw [FileTree.node?_remove_of_apart worksIn.apart, worked.works]
  · rw [FileTree.node?_remove_of_apart worksIn.apart_temporaries, worked.holds]

end KeepsSound

end Files

end JarAtlas
