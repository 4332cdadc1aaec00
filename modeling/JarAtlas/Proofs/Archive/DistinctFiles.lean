import JarAtlas.Proofs.Decompilation.Extraction
import JarAtlas.Proofs.Decompilation.Names

/-!
# Files of different classes

The dots of a class name make directories without dots in their names, and a file has a dot in its
ending, so the file of a class is never a directory of another one. Different classes have different
files, and none stands in the way of another, both among the kept sources of a project and where they
are extracted.
-/

namespace JarAtlas

namespace Path

/-- The other path goes on from this one. -/
def IsAbove (path other : Path) : Prop := ∃ more, more ≠ [] ∧ other = path.down more

/-- Each of the paths may be a file, whatever the other is: they differ, neither is an ancestor of the
other, and in no tree do they lead to one place or to a place and one below it. -/
structure AreApart (path other : Path) : Prop where
  differ : path ≠ other
  notAbove : ¬ path.IsAbove other
  notBelow : ¬ other.IsAbove path
  places : ∀ {tree : FileTree} {workingDirectory place otherPlace : Place},
    tree.locate workingDirectory path = .ok place →
      tree.locate workingDirectory other = .ok otherPlace →
        ¬ place <+: otherPlace ∧ ¬ otherPlace <+: place

variable {directory : Path} {names others : List Text}

theorem isBelow_down (some : names ≠ []) (down : (".." : Text) ∉ names) :
    directory.IsBelow (directory.down names) :=
  ⟨rfl, names, some, down, rfl⟩

theorem areApart_down (down : (".." : Text) ∉ names) (otherDown : (".." : Text) ∉ others)
    (apart : ¬ names <+: others) (otherApart : ¬ others <+: names) :
    (directory.down names).AreApart (directory.down others) where
  differ same := apart (down_inj.mp same ▸ List.prefix_refl _)
  notAbove := by
    rintro ⟨more, -, goesOn⟩
    rw [← down_append, down_inj] at goesOn
    exact apart ⟨more, goesOn.symm⟩
  notBelow := by
    rintro ⟨more, -, goesOn⟩
    rw [← down_append, down_inj] at goesOn
    exact otherApart ⟨more, goesOn.symm⟩
  places := by
    intro tree workingDirectory place otherPlace located otherLocated
    rcases FileTree.exists_home_of_locate down located with ⟨home, toHome, rfl⟩
    rcases FileTree.exists_home_of_locate otherDown otherLocated with ⟨otherHome, again, rfl⟩
    cases toHome.symm.trans again
    rw [List.prefix_append_right_inj, List.prefix_append_right_inj]
    exact ⟨apart, otherApart⟩

end Path

namespace ClassName

open Text

theorem IsNamed.cachePath_eq_down {className : Text} (named : IsNamed className) (project : Path) :
    cachePath className project =
      (project.down [cacheDirectory]).down (fileNames ".java" className) := by
  rw [named.cachePath_eq, keptNames_eq_cons, ← Path.down_append]
  rfl

/-- The files of different classes, with one ending and below one directory, are apart. -/
theorem areApart_fileNames {ending className other : Text} (isEnding : Path.IsFileEnding ending)
    (dotted : '.' ∈ ending) (differ : className ≠ other) (directory : Path) :
    (directory.down (fileNames ending className)).AreApart
      (directory.down (fileNames ending other)) :=
  Path.areApart_down (not_mem_fileNames isEnding className) (not_mem_fileNames isEnding other)
    (fun isPrefix => differ (eq_of_prefix_fileNames dotted isPrefix))
    fun isPrefix => differ (eq_of_prefix_fileNames dotted isPrefix).symm

end ClassName

namespace Archive

open ClassName

/-- Different classes never share a file: neither their kept sources in a project, which are inside its
cache directory, nor the files that they are extracted to, which are inside the destination, whatever
the jars and whenever that is. -/
theorem files_apart {className other : Text} (named : IsNamed className) (otherNamed : IsNamed other)
    (differ : className ≠ other) (project destination : Path) :
    let cache := project.join cacheDirectory
    let target (name : Text) := destination.join (entry name)
    (cache.IsBelow (cachePath className project) ∧ cache.IsBelow (cachePath other project) ∧
        (cachePath className project).AreApart (cachePath other project)) ∧
      (destination.IsBelow (target className) ∧ destination.IsBelow (target other) ∧
        (target className).AreApart (target other)) ∧
      ∀ (jar : Json) (name : Text) (setting : Setting) (session : Session) (file : Path),
        (extractClass jar (.text name) destination setting session).1 = .ok file →
          file = target name := by
  intro cache target
  refine ⟨⟨?_, ?_, ?_⟩, ⟨?_, ?_, ?_⟩, ?_⟩
  · exact (isBelow_cachePath_iff className project).mpr fun piece isPiece rooted =>
      (named piece isPiece).2 (List.mem_of_mem_head? rooted)
  · exact (isBelow_cachePath_iff other project).mpr fun piece isPiece rooted =>
      (otherNamed piece isPiece).2 (List.mem_of_mem_head? rooted)
  · rw [named.cachePath_eq_down, otherNamed.cachePath_eq_down]
    exact areApart_fileNames isFileEnding_java (by decide) differ _
  · simp only [target, named.join_entry]
    exact Path.isBelow_down (by simp [fileNames]) (not_mem_fileNames isFileEnding_class className)
  · simp only [target, otherNamed.join_entry]
    exact Path.isBelow_down (by simp [fileNames]) (not_mem_fileNames isFileEnding_class other)
  · simp only [target, named.join_entry, otherNamed.join_entry]
    exact areApart_fileNames isFileEnding_class (by decide) differ _
  · intro jar name setting session file extracted
    exact (lookup_of_run_extractClass (Prod.ext extracted rfl)).1

/-- The source of one class has the name that another class has before its file. -/
theorem files_apart_java :
    let project := Path.ofText "p"
    IsNamed "a" ∧ IsNamed "a.java" ∧
      cachePath "a" project = project.down [cacheDirectory, "a.java"] ∧
      cachePath "a.java" project = project.down [cacheDirectory, "a", "java.java"] ∧
      (cachePath "a" project).AreApart (cachePath "a.java" project) := by
  intro project
  have named : IsNamed "a" := by decide
  have otherNamed : IsNamed "a.java" := by decide
  exact ⟨named, otherNamed, by decide, by decide,
    (files_apart named otherNamed (by decide) project (.ofText "out")).1.2.2⟩

end Archive

end JarAtlas
