import JarAtlas.Proofs.ClassIndex.WrittenIndex
import JarAtlas.Proofs.Decompilation.Later
import JarAtlas.Proofs.Text.Words
import Mathlib.Data.List.Nodup

/-!
# Batches

A batch decompiles one class after the other and never fails: where a class has no source, a comment
tells why. Whatever comes before it in the batch, a class comes to what it would come to alone. The
exceptions are a source that is read again from its file, whose line breaks are then alike, and a class
with a name that is too long to be kept, which is noticed before anything else once the directories
above it have been made for other classes.
-/

namespace JarAtlas

open Action Files ClassName

namespace Decompilation

variable {setting : Setting} {start session after : Session} {className project : Text}
  {useCache : Bool} {cfr : Json} {classNames done : List Text}

/-! ### Distinct names in order -/

theorem map_fst_setSource (source : Text) (sources : List (Text × Text)) :
    (setSource className source sources).map Prod.fst =
      if className ∈ sources.map Prod.fst then sources.map Prod.fst
      else sources.map Prod.fst ++ [className] := by
  induction sources with
  | nil => simp [setSource]
  | cons entry others ih =>
    rcases entry with ⟨other, old⟩
    rw [setSource]
    by_cases same : other = className
    · simp [same]
    · rw [if_neg same, List.map_cons, List.map_cons, ih]
      by_cases later : className ∈ others.map Prod.fst
      · rw [if_pos later, if_pos (List.mem_cons_of_mem _ later)]
      · rw [if_neg later, if_neg (List.not_mem_cons_of_ne_of_not_mem (Ne.symm same) later),
          List.cons_append]

theorem mem_setSource {source : Text} {sources : List (Text × Text)} {entry : Text × Text}
    (distinct : (sources.map Prod.fst).Nodup) (isEntry : entry ∈ setSource className source sources) :
    entry = (className, source) ∨ entry ∈ sources ∧ entry.1 ≠ className := by
  induction sources with
  | nil => exact .inl (List.mem_singleton.mp isEntry)
  | cons first others ih =>
    rcases first with ⟨other, old⟩
    rw [List.map_cons, List.nodup_cons] at distinct
    rw [setSource] at isEntry
    split_ifs at isEntry with same
    · subst same
      rcases List.mem_cons.mp isEntry with rfl | later
      · exact .inl rfl
      · refine .inr ⟨List.mem_cons_of_mem _ later, fun same => distinct.1 ?_⟩
        exact List.mem_map.mpr ⟨entry, later, same⟩
    · rcases List.mem_cons.mp isEntry with rfl | later
      · exact .inr ⟨List.mem_cons_self, same⟩
      · rcases ih distinct.2 later with isThis | ⟨isOther, apart⟩
        · exact .inl isThis
        · exact .inr ⟨List.mem_cons_of_mem _ isOther, apart⟩

/-! ### One class of a batch -/

/-- What a batch shows for a class. -/
def shown : Except Error Text → Text
  | .ok source => source
  | .error error => "// Decompilation failed: " ++ error.message

/-- One class of a batch. -/
def decompileInto (project : Text) (useCache : Bool) (cfr : Json) (sources : List (Text × Text))
    (className : Text) : Action (List (Text × Text)) := do
  match ← (decompile className project useCache cfr).attempt with
  | .ok source => return setSource className source sources
  | .error error =>
    return setSource className ("// Decompilation failed: " ++ error.message) sources

theorem decompileAll_eq : decompileAll classNames project useCache cfr =
    classNames.foldlM (decompileInto project useCache cfr) [] := rfl

theorem run_decompileInto (sources : List (Text × Text)) :
    decompileInto project useCache cfr sources className setting session =
      (.ok (setSource className
          (shown (decompile className project useCache cfr setting session).1) sources),
        (decompile className project useCache cfr setting session).2) := by
  unfold decompileInto
  rw [run_bind, run_attempt]
  rcases decompile className project useCache cfr setting session with ⟨answer, after⟩
  cases answer <;> rfl

/-! ### Batches -/

/-- The sources that a batch shows for the classes it has come to: each by what the class would come to
alone. -/
structure Shows (setting : Setting) (project : Text) (useCache : Bool) (cfr : Json) (start : Session)
    (done : List Text) (sources : List (Text × Text)) : Prop where
  keys : sources.map Prod.fst = done.eraseDups
  values : ∀ entry ∈ sources, ∃ answer, entry.2 = shown answer ∧
    Answers entry.1 project useCache (1 < done.count entry.1)
      (decompile entry.1 project useCache cfr setting start).1 answer

theorem Shows.next {sources : List (Text × Text)} {answer : Except Error Text}
    (shows : Shows setting project useCache cfr start done sources)
    (answers : Answers className project useCache (className ∈ done)
      (decompile className project useCache cfr setting start).1 answer) :
    Shows setting project useCache cfr start (done ++ [className])
      (setSource className (shown answer) sources) where
  keys := by
    rw [map_fst_setSource, shows.keys, ClassIndex.eraseDups_append_singleton]
    simp only [List.mem_eraseDups]
  values := by
    intro entry isEntry
    have distinct : (sources.map Prod.fst).Nodup := shows.keys ▸ Text.nodup_eraseDups done
    rcases mem_setSource distinct isEntry with rfl | ⟨isOld, apart⟩
    · refine ⟨answer, rfl, ?_⟩
      have isRepeated : 1 < (done ++ [className]).count className ↔ className ∈ done := by
        rw [List.count_append, List.count_singleton_self, ← List.count_pos_iff]
        omega
      simp only [isRepeated]
      exact answers
    · have sameCount : (done ++ [className]).count entry.1 = done.count entry.1 := by
        rw [List.count_append, List.count_singleton]
        simp [Ne.symm apart]
      rw [sameCount]
      exact shows.values entry isOld

theorem Follows.step {answer : Except Error Text}
    (follows : Follows setting project cfr start (if useCache then done else []) session)
    (isTree : start.files.IsTree) (scratch : IsScratch setting start.files)
    (outside : JarsOutside setting start project) (named : IsNamed className)
    (apart : IsApart setting start className project)
    (ran : decompile className project useCache cfr setting session = (answer, after)) :
    Follows setting project cfr start (if useCache then done ++ [className] else []) after ∧
      Answers className project useCache (className ∈ done)
        (decompile className project useCache cfr setting start).1 answer := by
  cases useCache with
  | false =>
    rcases follows.answers_not_useCache scratch outside named ran with ⟨followsAfter, rfl⟩
    exact ⟨followsAfter, .of_unrepeated (by simp)⟩
  | true => exact follows.answers_useCache isTree scratch outside named apart ran

/-- From any session that a part of a batch has led to, the rest of the batch runs to its end. -/
theorem exists_of_decompileInto {sources : List (Text × Text)}
    (follows : Follows setting project cfr start (if useCache then done else []) session)
    (shows : Shows setting project useCache cfr start done sources)
    (isTree : start.files.IsTree) (scratch : IsScratch setting start.files)
    (outside : JarsOutside setting start project)
    (named : ∀ className ∈ classNames, IsNamed className)
    (apart : ∀ className ∈ classNames, IsApart setting start className project) :
    ∃ all, (classNames.foldlM (decompileInto project useCache cfr) sources setting session).1 =
        .ok all ∧
      Shows setting project useCache cfr start (done ++ classNames) all := by
  induction classNames generalizing session done sources with
  | nil =>
    rw [List.append_nil]
    exact ⟨sources, rfl, shows⟩
  | cons className others ih =>
    rw [List.foldlM_cons, run_bind, run_decompileInto, List.append_cons]
    dsimp only
    rcases ran : decompile className project useCache cfr setting session with ⟨answer, after⟩
    rcases follows.step isTree scratch outside (named _ List.mem_cons_self)
      (apart _ List.mem_cons_self) ran with ⟨followsAfter, answers⟩
    exact ih followsAfter (shows.next answers)
      (fun other isOther => named other (List.mem_cons_of_mem _ isOther))
      fun other isOther => apart other (List.mem_cons_of_mem _ isOther)

/-- A batch never fails. It shows each class once, in the order of first mention, and for each class
what a decompilation of this class alone comes to: its source, read from a file if the class is repeated
and sources are kept, or a comment with its error. Only where sources are kept, a name that is too long
may be noticed before that error. -/
theorem decompileAll_alone (isTree : session.files.IsTree) (scratch : IsScratch setting session.files)
    (outside : JarsOutside setting session project)
    (named : ∀ className ∈ classNames, IsNamed className)
    (apart : ∀ className ∈ classNames, IsApart setting session className project) :
    ∃ sources, (decompileAll classNames project useCache cfr setting session).1 = .ok sources ∧
      sources.map Prod.fst = classNames.eraseDups ∧
      ∀ entry ∈ sources,
        match (decompile entry.1 project useCache cfr setting session).1 with
        | .ok alone => entry.2 =
          if useCache = true ∧ 1 < classNames.count entry.1 then Text.unifyBreaks alone else alone
        | .error error =>
          entry.2 = "// Decompilation failed: " ++ error.message ∨
            useCache = true ∧
              (∃ name ∈ keptNames entry.1, FileTree.nameLimit < Text.byteCount name) ∧
              entry.2 = "// Decompilation failed: " ++
                (Error.file .nameTooLong (cachePath entry.1 (.ofText project)).text).message := by
  have follows : Follows setting project cfr session (if useCache then [] else []) session := by
    rw [ite_self]
    exact .refl isTree scratch.isFree
  have nothing : Shows setting project useCache cfr session [] [] := ⟨by simp, by simp⟩
  rcases exists_of_decompileInto follows nothing isTree scratch outside named apart
    with ⟨sources, answered, shows⟩
  refine ⟨sources, answered, shows.keys, fun entry isEntry => ?_⟩
  rcases shows.values entry isEntry with ⟨answer, isShown, answers⟩
  rw [List.nil_append] at answers
  rw [isShown]
  generalize (decompile entry.1 project useCache cfr setting session).1 = alone at answers ⊢
  cases answers with
  | source alone =>
    apply if_congr _ rfl rfl
    rw [decide_eq_true_eq]
  | error error => exact .inl rfl
  | longName error keeps isLong => exact .inr ⟨keeps, isLong, rfl⟩

/-- A class that is mentioned twice is shown once, with its line breaks alike, and one that the index does
not have is shown with its error. -/
theorem decompileAll_alone_jarProject :
    let classNames : List Text := ["a.B", "a.C", "a.B"]
    (∀ className ∈ classNames, IsNamed className) ∧ jarProject.files.IsTree ∧
      IsScratch printingSetting jarProject.files ∧ JarsOutside printingSetting jarProject "." ∧
      (∀ className ∈ classNames, IsApart printingSetting jarProject className ".") ∧
      (decompile "a.B" "." true (.text "cfr.jar") printingSetting jarProject).1 =
        .ok "class B;\r\n" ∧
      ∃ sources,
        (decompileAll classNames "." true (.text "cfr.jar") printingSetting jarProject).1 =
            .ok sources ∧
          sources.map Prod.fst = ["a.B", "a.C"] ∧
          ∀ entry ∈ sources, entry.1 = "a.B".toList → entry.2 = "class B;\n".toList := by
  intro classNames
  have named : ∀ className ∈ classNames, IsNamed className := by decide +kernel
  have isTree : jarProject.files.IsTree := by decide +kernel
  have outside : JarsOutside printingSetting jarProject "." := by decide +kernel
  have apart : ∀ className ∈ classNames, IsApart printingSetting jarProject className "." := by
    decide +kernel
  have alone : (decompile "a.B" "." true (.text "cfr.jar") printingSetting jarProject).1 =
      .ok "class B;\r\n" := by decide +kernel
  have batch : ∃ sources,
      (decompileAll classNames "." true (.text "cfr.jar") printingSetting jarProject).1 = .ok sources ∧
        sources.map Prod.fst = classNames.eraseDups ∧ _ :=
    decompileAll_alone isTree isScratch_jarProject outside named apart
  rcases batch with ⟨sources, answered, keys, values⟩
  refine ⟨named, isTree, isScratch_jarProject, outside, apart, alone, sources, answered, ?_, ?_⟩
  · rw [keys]
    decide +kernel
  · intro entry isEntry isClass
    have value := values entry isEntry
    rw [isClass, alone] at value
    rw [value]
    decide +kernel

/-- Behind another class of its package, a class that the index does not have is shown with another
error than alone: its name turns out to be too long. -/
theorem decompileAll_longName :
    let long : Text := "a." ++ List.replicate 251 'L'
    let tooLong : Error := .file .nameTooLong (cachePath long (.ofText ".")).text
    IsNamed "a.B" ∧ IsNamed long ∧ JarsOutside printingSetting jarProject "." ∧
      (decompile long "." true (.text "cfr.jar") printingSetting jarProject).1 =
        .error (.unknownClass long) ∧
      (decompileAll ["a.B", long] "." true (.text "cfr.jar") printingSetting jarProject).1 =
        .ok [("a.B", "class B;\r\n"), (long, "// Decompilation failed: " ++ tooLong.message)] ∧
      tooLong.message ≠ (Error.unknownClass long).message := by
  intro long tooLong
  have named : IsNamed "a.B" := by decide +kernel
  have namedLong : IsNamed long := by decide +kernel
  have outside : JarsOutside printingSetting jarProject "." := by decide +kernel
  have absent : foundAt jarProject.files ["work"] (cachePath "a.B" (.ofText ".")) = .ok none := by
    decide +kernel
  have alone : (decompile "a.B" "." true (.text "cfr.jar") printingSetting jarProject).1 =
      .ok "class B;\r\n" := by decide +kernel
  have unknown : (decompile long "." true (.text "cfr.jar") printingSetting jarProject).1 =
        .error (.unknownClass long) := by decide +kernel
  refine ⟨named, namedLong, outside, unknown, ?_, by decide +kernel⟩
  rcases ran : decompile "a.B" "." true (.text "cfr.jar") printingSetting jarProject
    with ⟨result, after⟩
  rw [ran] at alone
  dsimp only at alone
  rw [alone] at ran
  have kept := @files_of_answering_decompile printingSetting jarProject after "a.B" "."
    (.text "cfr.jar") named isScratch_jarProject true "class B;\r\n" ran
  rw [if_pos ⟨rfl, absent⟩] at kept
  rcases kept with ⟨-, place, stamp, located, -, -⟩
  have inPackage : cachePath "a.B" (.ofText ".") =
      (⟨.relative, [cacheDirectory, "a"]⟩ : Path).down ["B.java"] := by decide +kernel
  have longInPackage : cachePath long (.ofText ".") =
      (⟨.relative, [cacheDirectory, "a"]⟩ : Path).down [simple long ++ ".java"] := by decide +kernel
  rw [inPackage] at located
  have nowhere : after.files.locate ["work"] (cachePath long (.ofText ".")) = .error .nameTooLong :=
    longInPackage ▸ FileTree.locate_of_long_sibling located (by decide +kernel)
  have refused : foundAt after.files ["work"] (cachePath long (.ofText ".")) = .error tooLong := by
    rw [foundAt_of_locate_error nowhere]
    exact if_neg (by decide +kernel)
  have refusedRun : decompile long "." true (.text "cfr.jar") printingSetting after =
      (.error tooLong, after) := @run_decompile_of_refused printingSetting after long "." _ _ refused
  rw [decompileAll_eq, List.foldlM_cons, run_bind, run_decompileInto, ran]
  dsimp only
  rw [List.foldlM_cons, run_bind, run_decompileInto, refusedRun]
  rfl

end Decompilation

end JarAtlas
