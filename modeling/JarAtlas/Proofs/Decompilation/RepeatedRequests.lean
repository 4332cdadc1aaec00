import JarAtlas.Proofs.Decompilation.Later
import JarAtlas.Proofs.Files.Standing
import Mathlib.Logic.Relation

/-!
# Decompilations that are asked for again

A decompilation with kept sources ends with a file that holds the source. As long as this file stays,
the same request is answered from it: nothing is looked up or launched, so neither the decompiler nor
the index nor the jar matter any more. Decompilations that keep no sources write class files only, and
the file of a source has another ending.
-/

namespace JarAtlas

open Action Files ClassName Relation

namespace Decompilation

/-! ### Files that stand -/

section

variable {place : Place}

theorem spares_extractAndDecompile (apart : ∀ last ∈ place.getLast?, ¬ entryEnding <:+ last)
    (jar cfr : Json) (className : JsonString) :
    Spares place (extractAndDecompile jar cfr className) := by
  apply Spares.withTemporary
  intro directory
  rcases exists_display_entryOf className with ⟨front, noDot, display⟩
  have puts := Archive.puts_extractClass jar className directory
  rw [display] at puts
  apply (Spares.of_puts noDot isFileEnding_class apart puts).bind
  exact fun file => .of_keeps (keeps_decompileFile (fun _ _ _ => rfl) _ _)

theorem spares_decompileAfresh (apart : ∀ last ∈ place.getLast?, ¬ entryEnding <:+ last)
    (className : JsonString) (project : Text) (cfr : Json) :
    Spares place (decompileAfresh className project cfr) := by
  rw [decompileAfresh_eq]
  apply (Spares.of_keeps (keeps_cfrJar (fun _ _ => rfl) cfr)).bind
  intro decompiler
  apply (Spares.of_keeps (ClassIndex.keeps_jarOf (fun _ _ => rfl) _ _)).bind
  exact fun jar => spares_extractAndDecompile apart jar decompiler className

theorem spares_keepSource (apart : ∀ last ∈ place.getLast?, ¬ (".java" : Text) <:+ last)
    (className : Text) (project : Path) (source : Text) :
    Spares place (keepSource (cachePath className project) source) := by
  exact .of_puts (not_mem_simple className) isFileEnding_java apart (puts_keepSource _ source)

theorem spares_decompile (apart : ∀ last ∈ place.getLast?, ¬ entryEnding <:+ last)
    (apartFromSources : ∀ last ∈ place.getLast?, ¬ (".java" : Text) <:+ last)
    (className project : Text) (useCache : Bool) (cfr : Json) :
    Spares place (decompile className project useCache cfr) := by
  have afresh := spares_decompileAfresh apart (.text className) project cfr
  cases useCache with
  | false =>
    rw [decompile_of_not_useCache]
    exact afresh
  | true =>
    intro setting session
    rw [run_decompile_useCache]
    dsimp only
    split
    · exact .refl _
    · rw [run_readText]
      exact .refl _
    · refine (afresh.bind fun source => ?_) setting session
      exact (spares_keepSource apartFromSources className _ source).bind fun _ => .pure _

end

/-! ### The file of a source -/

variable {setting : Setting} {session after : Session} {className project source : Text} {cfr : Json}

/-- What the project keeps as the source of the class. -/
def keptContent (className project : Text) (setting : Setting) (session : Session) :
    Except Error Content :=
  contentAt session.files setting.host.workingDirectory (cachePath className (.ofText project)).text

/-- The source is kept, up to its line breaks. -/
def IsKept (className project source : Text) (setting : Setting) (session : Session) : Prop :=
  ∃ content, keptContent className project setting session = .ok content ∧
    textOf content = Text.unifyBreaks source

/-- A source that is kept is the answer, and nothing else happens. -/
theorem IsKept.run_decompile (isKept : IsKept className project source setting session) (cfr : Json) :
    decompile className project true cfr setting session =
      (.ok (Text.unifyBreaks source), session) := by
  rcases isKept with ⟨content, kept, isText⟩
  rcases contentAt_cachePath_eq_ok_iff.mp kept with ⟨noNull, stamp, isThere⟩
  rw [run_decompile_of_kept isThere noNull, isText]

/-- A decompilation with kept sources has kept what it answers. -/
theorem isKept_of_decompile
    (answered : decompile className project true cfr setting session = (.ok source, after)) :
    IsKept className project source setting after := by
  cases found : foundAt session.files setting.host.workingDirectory
      (cachePath className (.ofText project)) with
  | error error =>
    rw [run_decompile_of_refused found] at answered
    cases answered
  | ok node =>
    cases node with
    | some node =>
      rw [run_decompile_of_found found, run_readText] at answered
      change ((keptContent className project setting session).map textOf, session) = _ at answered
      cases kept : keptContent className project setting session with
      | error error =>
        rw [kept] at answered
        cases answered
      | ok content =>
        rw [kept] at answered
        cases answered
        exact ⟨content, kept, (unifyBreaks_textOf content).symm⟩
    | none =>
      rw [run_decompile_of_absent found] at answered
      rcases made : decompileAfresh (.text className) project cfr setting session
        with ⟨result, fresh⟩
      rw [made] at answered
      cases result with
      | error error => cases answered
      | ok fromFresh =>
        dsimp only at answered
        rcases kept : keepSource (cachePath className (.ofText project)) fromFresh setting fresh
          with ⟨outcome, behind⟩
        rw [kept] at answered
        cases outcome with
        | error error => cases answered
        | ok =>
          cases answered
          rcases lookup_of_keepSource kept with ⟨noNull, stamp, isThere⟩
          exact ⟨_, contentAt_cachePath_eq_ok_iff.mpr ⟨noNull, stamp, isThere⟩, rfl⟩

/-- A decompilation that keeps no source leaves those that are kept. -/
theorem keptContent_of_unkept {content : Content} {other otherProject : Text}
    (isTree : session.files.IsTree) (isFree : session.files.IsFree setting.host.temporaryDirectory)
    (kept : keptContent className project setting session = .ok content) :
    keptContent className project setting (decompile other otherProject false cfr setting session).2 =
      .ok content := by
  rcases contentAt_cachePath_eq_ok_iff.mp kept with ⟨noNull, stamp, isThere⟩
  rcases FileTree.exists_of_lookup isThere with ⟨place, located, stands⟩
  have apart : ∀ last ∈ place.getLast?, ¬ entryEnding <:+ last := by
    rcases exists_segments_cachePath className (.ofText project) with ⟨above, name, ends⟩
    rw [FileTree.getLast?_of_locate ends (isFileEnding_java.append_ne_up name) located]
    rintro last ⟨⟩ ⟨front, same⟩
    simpa [entryEnding] using congrArg List.getLast? same
  have leaves := spares_decompileAfresh apart (.text other) otherProject cfr setting session
  rw [decompile_of_not_useCache]
  have stillThere := leaves.hasFile_of_isFree isFree (isTree.hasFile stands)
  refine contentAt_cachePath_eq_ok_iff.mpr ⟨noNull, stamp, ?_⟩
  rw [FileTree.lookup, (leaves.keepsDirectories isFree).locate located]
  dsimp only
  rw [stillThere.stands]

/-! ### Later requests -/

/-- What may happen between two requests for the source of a class. -/
inductive Step (className project : Text) : Setting × Session → Setting × Session → Prop
  /-- Jars, indexes, tools, the configuration and what a service remembers change, but not the file of
  the source. -/
  | change {setting later : Setting} {session changed : Session}
      (same : keptContent className project later changed =
        keptContent className project setting session) :
      Step className project (setting, session) (later, changed)
  /-- Some class is decompiled without keeping its source. -/
  | unkept {setting : Setting} {session : Session} (isTree : session.files.IsTree)
      (isFree : session.files.IsFree setting.host.temporaryDirectory) (other otherProject : Text)
      (cfr : Json) :
      Step className project (setting, session)
        (setting, (decompile other otherProject false cfr setting session).2)
  /-- The source is requested. -/
  | again {setting : Setting} {session : Session} (cfr : Json) :
      Step className project (setting, session)
        (setting, (decompile className project true cfr setting session).2)

theorem Step.isKept {world next : Setting × Session} (step : Step className project world next)
    (isKept : IsKept className project source world.1 world.2) :
    IsKept className project source next.1 next.2 := by
  cases step with
  | change same =>
    rcases isKept with ⟨content, kept, isText⟩
    exact ⟨content, same.trans kept, isText⟩
  | unkept isTree isFree other otherProject cfr =>
    rcases isKept with ⟨content, kept, isText⟩
    exact ⟨content, keptContent_of_unkept isTree isFree kept, isText⟩
  | again cfr =>
    dsimp only at isKept ⊢
    rw [isKept.run_decompile]
    exact isKept

theorem isKept_of_steps {world last : Setting × Session}
    (steps : ReflTransGen (Step className project) world last)
    (isKept : IsKept className project source world.1 world.2) :
    IsKept className project source last.1 last.2 := by
  induction steps with
  | refl => exact isKept
  | tail _ step ih => exact step.isKept ih

/-- Once the source of a class has been made and kept, it is the answer to every later request for it,
with all its line breaks alike, whatever the decompiler. Nothing is launched for that, and no file and
nothing that is remembered changes. -/
theorem decompile_again {later : Setting} {found : Session}
    (answered : decompile className project true cfr setting session = (.ok source, after))
    (steps : ReflTransGen (Step className project) (setting, after) (later, found))
    (otherCfr : Json) :
    decompile className project true otherCfr later found =
        (.ok (Text.unifyBreaks source), found) ∧
      ('\r' ∉ source → Text.unifyBreaks source = source) :=
  ⟨(isKept_of_steps steps (isKept_of_decompile answered)).run_decompile otherCfr,
    Text.unifyBreaks_of_not_mem⟩

/-- What is left without the jar, the index and everything that is remembered. -/
def withoutJar (session : Session) : Session :=
  { session with
    files := (session.files.remove ["work", "a.jar"]).remove ["work", ClassIndex.fileName]
    memory := .empty }

/-- The source is still the answer where jar, index and decompiler are gone. -/
theorem decompile_again_withoutJar :
    ∃ made, decompile "a.B" "." true (.text "cfr.jar") printingSetting jarProject =
        (.ok "class B;\r\n", made) ∧
      let bare := withoutJar (decompile "a.B" "." false (.text "cfr.jar") printingSetting made).2
      ReflTransGen (Step "a.B" ".") (printingSetting, made) (ClassIndex.workSetting, bare) ∧
        decompile "a.B" "." true .null ClassIndex.workSetting bare = (.ok "class B;\n", bare) := by
  have answers : (decompile "a.B" "." true (.text "cfr.jar") printingSetting jarProject).1 =
      .ok "class B;\r\n" := by decide +kernel
  rcases ran : decompile "a.B" "." true (.text "cfr.jar") printingSetting jarProject
    with ⟨result, made⟩
  have isMade : made = (decompile "a.B" "." true (.text "cfr.jar") printingSetting jarProject).2 := by
    rw [ran]
  have isTree : made.files.IsTree := by
    rw [isMade]
    decide +kernel
  have isFree : made.files.IsFree printingSetting.host.temporaryDirectory := by
    rw [isMade]
    decide +kernel
  have unkept : Step "a.B" "." (printingSetting, made)
      (printingSetting, (decompile "a.B" "." false (.text "cfr.jar") printingSetting made).2) :=
    .unkept isTree isFree "a.B" "." (.text "cfr.jar")
  have same : keptContent "a.B" "." ClassIndex.workSetting
        (withoutJar (decompile "a.B" "." false (.text "cfr.jar") printingSetting made).2) =
      keptContent "a.B" "." printingSetting
        (decompile "a.B" "." false (.text "cfr.jar") printingSetting made).2 := by
    rw [isMade]
    decide +kernel
  rw [ran] at answers
  cases answers
  have steps := (ReflTransGen.single unkept).tail (.change same)
  have unified : Text.unifyBreaks "class B;\r\n" = "class B;\n" := by decide +kernel
  have again := (decompile_again ran steps .null).1
  rw [unified] at again
  exact ⟨made, rfl, steps, again⟩

end Decompilation

end JarAtlas
