import JarAtlas.Proofs.ClassIndex.Indexing
import JarAtlas.Server.Call

/-!
# The first scan

A call that needs an index scans its project first if there is none. It makes no difference whether
the scan has been asked for by a call of its own: where it answers, the index is there afterwards and
is not built again, and where it fails, so does the call.
-/

namespace JarAtlas

open Action Files

namespace Report

theorem exists_mapM {ε α β : Type} {f : α → Except ε β} {items : List α}
    (answers : ∀ item ∈ items, ∃ answer, f item = .ok answer) :
    ∃ results, items.mapM f = .ok results := by
  induction items with
  | nil => exact ⟨[], rfl⟩
  | cons item items ih =>
    rcases answers item List.mem_cons_self with ⟨answer, answered⟩
    rcases ih fun other later => answers other (List.mem_cons_of_mem _ later) with ⟨results, mapped⟩
    refine ⟨answer :: results, ?_⟩
    rewrite [List.mapM_cons, answered, mapped]
    rfl

/-- The samples of a new index can be shown. -/
theorem exists_shownSamples (samples : List Text) (position : Nat) :
    ∃ lines, shownSamples position (.list (samples.map .text)) = .ok lines := by
  unfold shownSamples
  apply exists_mapM
  rintro ⟨item, index⟩ isItem
  rcases List.mem_map.mp (List.mem_of_mem_take (List.fst_mem_of_mem_zipIdx isItem))
    with ⟨text, -, same⟩
  cases same
  exact ⟨_, rfl⟩

/-- The summary of a new index can be reported. -/
theorem exists_scan_summaryOf (path : Path) (jars : Nat) (entries : List ClassIndex.Entry) :
    ∃ report, scan (ClassIndex.summaryOf path jars entries) = .ok report := by
  have areTexts : (entries.take ClassIndex.sampleSize).map (fun entry => Json.text entry.sample) =
      ((entries.take ClassIndex.sampleSize).map ClassIndex.Entry.sample).map .text := by
    rw [List.map_map]
    rfl
  unfold scan ClassIndex.summaryOf
  dsimp only
  rw [areTexts]
  rcases exists_shownSamples _ _ with ⟨lines, shown⟩
  rw [shown]
  exact ⟨_, rfl⟩

end Report

namespace Server

variable {setting : Setting} {session scanned : Session} {tool : Tool} {given asked : Arguments}
  {className project : Json}

/-! ### Building an index on first use -/

/-- No index is found for the project. -/
def IsUnindexed (setting : Setting) (session : Session) (project : Json) : Prop :=
  ∀ name, Request.projectOf project = .ok name → ∀ node,
    session.files.lookup setting.host.workingDirectory (ClassIndex.pathOf name) ≠ .ok node

theorem run_ensureIndex (project : Json) : ensureIndex project setting session =
    match Request.projectOf project with
    | .error error => (.error error, session)
    | .ok name =>
      match foundAt session.files setting.host.workingDirectory (ClassIndex.pathOf name) with
      | .error error => (.error error, session)
      | .ok (some _) => (.ok (), session)
      | .ok none =>
        ((ClassIndex.scan name false setting session).1.map fun _ => (),
          (ClassIndex.scan name false setting session).2) := by
  unfold ensureIndex
  rw [run_bind, run_ofExcept]
  cases Request.projectOf project with
  | error error => rfl
  | ok name =>
    dsimp only
    rw [run_bind, ClassIndex.doesExist, run_doesExist]
    cases foundAt session.files setting.host.workingDirectory (ClassIndex.pathOf name) with
    | error error => rfl
    | ok found =>
      cases found with
      | some node => rfl
      | none =>
        dsimp only [Except.map, Option.isSome_none]
        rw [if_neg Bool.false_ne_true, run_bind]
        rcases ClassIndex.scan name false setting session with ⟨result, after⟩
        cases result <;> rfl

/-- Without an index, it does not matter whether one is to be replaced. -/
theorem run_scan_of_unindexed {name : Text} (force : Bool) (unindexed : ∀ node,
    session.files.lookup setting.host.workingDirectory (ClassIndex.pathOf name) ≠ .ok node) :
    ClassIndex.scan name force setting session = ClassIndex.scan name false setting session := by
  cases force with
  | false => rfl
  | true =>
    rw [ClassIndex.run_scan_forced]
    split
    · rename_i node found
      exact absurd (lookup_of_foundAt found) (unindexed node)
    · rfl

/-- A tool that needs an index goes on from there as in any session. -/
theorem exists_rest (needsIndex : tool ≠ .scanDependencies)
    (hasClass : requiredArgument given "className" = .ok className)
    (hasProject : requiredArgument given "projectPath" = .ok project) :
    ∃ rest : Action Text, run given tool = (do ensureIndex project; rest) := by
  cases tool with
  | scanDependencies => exact absurd rfl needsIndex
  | decompileClass =>
    unfold run
    rw [hasClass, hasProject]
    exact ⟨_, rfl⟩
  | analyzeClass =>
    unfold run
    rw [hasClass, hasProject]
    exact ⟨_, rfl⟩

theorem ofName?_name (tool : Tool) : Tool.ofName? tool.name = some tool := by
  cases tool <;> decide

theorem run_call (tool : Tool) (given : Arguments) : call tool.name given setting session =
    (.ok (match (run given tool setting session).1 with
      | .ok report => report
      | .error error => Report.failure error.message tool.suggestions),
      (run given tool setting session).2) := by
  unfold call
  rw [ofName?_name]
  dsimp only
  rw [run_bind, run_attempt]
  dsimp only
  cases (run given tool setting session).1 <;> rfl

/-- What the tool for scans comes to where there is no index. -/
theorem run_scanDependencies (asksProject : requiredArgument asked "projectPath" = .ok project)
    (unindexed : IsUnindexed setting session project) :
    run asked .scanDependencies setting session =
      match Request.projectOf project with
      | .error error => (.error error, session)
      | .ok name =>
        ((ClassIndex.scan name false setting session).1.bind Report.scan,
          (ClassIndex.scan name false setting session).2) := by
  unfold run
  dsimp only
  rw [run_bind, run_ofExcept, asksProject]
  dsimp only
  unfold Request.scan
  rw [run_bind, run_bind, run_ofExcept]
  cases isName : Request.projectOf project with
  | error error => rfl
  | ok name =>
    dsimp only
    rw [run_scan_of_unindexed _ (unindexed name isName)]
    rcases ClassIndex.scan name false setting session with ⟨result, after⟩
    cases result with
    | error error => rfl
    | ok summary => exact run_ofExcept _ _ _

/-- A scan that answers where there was no index leaves one, and its report can be given. -/
theorem exists_report_of_scan {name : Text} {summary : ScanSummary} (unindexed :
      foundAt session.files setting.host.workingDirectory (ClassIndex.pathOf name) = .ok none)
    (scans : ClassIndex.scan name false setting session = (.ok summary, scanned)) :
    (∃ report, Report.scan summary = .ok report) ∧
      ∃ node, foundAt scanned.files setting.host.workingDirectory (ClassIndex.pathOf name) =
        .ok (some node) := by
  rw [ClassIndex.run_scan_unforced, unindexed] at scans
  rcases ClassIndex.exists_of_run_build scans with ⟨_, found, _, _, -, -, rfl, -, isThere⟩
  exact ⟨Report.exists_scan_summaryOf _ _ _, _, foundAt_of_lookup isThere⟩

/-- Where there is no index, a call that needs one behaves as it does behind a call that scans its
project, or it fails with the error of that scan. -/
theorem call_of_unindexed (needsIndex : tool ≠ .scanDependencies)
    (hasClass : requiredArgument given "className" = .ok className)
    (hasProject : requiredArgument given "projectPath" = .ok project)
    (asksProject : requiredArgument asked "projectPath" = .ok project)
    (unindexed : IsUnindexed setting session project) :
    match run asked .scanDependencies setting session with
    | (.ok report, scanned) =>
      call Tool.scanDependencies.name asked setting session = (.ok report, scanned) ∧
        call tool.name given setting session = call tool.name given setting scanned
    | (.error error, scanned) =>
      call Tool.scanDependencies.name asked setting session =
          (.ok (Report.failure error.message Tool.scanDependencies.suggestions), scanned) ∧
        call tool.name given setting session =
          (.ok (Report.failure error.message tool.suggestions), scanned) := by
  rcases exists_rest needsIndex hasClass hasProject with ⟨rest, isRun⟩
  simp only [run_call, run_scanDependencies asksProject unindexed, isRun, run_bind, run_ensureIndex]
  cases isName : Request.projectOf project with
  | error error => exact ⟨rfl, rfl⟩
  | ok name =>
    dsimp only
    cases found : foundAt session.files setting.host.workingDirectory (ClassIndex.pathOf name) with
    | error error =>
      rw [ClassIndex.run_scan_unforced, found]
      exact ⟨rfl, rfl⟩
    | ok node? =>
      cases node? with
      | some node => exact absurd (lookup_of_foundAt found) (unindexed name isName node)
      | none =>
        dsimp only
        rcases scans : ClassIndex.scan name false setting session with ⟨result, scanned⟩
        cases result with
        | error error => exact ⟨rfl, rfl⟩
        | ok summary =>
          rcases exists_report_of_scan found scans with ⟨⟨report, reported⟩, node, isThere⟩
          simp only [Except.bind, Except.map, reported, isThere, and_self]

end Server

end JarAtlas
