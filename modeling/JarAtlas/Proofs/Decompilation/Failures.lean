import JarAtlas.Proofs.ClassIndex.Failures
import JarAtlas.Proofs.Decompilation.KeptSource

/-!
# How decompilations fail

A decompilation fails with an error of the lookup, with an error that is part of the service, because
of something in the way of the files that it writes, or because the index names no jar for the class
but something else.
-/

namespace JarAtlas

open Action Files

variable {setting : Setting} {kind : Error → Prop}

namespace Archive

/-- The value names no jar: it is no string, it is broken, or it holds a null character. -/
inductive NamesNoJar : Json → Error → Prop
  | null {jar : Text} (isNull : hasNull jar = true) : NamesNoJar (.text jar) .nullInPath
  | broken {codes : List Nat} {obstacle : JsonString.Obstacle}
      (found : JsonString.obstacle? codes = some obstacle) :
      NamesNoJar (.string (.broken codes)) (.unencodable obstacle)
  | noString {jar : Json} (noString : ∀ name, jar ≠ .string name) :
      NamesNoJar jar (.wrongType (.noMember jar.typeName "seek"))

variable {jar : Json} (covers : CoversCommon kind)
  (unnamed : ∀ error, NamesNoJar jar error → kind error)

theorem fails_entriesNamed (unreadable : ∀ error, error.isUnreadableJar = true → kind error)
    (unnamed : ∀ error, NamesNoJar jar error → kind error) :
    Fails setting kind (entriesNamed jar) := by
  unfold entriesNamed
  split
  · exact fails_entriesOf unreadable fun isNull => unnamed _ (.null isNull)
  · apply FailsWith.fail
    unfold Error.ofBroken
    split
    · rename_i found
      exact unnamed _ (.broken found)
    · exact unreadable _ rfl
  · rename_i notText notBroken
    apply FailsWith.fail
    apply unnamed
    apply NamesNoJar.noString
    rintro (text | codes) isString
    · exact notText text isString
    · exact notBroken codes isString

include covers unnamed

theorem fails_readEntry (entry : JsonString) : Fails setting kind (readEntry jar entry) := by
  have fails : Fails setting (fun error => error.isUnreadableJar = true ∨ kind error)
      (entriesNamed jar) :=
    fails_entriesNamed (fun _ => .inl) fun error isUnnamed => .inr (unnamed error isUnnamed)
  apply fails.attempt_bind fun _ _ => rfl
  · intro entries
    dsimp only
    split
    · exact .pure _
    · exact .fail (covers.reported _ rfl)
  · intro error isKind
    apply FailsWith.fail
    split_ifs with unreadable
    · exact covers.reported _ rfl
    · exact isKind.resolve_left unreadable

theorem fails_extractClass {className : Text} {destination : Path}
    (blocked : ∀ error, Blocks (destination.join (ClassName.entry className)) error → kind error) :
    Fails setting kind (extractClass jar (.text className) destination) := by
  refine FailsWith.andThen ?_ fun _ => ?_
  · change Fails setting kind (ensureDirectoryOf (.text (ClassName.entry className)) _)
    rw [ensureDirectoryOf_text]
    exact (fails_ensureDirectories _).mono fun error blocks => blocked error blocks.of_parent
  · apply (fails_readEntry covers unnamed _).andThen
    intro content
    exact ((fails_write _ _).mono blocked).andThen fun _ => .pure _

end Archive

namespace Tool

theorem fails_cfrIn (covers : CoversCommon kind) (directory : Path) :
    Fails setting kind (cfrIn directory) := by
  apply (fails_isDirectory (covers.long _)).andThen
  intro isThere
  split_ifs
  · refine FailsWith.andThen ?_ fun _ => .pure _
    apply FailsWith.host_bind
    refine FailsWith.andThen (.of_answers fun _ => ⟨_, rfl⟩) fun session => ?_
    dsimp only
    split <;> exact .pure _
  · exact .pure _

theorem fails_findCfr (covers : CoversCommon kind) : Fails setting kind findCfr := by
  have searches (directories : List Path) : Fails setting kind (cfrInAny directories) := by
    induction directories with
    | nil => exact .pure _
    | cons directory others ih =>
      apply (fails_cfrIn covers directory).andThen
      intro found
      split
      · exact .pure _
      · exact ih
  refine FailsWith.andThen (.of_answers fun _ => ⟨_, rfl⟩) fun setting => ?_
  split
  · exact .pure _
  · apply (searches _).andThen
    intro found
    split <;> exact .pure _

end Tool

namespace ClassIndex

/-- With nothing remembered, a table comes out of the index file. -/
theorem tableIn_of_lookupTable {session : Session} {project : Text} {table : LookupTable}
    (forgotten : session.memory.tables = [])
    (looked : (lookupTable project setting session).1 = .ok table) :
    (indexIn session.files setting.host.workingDirectory project).bind tableIn = .ok table := by
  have reads (read : (readTable (pathOf project) setting session).1 = .ok table) :
      (indexIn session.files setting.host.workingDirectory project).bind tableIn = .ok table := by
    rwa [run_readTable] at read
  rw [run_lookupTable] at looked
  split at looked
  · contradiction
  · contradiction
  · exact reads looked
  · rw [remembered?, forgotten] at looked
    dsimp only [List.find?_nil] at looked
    split at looked
    · rename_i read
      apply reads
      rw [read]
      exact looked
    · contradiction

end ClassIndex

namespace Decompilation

open ClassIndex

/-- The kind has the errors that keep a class from being decompiled. -/
structure CoversDecompilations (setting : Setting) (files : FileTree) (className project : Text)
    (kind : Error → Prop) : Prop extends CoversLookups setting files project kind where
  unnamed : ∀ table, (indexIn files setting.host.workingDirectory project).bind tableIn = .ok table →
    ∀ entry ∈ table, ∀ error, Archive.NamesNoJar entry.2 error → kind error
  extracts : ∀ error, Blocks ((pathOf setting.host.temporaryDirectory).join
    (ClassName.entry className)) error → kind error

variable {files : FileTree} {className project : Text} {cfr : Json}

theorem fails_cfrJar (covers : CoversCommon kind) (requested : Json) :
    Fails setting kind (cfrJar requested) := by
  unfold cfrJar
  split_ifs
  · exact .pure _
  · refine FailsWith.andThen (.of_answers fun _ => ⟨_, rfl⟩) fun memory => ?_
    split
    · exact .pure _
    · apply (Tool.fails_findCfr covers).andThen
      intro found
      split
      · exact .of_answers fun _ => ⟨_, rfl⟩
      · exact .fail (covers.reported _ rfl)

theorem fails_decompileFile (covers : CoversCommon kind) (file decompiler : Text) :
    Fails setting kind (decompileFile file (.text decompiler)) := by
  refine FailsWith.andThen ?_ fun java => ?_
  · apply FailsWith.config_bind
    split
    · exact .host_bind (.pure _)
    · exact .pure _
  · apply FailsWith.config_bind
    apply (Tool.fails_run covers _ _ _).andThen
    intro source
    split_ifs
    · exact .fail (covers.reported _ rfl)
    · exact .pure _

/-- The decompiler goes by a text, unless something else is asked for. -/
theorem exists_text_of_cfrJar {session : Session} {requested jar : Json}
    (asked : requested.isTruthy = true → ∃ text, requested = .text text)
    (found : (cfrJar requested setting session).1 = .ok jar) : ∃ text, jar = .text text := by
  rw [run_cfrJar] at found
  split_ifs at found with isAsked
  · cases found
    exact asked isAsked
  · cases isKnown : known session with
    | some path =>
      rw [isKnown] at found
      cases found
      exact ⟨_, rfl⟩
    | none =>
      rw [isKnown] at found
      dsimp only at found
      cases search : searched setting session with
      | error error =>
        rw [search] at found
        cases found
      | ok path =>
        rw [search] at found
        cases found
        exact ⟨_, rfl⟩

variable (covers : CoversDecompilations setting files className project kind)
  (asked : cfr.isTruthy = true → ∃ text, cfr = .text text)

include covers

theorem fails_extractAndDecompile {jar : Json} (decompiler : Text)
    (unnamed : ∀ error, Archive.NamesNoJar jar error → kind error) :
    Fails setting kind (extractAndDecompile jar (.text decompiler) (.text className)) := by
  apply FailsWith.host_bind
  refine FailsWith.andThen (.of_answers fun _ => ⟨_, rfl⟩) fun _ => .restoring ?_
  apply (Archive.fails_extractClass covers.toCoversCommon unnamed covers.extracts).andThen
  exact fun file => fails_decompileFile covers.toCoversCommon _ _

include asked

/-- With no table remembered, the jar of the class comes out of the index file. -/
theorem fails_decompileAfresh :
    FailsWith setting (fun session => (session.files, session.memory.tables)) (files, []) kind
      (decompileAfresh (.text className) project cfr) := by
  rw [decompileAfresh_eq]
  refine (FailsWith.of_fails (fails_cfrJar covers.toCoversCommon cfr)).bind_of_answer
    (keeps_cfrJar (fun _ _ => rfl) cfr) fun session decompiler _ found => ?_
  rcases exists_text_of_cfrJar asked found with ⟨decompiler, rfl⟩
  have looks : FailsWith setting Session.files files kind
      (jarOf (.string (.text className)) project) :=
    fails_jarOf covers.toCoversLookups (by simp [keyOf, Json.key?])
  refine (looks.of_shows fun session shows => congrArg Prod.fst shows).andThen_of_answer
    fun session jar shows isFound => ?_
  rcases exists_of_jarOf isFound with ⟨table, looked, entry, isEntry, rfl⟩
  have isTable := tableIn_of_lookupTable (congrArg Prod.snd shows) looked
  rw [show session.files = files from congrArg Prod.fst shows] at isTable
  exact fails_extractAndDecompile covers decompiler (covers.unnamed table isTable entry isEntry)

/-- A source that is kept is read, and one that is not is made and then kept. -/
theorem fails_decompile {useCache : Bool} (keeps : useCache = true → ∀ error,
      Blocks (ClassName.cachePath className (.ofText project)) error → kind error) :
    FailsWith setting (fun session => (session.files, session.memory.tables)) (files, []) kind
      (decompile className project useCache cfr) := by
  have afresh := fails_decompileAfresh covers asked
  cases useCache with
  | false =>
    rw [decompile_of_not_useCache]
    exact afresh
  | true =>
    have blocked := keeps rfl
    constructor
    intro session shows error failed
    rw [run_decompile_useCache] at failed
    dsimp only at failed
    split at failed
    · rename_i refused
      cases failed
      rcases isTooLong_of_foundAt refused with ⟨isLong, rfl⟩
      exact covers.long _ isLong
    · have reads :
          Fails setting kind (readText (ClassName.cachePath className (.ofText project))) := by
        apply FailsWith.andThen
        · exact fails_read (fun fault => blocked _ (.fault fault rfl List.prefix_rfl))
            fun isNull => blocked _ (.null rfl List.prefix_rfl isNull)
        · intro content
          split <;> exact .pure _
      exact reads.isKind session rfl error failed
    · have keepsSource (source : Text) : Fails setting kind
          (keepSource (ClassName.cachePath className (.ofText project)) source) := by
        refine FailsWith.andThen ((fails_ensureDirectories _).mono fun error blocks =>
          blocked error blocks.of_parent) fun _ => ?_
        exact (fails_write _ _).mono blocked
      have keepsMade := afresh.andThen fun source => (keepsSource source).andThen fun _ => .pure source
      exact keepsMade.isKind session shows error failed

end Decompilation

end JarAtlas
