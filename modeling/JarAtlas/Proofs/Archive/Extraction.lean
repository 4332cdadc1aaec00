import JarAtlas.Archive
import JarAtlas.Proofs.ClassIndex.LookupCache
import JarAtlas.Proofs.Files.Confinement
import JarAtlas.Proofs.Files.Targets
import JarAtlas.Proofs.Json.Strings

/-!
# Where extracted files go

The entry of a class name holds no dots but those of its ending, so it never leads back up. Unless it
begins with a slash, the file of the class and the directories of its package come to stand below
the destination, and the only things made elsewhere are the directories on the way to a destination
that was not there. An entry that begins with a slash leaves nothing of the destination.
-/

namespace JarAtlas

open Action Path Text

namespace JsonString

/-- Characters can be written as bytes. -/
theorem obstacle?_eq_none {codes : List Nat} (unbroken : ∀ code ∈ codes, isSurrogate code = false) :
    obstacle? codes = none := by
  have all : codes.takeWhile (fun code => !isSurrogate code || standsForByte code) = codes := by
    rw [List.takeWhile_eq_self_iff]
    intro code isCode
    simp [unbroken code isCode]
  unfold obstacle?
  rw [all]
  dsimp only
  rw [List.drop_length]

end JsonString

namespace ClassName

theorem isFileEnding_class : IsFileEnding entryEnding := ⟨by decide, by decide⟩

theorem characterOf_eq_dot {code : Nat} (isDot : JsonString.characterOf code = '.') :
    code = 0x2E := by
  unfold JsonString.characterOf at isDot
  split_ifs at isDot
  · contradiction
  · by_cases valid : code.isValidChar
    · rw [Char.ofNat, dif_pos valid] at isDot
      exact congrArg Char.toNat isDot
    · rw [Char.ofNat, dif_neg valid] at isDot
      exact absurd isDot (by decide)

/-- The entry of a class, whatever its name, holds no dots but those of its ending. -/
theorem exists_display_entryOf (className : JsonString) :
    ∃ front, '.' ∉ front ∧ (entryOf className).display = front ++ entryEnding := by
  cases className with
  | text className =>
    refine ⟨_, ?_, rfl⟩
    intro isDotted
    rcases List.mem_map.mp isDotted with ⟨character, -, isDot⟩
    split_ifs at isDot with wasDot
    · contradiction
    · exact wasDot isDot
  | broken codes =>
    refine ⟨(codes.map fun code => if code = 0x2E then 0x2F else code).map JsonString.characterOf,
      ?_, ?_⟩
    · intro isDotted
      rcases List.mem_map.mp isDotted with ⟨code, isCode, isDot⟩
      rcases List.mem_map.mp isCode with ⟨before, -, changed⟩
      rw [characterOf_eq_dot isDot] at changed
      split_ifs at changed with wasDot
      · contradiction
      · exact wasDot changed
    · rw [entryOf, JsonString.display, List.map_append]
      rfl

end ClassName

namespace Archive

open ClassName Files

theorem keeps_readEntry {γ : Type} {view : Session → γ} (jar : Json) (entry : JsonString) :
    Keeps view (readEntry jar entry) := by
  apply (keeps_entriesNamed jar).attempt.bind
  intro entries
  cases entries with
  | error error => exact .fail _
  | ok entries =>
    dsimp only
    cases contentOf? entries entry with
    | none => exact .fail _
    | some content => exact .pure _

/-- The directory of an entry whose name is a text is made like any other. -/
theorem ensureDirectoryOf_text (entry : Text) (target : Path) :
    ensureDirectoryOf (.text entry) target = ensureDirectories target.parent := by
  unfold ensureDirectoryOf
  dsimp only
  rw [JsonString.obstacle?_eq_none]
  intro code isCode
  have isOfEntry := (List.dropWhile_sublist _).mem (List.mem_reverse.mp isCode)
  rcases List.mem_map.mp (List.mem_reverse.mp isOfEntry) with ⟨character, -, rfl⟩
  exact Json.isSurrogate_toNat character

theorem puts_ensureDirectoryOf (entry : JsonString) (target : Path) :
    Puts (FileTree.LeadsTo target) (ensureDirectoryOf entry target) := by
  unfold ensureDirectoryOf
  dsimp only
  split
  · exact .fail _
  · apply puts_ensureDirectories
    intro segments isPrefix
    exact ⟨rfl, isPrefix.trans (List.dropLast_prefix _), fun _ => rfl⟩

/-- What an extraction makes and writes leads to the file of the class. -/
theorem puts_extractClass (jar : Json) (className : JsonString) (destination : Path) :
    Puts (FileTree.LeadsTo (destination.join (entryOf className).display))
      (extractClass jar className destination) := by
  apply (puts_ensureDirectoryOf _ _).bind
  intro _
  apply (Puts.of_keeps (keeps_readEntry jar _)).bind
  intro content
  refine Puts.bind (puts_write fun stamp => ?_) fun _ => .pure _
  exact ⟨rfl, List.prefix_refl _, fun differs => absurd rfl differs⟩

theorem isBelow_join_entryOf {className : JsonString} (destination : Path)
    (relative : ¬ IsRooted (entryOf className).display) :
    destination.IsBelow (destination.join (entryOf className).display) := by
  rcases exists_display_entryOf className with ⟨front, noDot, display⟩
  rw [display] at relative ⊢
  exact isBelow_join noDot isFileEnding_class relative

/-- A cached source stands in the project's cache exactly if no piece of the class name between its
dots begins with a slash; otherwise all projects share its path. An extraction changes nothing
outside a destination that is there, and makes nothing but the directories on the way to one that is
not, unless the entry begins with a slash; then it is the same for all destinations. -/
theorem confined_unless_rooted (className : Text) (project : Path) (jar : Json) (name : JsonString)
    (destination : Path) (setting : Setting) (session : Session) :
    ((project.join cacheDirectory).IsBelow (cachePath className project) ↔
        ∀ piece ∈ pieces '.' className, ¬ IsRooted piece) ∧
      ((∃ piece ∈ pieces '.' className, IsRooted piece) →
        ∀ other, cachePath className project = cachePath className other) ∧
      (¬ IsRooted (entryOf name).display →
        let before := session.files
        let after := (extractClass jar name destination setting session).2.files
        let directory := setting.host.workingDirectory
        (before.lookup directory destination = .ok .directory →
          ∃ home, before.locate directory destination = .ok home ∧
            ∀ place, after.node? place ≠ before.node? place →
              ∃ below, below ≠ [] ∧ place = home ++ below) ∧
          ∀ place, after.node? place ≠ before.node? place →
            (∃ home below, after.locate directory destination = .ok home ∧ below ≠ [] ∧
                place = home ++ below) ∨
              ∃ way, way <+: destination.segments ∧
                after.locate directory { destination with segments := way } = .ok place ∧
                before.node? place = none ∧ after.node? place = some .directory) ∧
      (IsRooted (entryOf name).display →
        ∀ other, extractClass jar name destination = extractClass jar name other) := by
  refine ⟨isBelow_cachePath_iff className project, fun rooted => ?_, fun relative => ?_,
    fun rooted other => ?_⟩
  · exact cachePath_eq_of_isRooted rooted project
  · have isBelow := isBelow_join_entryOf destination relative
    have grows := puts_extractClass jar name destination setting session
    exact ⟨grows.below_of_lookup isBelow, fun place => grows.below_or_onTheWay isBelow⟩
  · unfold extractClass
    dsimp only
    rw [join_of_isRooted rooted, join_of_isRooted rooted]

/-- A working directory with a jar and a directory to extract to. -/
def unpacking : Session where
  files := ⟨[(["work"], .directory), (["work", "out"], .directory),
    (["work", "a.jar"], .file (.archive [("p/A.class", "code")]) 1)]⟩
  clock := 2
  launches := []
  memory := .empty

/-- A class is extracted below an existing directory; names that begin with a slash or a dot are
not confined. -/
theorem confined_unless_rooted_unpacking :
    let before := unpacking.files
    let after := (extractClass (.text "a.jar") (.text "p.A") (.ofText "out") ClassIndex.workSetting
      unpacking).2.files
    ((Path.ofText "p").join cacheDirectory).IsBelow (cachePath "p.A" (.ofText "p")) ∧
      cachePath "/etc.passwd" (.ofText "p") = cachePath "/etc.passwd" (.ofText "q") ∧
      after.node? ["work", "out", "p", "A.class"] = some (.file (.text "code") 2) ∧
      (∃ home, before.locate ["work"] (.ofText "out") = .ok home ∧
        ∀ place, after.node? place ≠ before.node? place →
          ∃ below, below ≠ [] ∧ place = home ++ below) ∧
      extractClass (.text "a.jar") (.text ".etc.A") (.ofText "out") =
        extractClass (.text "a.jar") (.text ".etc.A") (.ofText ".") := by
  intro before after
  have written := confined_unless_rooted "p.A" (.ofText "p") (.text "a.jar") (.text "p.A")
    (.ofText "out") ClassIndex.workSetting unpacking
  have rooted := confined_unless_rooted "/etc.passwd" (.ofText "p") (.text "a.jar") (.text ".etc.A")
    (.ofText "out") ClassIndex.workSetting unpacking
  refine ⟨written.1.mpr (by decide), rooted.2.1 ⟨"/etc", by decide⟩ _, ?_, ?_, ?_⟩
  · decide +kernel
  · exact (written.2.2.1 (by decide)).1 (by decide +kernel)
  · exact rooted.2.2.2 (by decide) _

/-- The source of a class with a slash in front is not kept in the project. -/
theorem cachePath_not_isBelow :
    cachePath "/etc.passwd" (.ofText "p") = .ofText "/etc/passwd.java" ∧
      ¬ ((Path.ofText "p").join cacheDirectory).IsBelow
        (cachePath "/etc.passwd" (.ofText "p")) := by
  refine ⟨by decide, ?_⟩
  rw [isBelow_cachePath_iff]
  decide

end Archive

end JarAtlas
