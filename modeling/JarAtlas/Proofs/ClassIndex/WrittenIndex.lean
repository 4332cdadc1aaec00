import JarAtlas.ClassIndex.Basic
import JarAtlas.Proofs.Json.RoundTrip
import Mathlib.Data.List.Induction

/-!
# The index that a scan writes

What a written index gives when it is read: the summary it was written with, and a lookup table that
holds every class once, where it first occurs, with the jar of that entry. Whatever characters the
names hold, the file form is read back to the same value.
-/

namespace JarAtlas.ClassIndex

open Text

variable {entries : List Entry}

/-! ### Reading back -/

theorem areReadable_map {α : Type} {depth : Nat} {value : α → Json} {items : List α}
    (readable : ∀ item ∈ items, Json.IsReadable depth (value item)) :
    Json.AreReadable depth (items.map value) := by
  induction items with
  | nil => trivial
  | cons item items ih =>
    exact ⟨readable item List.mem_cons_self,
      ih fun other member => readable other (List.mem_cons_of_mem _ member)⟩

theorem isReadable_text (depth : Nat) (value : Text) : Json.IsReadable depth (.text value) :=
  ⟨value, rfl⟩

theorem Entry.isReadable_json (entry : Entry) {depth : Nat} (shallow : depth < Json.nestingLimit) :
    Json.IsReadable depth entry.json := by
  refine ⟨shallow, ?_, ⟨_, rfl⟩, isReadable_text _ _, ⟨_, rfl⟩, isReadable_text _ _, ⟨_, rfl⟩,
    isReadable_text _ _, ⟨_, rfl⟩, isReadable_text _ _, trivial⟩
  dsimp only [List.map]
  decide

/-- An index is read back as it was written, as long as its counts are short enough to be read. -/
theorem read_write_json {path : Path} {jars : Nat} (time : Text)
    (shortJars : (ofNat jars).length ≤ digitLimit)
    (shortClasses : (ofNat entries.length).length ≤ digitLimit) :
    Json.read (json (summaryOf path jars entries) entries time).write =
      .ok (json (summaryOf path jars entries) entries time) := by
  apply Json.read_write
  refine ⟨by decide, ?_, ⟨_, rfl⟩, shortJars, ⟨_, rfl⟩, shortClasses, ⟨_, rfl⟩,
    isReadable_text _ _, ⟨_, rfl⟩, ⟨by decide, ?_⟩, ⟨_, rfl⟩, ⟨by decide, ?_⟩, ⟨_, rfl⟩,
    isReadable_text _ _, trivial⟩
  · dsimp only [List.map]
    decide
  · exact areReadable_map fun entry _ => isReadable_text _ _
  · exact areReadable_map fun entry _ => entry.isReadable_json (by decide)

/-- A written index gives the summary that it was written with. -/
theorem summaryIn_json (path : Path) (jars : Nat) (time : Text) :
    summaryIn path (json (summaryOf path jars entries) entries time) =
      .ok (summaryOf path jars entries) := rfl

/-! ### The table -/

theorem addEntry_json (table : LookupTable) (entry : Entry) :
    addEntry table entry.json =
      .ok (if (jarIn? table (.string (.text entry.className))).isSome then table
        else table ++ [(.text entry.className, .text entry.jar)]) := rfl

theorem jarIn?_append (table others : LookupTable) (key : Json.Key) :
    jarIn? (table ++ others) key = (jarIn? table key).or (jarIn? others key) := by
  unfold jarIn?
  rw [List.find?_append, Option.map_or]

theorem jarIn?_singleton (className other : Text) (jar : Json) :
    jarIn? [(.text other, jar)] (.string (.text className)) =
      if other = className then some jar else none := by
  unfold jarIn?
  by_cases same : other = className <;> simp [Json.key?, same]

theorem eraseDups_append_singleton (names : List Text) (name : Text) :
    (names ++ [name]).eraseDups =
      if name ∈ names then names.eraseDups else names.eraseDups ++ [name] := by
  rw [List.eraseDups_append]
  by_cases known : name ∈ names <;> simp [List.removeAll, List.eraseDups_cons, known]

/-- The entries of an index as a lookup table. -/
structure IsTableOf (table : LookupTable) (entries : List Entry) : Prop where
  /-- A class has the jar of its first entry. -/
  jars (className : Text) : jarIn? table (.string (.text className)) =
    (entries.find? (·.className = className)).map fun entry => .text entry.jar
  /-- Every class stands where it first occurs. -/
  names : table.map Prod.fst = (entries.map Entry.className).eraseDups.map Json.text

/-- One more entry is added to the table unless the class has one. -/
theorem IsTableOf.addEntry {table : LookupTable} (isTable : IsTableOf table entries)
    (entry : Entry) : ∃ more, ClassIndex.addEntry table entry.json = .ok more ∧
      IsTableOf more (entries ++ [entry]) := by
  refine ⟨_, addEntry_json table entry, ?_⟩
  have known : (jarIn? table (.string (.text entry.className))).isSome = true ↔
      entry.className ∈ entries.map Entry.className := by
    rw [isTable.jars, Option.isSome_map, List.find?_isSome]
    simp
  split_ifs with isKnown
  · constructor
    · intro className
      rw [isTable.jars, List.find?_append]
      cases found : entries.find? (·.className = className) with
      | some first => rfl
      | none =>
        have different : entry.className ≠ className := by
          rintro rfl
          rw [isTable.jars, found] at isKnown
          contradiction
        simp [different]
    · rw [isTable.names, List.map_append, List.map_singleton, eraseDups_append_singleton,
        if_pos (known.mp isKnown)]
  · constructor
    · intro className
      rw [jarIn?_append, isTable.jars, jarIn?_singleton, List.find?_append]
      cases entries.find? (·.className = className) with
      | some first => rfl
      | none => by_cases same : entry.className = className <;> simp [same]
    · rw [List.map_append, isTable.names, List.map_append, List.map_singleton (a := entry),
        eraseDups_append_singleton, if_neg (mt known.mpr isKnown), List.map_append]
      rfl

/-- A written index gives the table of its entries. -/
theorem tableIn_json (summary : ScanSummary) (entries : List Entry) (time : Text) :
    ∃ table, tableIn (json summary entries time) = .ok table ∧ IsTableOf table entries := by
  change ∃ table, (entries.map Entry.json).foldlM ClassIndex.addEntry [] = .ok table ∧ _
  -- The table is built from the front, so the induction takes entries away at the end.
  induction entries using List.reverseRecOn with
  | nil => exact ⟨[], rfl, fun _ => rfl, rfl⟩
  | append_singleton entries entry ih =>
    rcases ih with ⟨table, reads, isTable⟩
    rcases isTable.addEntry entry with ⟨more, adds, isTableMore⟩
    refine ⟨more, ?_, isTableMore⟩
    rw [List.map_append, List.foldlM_append, reads]
    change ClassIndex.addEntry table entry.json >>= pure = _
    rw [adds]
    rfl

end JarAtlas.ClassIndex
