import JarAtlas.Proofs.ClassIndex.LookupCache
import Mathlib.Data.List.Nodup

/-!
# No class twice

The first entry of a class counts, so a lookup table holds every class once. So do the tables that
lookups remember.
-/

namespace JarAtlas.ClassIndex

open Action

/-- No two entries of the table stand for one class. -/
def HasDistinctKeys (table : LookupTable) : Prop :=
  (table.map fun entry => entry.1.key?).Nodup

theorem hasDistinctKeys_nil : HasDistinctKeys [] := List.nodup_nil

theorem HasDistinctKeys.nodup_names {table : LookupTable} (distinct : HasDistinctKeys table) :
    (table.map Prod.fst).Nodup := by
  apply List.Nodup.of_map Json.key?
  rw [List.map_map]
  exact distinct

/-- All remembered tables hold every class once. -/
def RemembersDistinctKeys (memory : Memory) : Prop :=
  ∀ entry ∈ memory.tables, HasDistinctKeys entry.2.2

theorem remembersDistinctKeys_empty : RemembersDistinctKeys .empty := fun _ member => by cases member

/-! ### Tables of an index -/

theorem not_mem_keys_of_jarIn? {table : LookupTable} {key : Json.Key}
    (unknown : jarIn? table key = none) : some key ∉ table.map fun entry => entry.1.key? := by
  intro member
  rcases List.mem_map.mp member with ⟨entry, inTable, isKey⟩
  have different := List.find?_eq_none.mp (Option.map_eq_none_iff.mp unknown) entry inTable
  exact different (beq_iff_eq.mpr isKey)

theorem HasDistinctKeys.addEntry {table more : LookupTable} {entry : Json}
    (distinct : HasDistinctKeys table) (adds : addEntry table entry = .ok more) :
    HasDistinctKeys more := by
  unfold ClassIndex.addEntry at adds
  cases named : required "class_name" entry with
  | error error =>
    rw [named] at adds
    cases adds
  | ok className =>
    rw [named] at adds
    cases placed : required "jar_path" entry with
    | error error =>
      rw [placed] at adds
      cases adds
    | ok jar =>
      rw [placed] at adds
      cases isKey : className.key? with
      | none => simp [Bind.bind, Except.bind, keyOf, isKey] at adds
      | some key =>
        simp only [Bind.bind, Except.bind, keyOf, isKey, Pure.pure, Except.pure] at adds
        cases adds
        cases known : jarIn? table key with
        | some first => exact distinct
        | none =>
          unfold HasDistinctKeys
          rw [Option.isSome_none, if_neg (by decide), List.map_append, List.map_singleton, isKey,
            ← List.concat_eq_append]
          exact List.Nodup.concat (not_mem_keys_of_jarIn? known) distinct

theorem HasDistinctKeys.foldlM_addEntry {entries : List Json} {table more : LookupTable}
    (distinct : HasDistinctKeys table)
    (adds : entries.foldlM ClassIndex.addEntry table = .ok more) : HasDistinctKeys more := by
  induction entries generalizing table with
  | nil =>
    cases adds
    exact distinct
  | cons entry entries ih =>
    rw [List.foldlM_cons] at adds
    cases added : ClassIndex.addEntry table entry with
    | error error =>
      rw [added] at adds
      cases adds
    | ok next =>
      rw [added] at adds
      exact ih (distinct.addEntry added) adds

theorem hasDistinctKeys_of_tableIn {value : Json} {table : LookupTable}
    (gives : tableIn value = .ok table) : HasDistinctKeys table := by
  unfold tableIn at gives
  cases listed : optionalList "class_index" value with
  | error error =>
    rw [listed] at gives
    cases gives
  | ok entries =>
    rw [listed] at gives
    change itemsOf entries >>= (List.foldlM ClassIndex.addEntry []) = .ok table at gives
    cases gone : itemsOf entries with
    | error error =>
      rw [gone] at gives
      cases gives
    | ok items =>
      rw [gone] at gives
      exact hasDistinctKeys_nil.foldlM_addEntry gives

/-! ### Lookups -/

variable {setting : Setting} {session : Session} {project : Text} {table : LookupTable}

theorem hasDistinctKeys_of_read {result : Except Error Json}
    (gives : result.bind tableIn = .ok table) : HasDistinctKeys table := by
  cases result with
  | error error => cases gives
  | ok value => exact hasDistinctKeys_of_tableIn gives

/-- Lookups, which alone remember tables, answer and remember none that holds a class twice. -/
theorem RemembersDistinctKeys.lookupTable (remembered : RemembersDistinctKeys session.memory) :
    (∀ table, (lookupTable project setting session).1 = .ok table → HasDistinctKeys table) ∧
      RemembersDistinctKeys (lookupTable project setting session).2.memory := by
  rw [run_lookupTable]
  split
  · exact ⟨by simp, remembered⟩
  · exact ⟨by simp, remembered⟩
  · rw [run_readTable]
    exact ⟨fun table => hasDistinctKeys_of_read, remembered⟩
  · split
    · rename_i known
      refine ⟨?_, remembered⟩
      rintro table ⟨⟩
      exact remembered _ (mem_of_remembered? known)
    · rw [run_readTable]
      split
      · rename_i read after outcome
        have distinct := hasDistinctKeys_of_read (Prod.mk.inj outcome).1
        cases (Prod.mk.inj outcome).2
        refine ⟨?_, ?_⟩
        · rintro table ⟨⟩
          exact distinct
        · intro entry member
          rcases List.mem_cons.mp member with rfl | old
          · exact distinct
          · exact remembered entry (List.mem_filter.mp old).1
      · rename_i error after outcome
        cases (Prod.mk.inj outcome).2
        exact ⟨by simp, remembered⟩

end JarAtlas.ClassIndex
