import JarAtlas.Text.Basic
import Mathlib.Data.List.Nodup

/-!
# Words at their first appearance

Keeping each word of a list where it appears first is erasing its duplicates. What is kept of the
words of a vocabulary is drawn from it.
-/

namespace JarAtlas.Text

/-- Keeping the first appearances one after the other is erasing the duplicates. -/
theorem foldl_eq_eraseDupsBy_loop (words found : List Text) :
    words.foldl (fun kept word => if kept.contains word then kept else kept ++ [word]) found =
      List.eraseDupsBy.loop (· == ·) words found.reverse := by
  induction words generalizing found with
  | nil => simp [List.eraseDupsBy.loop]
  | cons word words ih =>
    have seen : found.reverse.any (word == ·) = found.contains word := by
      rw [List.any_reverse, List.any_beq]
    rw [List.foldl_cons, ih, List.eraseDupsBy.loop, seen]
    cases found.contains word <;> simp

theorem foldl_eq_eraseDups (words : List Text) :
    words.foldl (fun kept word => if kept.contains word then kept else kept ++ [word]) [] =
      words.eraseDups :=
  foldl_eq_eraseDupsBy_loop words []

theorem nodup_eraseDups (words : List Text) : words.eraseDups.Nodup := by
  cases words with
  | nil => simp
  | cons word words =>
    rw [List.eraseDups_cons, List.nodup_cons]
    exact ⟨by simp [List.mem_eraseDups], nodup_eraseDups (words.filter fun other => !other == word)⟩
termination_by words.length
decreasing_by exact Nat.lt_succ_of_le (List.length_filter_le _ _)

theorem eraseDups_of_nodup {words : List Text} (distinct : words.Nodup) :
    words.eraseDups = words := by
  induction words with
  | nil => rfl
  | cons word words ih =>
    rcases List.nodup_cons.mp distinct with ⟨absent, others⟩
    have kept : words.filter (fun other => !(other == word)) = words := by
      rw [List.filter_eq_self]
      intro other member
      rw [Bool.not_eq_true', beq_eq_false_iff_ne]
      rintro rfl
      exact absent member
    rw [List.eraseDups_cons, kept, ih others]

/-- The words are pairwise distinct words of a vocabulary. -/
structure DrawnFrom (vocabulary words : List Text) : Prop where
  distinct : words.Nodup
  known : ∀ word ∈ words, word ∈ vocabulary

theorem drawnFrom_nil (vocabulary : List Text) : DrawnFrom vocabulary [] where
  distinct := List.nodup_nil
  known := by simp

theorem drawnFrom_eraseDups (vocabulary words : List Text) :
    DrawnFrom vocabulary (words.filter vocabulary.contains).eraseDups where
  distinct := nodup_eraseDups _
  known := by
    intro word member
    rw [List.mem_eraseDups, List.mem_filter] at member
    simpa using member.2

end JarAtlas.Text
