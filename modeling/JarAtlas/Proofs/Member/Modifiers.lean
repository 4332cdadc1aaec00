import JarAtlas.Member.Modifiers
import JarAtlas.Proofs.Text.Cuts
import JarAtlas.Proofs.Text.Words

/-!
# Written modifiers

The words of a vocabulary that a text begins with are cut off it, as many as there are, and those
that are reported are reported at their first appearance. So words that are written in front of a
text that begins with no further one come back from it.
-/

namespace JarAtlas.Member

open Text

theorem leadingWords_of_firstWord {words : List Text} {text : Text}
    (foreign : firstWord text ∉ words) : leadingWords words text = ([], text) := by
  unfold leadingWords
  split
  · rfl
  · rename_i word rest cut
    rcases eq_append_of_cutFirst cut with ⟨rfl, absent⟩
    rw [firstWord_append rest absent] at foreign
    rw [if_neg (by simpa using foreign)]

theorem leadingWords_word {vocabulary : List Text} {word : Text} (rest : Text)
    (plain : ' ' ∉ word) (known : word ∈ vocabulary) :
    leadingWords vocabulary (word ++ ' ' :: rest) =
      (word :: (leadingWords vocabulary rest).1, (leadingWords vocabulary rest).2) := by
  rw [leadingWords]
  split
  · rename_i uncut
    rw [cutFirst_append _ plain] at uncut
    contradiction
  · rename_i first behind cut
    rw [cutFirst_append _ plain] at cut
    cases cut
    rw [if_pos (by simpa using known)]

/-- Words in front of a text are cut off together with those that the text begins with. -/
theorem leadingWords_spaced_append {vocabulary words : List Text} (text : Text)
    (plain : ∀ word ∈ vocabulary, ' ' ∉ word) (known : ∀ word ∈ words, word ∈ vocabulary) :
    leadingWords vocabulary (spaced words ++ text) =
      (words ++ (leadingWords vocabulary text).1, (leadingWords vocabulary text).2) := by
  induction words with
  | nil => rfl
  | cons word words ih =>
    have member := known word List.mem_cons_self
    rw [spaced_cons, List.append_assoc, List.cons_append,
      leadingWords_word _ (plain word member) member,
      ih fun word member => known word (List.mem_cons_of_mem _ member)]
    rfl

/-- The words come back from the text in front of which they are written. -/
theorem leadingWords_spaced {vocabulary words : List Text} {text : Text}
    (plain : ∀ word ∈ vocabulary, ' ' ∉ word) (known : ∀ word ∈ words, word ∈ vocabulary)
    (foreign : firstWord text ∉ vocabulary) :
    leadingWords vocabulary (spaced words ++ text) = (words, text) := by
  rw [leadingWords_spaced_append text plain known, leadingWords_of_firstWord foreign,
    List.append_nil]

/-! ### The longest run of words -/

/-- The text is cut behind its longest run of words of a vocabulary. Each word of the run is the one
that is found in its place if the words of the vocabulary are tried one after the other, in whatever
order. -/
structure IsLongestRun (vocabulary : List Text) (text : Text) (words : List Text) (rest : Text) :
    Prop where
  whole : text = spaced words ++ rest
  known : ∀ word ∈ words, word ∈ vocabulary
  stops : ∀ word ∈ vocabulary, ¬word ++ [' '] <+: rest
  longest : ∀ others behind, text = spaced others ++ behind →
    (∀ word ∈ others, word ∈ vocabulary) → others <+: words
  found : ∀ order : List Text, (∀ word, word ∈ order ↔ word ∈ vocabulary) →
    ∀ word behind, word :: behind <:+ words →
      order.find? (fun other => beginsWith (other ++ [' ']) (spaced (word :: behind) ++ rest)) =
        some word

theorem eq_spaced_leadingWords (vocabulary : List Text) (text : Text) :
    text = spaced (leadingWords vocabulary text).1 ++ (leadingWords vocabulary text).2 := by
  fun_induction leadingWords vocabulary text with
  | case1 text uncut => rfl
  | case2 text word rest cut known others behind more ih =>
    rw [more] at ih
    rw [(eq_append_of_cutFirst cut).1, spaced_cons, List.append_assoc, List.cons_append, ← ih]
  | case3 text word rest cut unknown => rfl

theorem mem_of_mem_leadingWords {vocabulary : List Text} {text word : Text}
    (member : word ∈ (leadingWords vocabulary text).1) : word ∈ vocabulary := by
  fun_induction leadingWords vocabulary text with
  | case1 text uncut => simp at member
  | case2 text first rest cut known others behind more ih =>
    rw [more] at ih
    rcases List.mem_cons.mp member with rfl | later
    · simpa using known
    · exact ih later
  | case3 text first rest cut unknown => simp at member

/-- A word without spaces and a space are what is in front of the first space. -/
theorem cutFirst_of_prefix {word text : Text} (plain : ' ' ∉ word) (begins : word ++ [' '] <+: text) :
    ∃ rest, cutFirst ' ' text = some (word, rest) := by
  rcases begins with ⟨rest, rfl⟩
  exact ⟨rest, by rw [List.append_assoc]; exact cutFirst_append rest plain⟩

theorem not_prefix_leadingWords {vocabulary : List Text} {text word : Text} (plain : ' ' ∉ word)
    (known : word ∈ vocabulary) : ¬word ++ [' '] <+: (leadingWords vocabulary text).2 := by
  fun_induction leadingWords vocabulary text with
  | case1 text uncut =>
    intro begins
    rcases cutFirst_of_prefix plain begins with ⟨rest, cut⟩
    rw [uncut] at cut
    contradiction
  | case2 text first rest cut isKnown others behind more ih =>
    rw [more] at ih
    exact ih
  | case3 text first rest cut unknown =>
    intro begins
    rcases cutFirst_of_prefix plain begins with ⟨behind, otherCut⟩
    rw [cut] at otherCut
    cases otherCut
    exact unknown (List.contains_iff_mem.mpr known)

/-- Of words without spaces at most one stands in front of the first space, so the order in which
they are tried does not matter. -/
theorem find?_of_prefix {order : List Text} {word text : Text}
    (plain : ∀ other ∈ order, ' ' ∉ other) (member : word ∈ order)
    (begins : word ++ [' '] <+: text) :
    order.find? (fun other => beginsWith (other ++ [' ']) text) = some word := by
  cases found : order.find? fun other => beginsWith (other ++ [' ']) text with
  | none => exact absurd (beginsWith_iff.mpr begins) (List.find?_eq_none.mp found word member)
  | some other =>
    have otherBegins := beginsWith_iff.mp (List.find?_eq_some_iff_append.mp found).1
    rcases cutFirst_of_prefix (plain word member) begins with ⟨rest, cut⟩
    rcases cutFirst_of_prefix (plain other (List.mem_of_find?_eq_some found)) otherBegins
      with ⟨otherRest, otherCut⟩
    rw [cut] at otherCut
    cases otherCut
    rfl

/-- The leading words are the longest run of words. -/
theorem isLongestRun_leadingWords {vocabulary : List Text}
    (plain : ∀ word ∈ vocabulary, ' ' ∉ word) (text : Text) :
    IsLongestRun vocabulary text (leadingWords vocabulary text).1
      (leadingWords vocabulary text).2 where
  whole := eq_spaced_leadingWords vocabulary text
  known := fun _ => mem_of_mem_leadingWords
  stops := fun word known => not_prefix_leadingWords (plain word known) known
  longest := by
    rintro others behind rfl known
    rw [leadingWords_spaced_append behind plain known]
    exact List.prefix_append _ _
  found := by
    intro order same word behind suffix
    have known : word ∈ vocabulary := mem_of_mem_leadingWords (suffix.subset List.mem_cons_self)
    apply find?_of_prefix (fun other member => plain other ((same other).mp member))
      ((same word).mpr known)
    rw [spaced_cons]
    exact ⟨spaced behind ++ (leadingWords vocabulary text).2, by simp⟩

/-! ### Reported words -/

theorem firstOccurrences_eq_eraseDups (words : List Text) :
    firstOccurrences words = words.eraseDups := foldl_eq_eraseDups words

/-- Words without repetitions are reported as they are. -/
theorem firstOccurrences_of_nodup {words : List Text} (distinct : words.Nodup) :
    firstOccurrences words = words := by
  rw [firstOccurrences_eq_eraseDups, eraseDups_of_nodup distinct]

/-- What is reported of the leading words, and what is behind all of them. -/
theorem cutModifiers_eq (vocabulary passed : List Text) (text : Text) :
    cutModifiers vocabulary passed text =
      (((leadingWords (vocabulary ++ passed) text).1.filter vocabulary.contains).eraseDups,
        (leadingWords (vocabulary ++ passed) text).2) := by
  rw [← firstOccurrences_eq_eraseDups]
  rfl

theorem drawnFrom_cutModifiers (vocabulary passed : List Text) (text : Text) :
    DrawnFrom vocabulary (cutModifiers vocabulary passed text).1 := by
  rw [cutModifiers_eq]
  exact drawnFrom_eraseDups vocabulary _

/-- The modifiers are cut off the text in front of which they are written. -/
theorem cutModifiers_spaced {vocabulary passed words : List Text} {text : Text}
    (plain : ∀ word ∈ vocabulary ++ passed, ' ' ∉ word)
    (known : ∀ word ∈ words, word ∈ vocabulary ++ passed)
    (foreign : firstWord text ∉ vocabulary ++ passed) :
    cutModifiers vocabulary passed (spaced words ++ text) =
      (firstOccurrences (words.filter vocabulary.contains), text) := by
  rw [cutModifiers, leadingWords_spaced plain known foreign]

end JarAtlas.Member
