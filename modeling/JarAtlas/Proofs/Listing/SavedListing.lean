import JarAtlas.Listing.Reading
import JarAtlas.Proofs.Text.Layout
import JarAtlas.Proofs.Text.Utf8

/-!
# Saved listings

A listing that is saved and read again describes the same class. A file is read in lines that a line
feed ends, but a text has the same lines with its own breaks, so nothing is lost where these differ.
Bytes that are no encoded text are read as the text that they stand for.
-/

namespace JarAtlas.Listing

/-- A listing is read alike with all its line breaks made alike. -/
theorem parse_unifyBreaks (text : Text) (className : Option Text) :
    parse (some (Text.unifyBreaks text)) className = parse (some text) className := by
  unfold parse
  dsimp only
  rw [Text.isBlankText_unifyBreaks, Text.lines_unifyBreaks]

/-- Reading a saved text is reading the text, whatever its line breaks. And any bytes stand for
exactly one text, in which each longest malformed part is one replacement character, and are read as
this text. -/
theorem parseSaved_eq_parse :
    (∀ (text : Text) (className : Option Text),
      parseSaved (Text.encode text) className = parse (some text) className) ∧
    ∀ (bytes : List UInt8) (className : Option Text), ∃ text,
      (∀ other, Text.StandsFor bytes other ↔ other = text) ∧
      parseSaved bytes className = parse (some text) className := by
  constructor
  · intro text className
    rw [parseSaved, parse_unifyBreaks, Text.decode_encode]
  · intro bytes className
    refine ⟨Text.decode bytes, fun _ => Text.standsFor_iff, ?_⟩
    rw [parseSaved, parse_unifyBreaks]

end JarAtlas.Listing
