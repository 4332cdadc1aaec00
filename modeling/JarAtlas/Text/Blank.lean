import JarAtlas.Text.Basic

/-!
# White space

The characters that count as white space, trimming, and the cut of a text into lines. A carriage
return with a line feed after it is one line break; a break at the very end opens no further line.
-/

namespace JarAtlas.Text

/-- White space: the ASCII blanks and control separators, and the spaces of Unicode. The zero-width
space and the byte order mark are not among them. -/
def isBlank (character : Char) : Bool :=
  let code := character.toNat
  (0x09 ≤ code && code ≤ 0x0D) || (0x1C ≤ code && code ≤ 0x20) || code == 0x85 || code == 0xA0 ||
    code == 0x1680 || (0x2000 ≤ code && code ≤ 0x200A) || code == 0x2028 || code == 0x2029 ||
    code == 0x202F || code == 0x205F || code == 0x3000

/-- The characters at which a line may end. -/
def isLineBreak (character : Char) : Bool :=
  let code := character.toNat
  (0x0A ≤ code && code ≤ 0x0D) || (0x1C ≤ code && code ≤ 0x1E) || code == 0x85 ||
    code == 0x2028 || code == 0x2029

/-- The text from its first character that is not white space. -/
def trimStart (text : Text) : Text := text.dropWhile isBlank

/-- The text up to its last character that is not white space. -/
def trimEnd (text : Text) : Text := (text.reverse.dropWhile isBlank).reverse

/-- The text without the white space around it. -/
def trim (text : Text) : Text := trimEnd (trimStart text)

/-- Only white space, or nothing at all. -/
def isBlankText (text : Text) : Bool := text.all isBlank

/-- The lines behind a character, and whether the text behind it starts with a line feed. -/
structure LinesBehind where
  lines : List Text
  startsWithFeed : Bool

/-- Puts one more character in front: a break opens an empty line in front of the others, except a
carriage return before a line feed, which belongs to the break that the feed has made. -/
def LinesBehind.add (character : Char) (behind : LinesBehind) : LinesBehind :=
  if character = '\r' ∧ behind.startsWithFeed then ⟨behind.lines, false⟩
  else if isLineBreak character then ⟨[] :: behind.lines, character == '\n'⟩
  else
    match behind.lines with
    | line :: others => ⟨(character :: line) :: others, false⟩
    | [] => ⟨[[character]], false⟩

/-- The lines of a text, without their line breaks. -/
def lines (text : Text) : List Text := (text.foldr LinesBehind.add ⟨[], false⟩).lines

/-- The text with each `\r\n` and each other `\r` turned into a line feed. -/
def unifyBreaks : Text → Text
  | [] => []
  | '\r' :: '\n' :: rest => '\n' :: unifyBreaks rest
  | '\r' :: rest => '\n' :: unifyBreaks rest
  | character :: rest => character :: unifyBreaks rest

end JarAtlas.Text
