import JarAtlas.Declaration.Basic
import JarAtlas.Text.Blank
import JarAtlas.Text.Letter

/-!
# Reading class declarations

A declaration line is read from left to right. In front of every token blanks are skipped; a token
is taken wherever it stands, also with a letter right behind it, and an identifier is as long as it
can be. At each point at most one token fits, so there is nothing to choose between, and a line is
refused at the first point where no token fits: at its end, or at a character.

Lists and type references take a fuel that bounds both their depth and their length; no line has
more of either than characters.
-/

namespace JarAtlas.Declaration

/-- Where reading stopped. -/
inductive Refusal
  | atEnd
  | atCharacter
deriving DecidableEq, Repr

/-- The blanks between tokens. -/
def isSpace (character : Char) : Bool :=
  character == ' ' || character == '\t' || character == '\n' || character == '\r' ||
    character.toNat == 0x0C

/-- The text from its next token. -/
def skipSpace (text : Text) : Text := text.dropWhile isSpace

/-- A character that an identifier may begin with. -/
def isIdentifierStart (character : Char) : Bool :=
  character.isAlpha || character == '_' || character == '$'

/-- A character that an identifier may go on with. -/
def isIdentifierPart (character : Char) : Bool := Text.isWord character || character == '$'

/-- The whole text is one identifier. -/
def isIdentifier : Text → Bool
  | [] => false
  | character :: rest => isIdentifierStart character && rest.all isIdentifierPart

/-- The refusal at the next token. -/
def refusalAt (text : Text) : Refusal :=
  if (skipSpace text).isEmpty then .atEnd else .atCharacter

/-- The text behind a fixed token, if that is the next one. -/
def token? (token text : Text) : Option Text := Text.after? token (skipSpace text)

/-- Passes a fixed token that has to come next. -/
def expect (token text : Text) : Except Refusal Text :=
  match token? token text with
  | some rest => .ok rest
  | none => .error (refusalAt text)

/-- The first of the words that comes next. -/
def anyWord? (words : List Text) (text : Text) : Option (Text × Text) :=
  words.findSome? fun word => (token? word text).map (word, ·)

/-- An identifier. -/
def identifier (text : Text) : Except Refusal (Text × Text) :=
  match skipSpace text with
  | [] => .error .atEnd
  | character :: rest =>
    if isIdentifierStart character then
      .ok (character :: rest.takeWhile isIdentifierPart, rest.dropWhile isIdentifierPart)
    else .error .atCharacter

/-- One or more items with `separator` between them. -/
def separated {α : Type} (separator : Text) (item : Text → Except Refusal (α × Text)) :
    Nat → Text → Except Refusal (List α × Text)
  | 0, text => .error (refusalAt text)
  | fuel + 1, text => do
    let (first, rest) ← item text
    match token? separator rest with
    | none => pure ([first], rest)
    | some rest =>
      let (others, rest) ← separated separator item fuel rest
      pure (first :: others, rest)

/-- The array brackets that come next, and the text behind them. -/
def dimensions : Nat → Text → Nat × Text
  | 0, text => (0, text)
  | fuel + 1, text =>
    match token? "[]" text with
    | none => (0, text)
    | some rest =>
      let (count, rest) := dimensions fuel rest
      (count + 1, rest)

mutual

/-- A type. -/
def typeReference : Nat → Text → Except Refusal (TypeReference × Text)
  | 0, text => .error (refusalAt text)
  | fuel + 1, text => do
    let (segments, rest) ← separated "." (typeSegment fuel) fuel text
    let (count, rest) := dimensions fuel rest
    pure (.mk segments count, rest)

/-- One identifier of a type, with its type arguments if there are any. -/
def typeSegment : Nat → Text → Except Refusal (TypeSegment × Text)
  | 0, text => .error (refusalAt text)
  | fuel + 1, text => do
    let (name, rest) ← identifier text
    match token? "<" rest with
    | none => pure (.mk name [], rest)
    | some rest =>
      let (arguments, rest) ← separated "," (typeArgument fuel) fuel rest
      let rest ← expect ">" rest
      pure (.mk name arguments, rest)

/-- A type argument. -/
def typeArgument : Nat → Text → Except Refusal (TypeArgument × Text)
  | 0, text => .error (refusalAt text)
  | fuel + 1, text =>
    match token? "?" text with
    | none => do
      let (type, rest) ← typeReference fuel text
      pure (.exactly type, rest)
    | some rest =>
      match token? "extends" rest with
      | some rest => do
        let (bound, rest) ← typeReference fuel rest
        pure (.extending bound, rest)
      | none =>
        match token? "super" rest with
        | some rest => do
          let (bound, rest) ← typeReference fuel rest
          pure (.above bound, rest)
        | none => pure (.unbounded, rest)

end

/-- A type parameter. -/
def typeParameter (fuel : Nat) (text : Text) : Except Refusal (TypeParameter × Text) := do
  let (name, rest) ← identifier text
  match token? "extends" rest with
  | none => pure (⟨name, []⟩, rest)
  | some rest =>
    let (bounds, rest) ← separated "&" (typeReference fuel) fuel rest
    pure (⟨name, bounds⟩, rest)

/-- The modifiers that come next, and the text behind them. -/
def writtenModifiersAt : Nat → Text → List Text × Text
  | 0, text => ([], text)
  | fuel + 1, text =>
    match anyWord? declarationModifiers text with
    | none => ([], text)
    | some (word, rest) =>
      let (words, rest) := writtenModifiersAt fuel rest
      (word :: words, rest)

/-- The kind that has to come next. -/
def kindAt (text : Text) : Except Refusal (ClassKind × Text) :=
  match ClassKind.all.findSome? fun kind => (token? kind.keyword text).map (kind, ·) with
  | some found => .ok found
  | none => .error (refusalAt text)

/-- The type parameters in angle brackets, if an angle bracket comes next. -/
def typeParametersAt (fuel : Nat) (text : Text) : Except Refusal (List TypeParameter × Text) :=
  match token? "<" text with
  | none => .ok ([], text)
  | some rest => do
    let (parameters, rest) ← separated "," (typeParameter fuel) fuel rest
    let rest ← expect ">" rest
    pure (parameters, rest)

/-- The types behind `keyword`, if that comes next. -/
def clauseAt (keyword : Text) (fuel : Nat) (text : Text) :
    Except Refusal (List TypeReference × Text) :=
  match token? keyword text with
  | none => .ok ([], text)
  | some rest => separated "," (typeReference fuel) fuel rest

/-- A declaration with nothing behind it but an opening brace. -/
def parseWith (fuel : Nat) (text : Text) : Except Refusal Declaration := do
  let (writtenModifiers, rest) := writtenModifiersAt fuel text
  let (kind, rest) ← kindAt rest
  let (path, rest) ← separated "." identifier fuel rest
  let (typeParameters, rest) ← typeParametersAt fuel rest
  let (extended, rest) ← clauseAt "extends" fuel rest
  let (implemented, rest) ← clauseAt "implements" fuel rest
  let (permitted, rest) ← clauseAt "permits" fuel rest
  let rest := (token? ['\x7b'] rest).getD rest
  if (skipSpace rest).isEmpty then
    pure { writtenModifiers, kind, path, typeParameters, extended, implemented, permitted }
  else throw .atCharacter

/-- The declaration that a line makes. The fuel grants three calls to every character, as a type
argument needs at most three calls for each of its own. -/
def parse (line : Text) : Except Refusal Declaration :=
  let text := Text.trim line
  parseWith (3 * text.length + 3) text

end JarAtlas.Declaration
