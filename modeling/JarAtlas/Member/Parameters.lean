import JarAtlas.Declaration.Parser

/-!
# Parameter lists

A parameter list is cut at the commas that stand outside angle brackets, and a parameter at its last
blank outside them. A closing bracket without an opening one changes nothing.
-/

namespace JarAtlas.Member

/-- The depth of angle brackets behind a character. -/
def depthAfter (depth : Nat) (character : Char) : Nat :=
  if character = '<' then depth + 1 else if character = '>' then depth - 1 else depth

/-- The fragments between the commas outside brackets, as they stand. -/
def fragments (depth : Nat) : Text → List Text
  | [] => [[]]
  | character :: rest =>
    if character = ',' ∧ depth = 0 then [] :: fragments 0 rest
    else
      match fragments (depthAfter depth character) rest with
      | [] => [[character]]
      | fragment :: others => (character :: fragment) :: others

/-- The trimmed parameters of a list, empty ones left out. -/
def splitParameters (list : Text) : List Text :=
  ((fragments 0 list).map Text.trim).filter (!·.isEmpty)

/-- The texts before and after the last blank outside brackets. -/
def cutLastBlank (depth : Nat) : Text → Option (Text × Text)
  | [] => none
  | character :: rest =>
    match cutLastBlank (depthAfter depth character) rest with
    | some (before, behind) => some (character :: before, behind)
    | none => if Text.isBlank character ∧ depth = 0 then some ([], rest) else none

/-- The type and the name of a parameter; a parameter that does not end in a name is all type. -/
def splitDeclaredName (parameter : Text) : Text × Option Text :=
  match cutLastBlank 0 parameter with
  | none => (parameter, none)
  | some (before, behind) =>
    let type := Text.trim before
    let name := Text.trim behind
    if type.isEmpty || !Declaration.isIdentifier name then (parameter, none) else (type, some name)

end JarAtlas.Member
