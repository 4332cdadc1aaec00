import JarAtlas.Text.Basic

/-!
# Type references

A type as a class header names it: identifiers joined by dots, each with type arguments of its own,
and array brackets behind the last. It has two texts: the full one, and the erased one that leaves
every type argument out.
-/

namespace JarAtlas

mutual

/-- A type: its segments from the outermost to the innermost, and its array dimensions. -/
inductive TypeReference
  | mk (segments : List TypeSegment) (dimensions : Nat)

/-- One identifier of a type and its type arguments; no arguments mean no brackets. -/
inductive TypeSegment
  | mk (name : Text) (arguments : List TypeArgument)

/-- A type argument: a type, or a wildcard with or without a bound. -/
inductive TypeArgument
  | exactly (type : TypeReference)
  | unbounded
  | extending (bound : TypeReference)
  | above (bound : TypeReference)

end

namespace TypeReference

mutual

/-- The full text of a type. -/
def text : TypeReference → Text
  | mk segments dimensions =>
    segmentsText segments ++ (List.replicate dimensions ("[]" : Text)).flatten

/-- The text of segments, joined by dots. -/
def segmentsText : List TypeSegment → Text
  | [] => []
  | [segment] => segmentText segment
  | segment :: segments => segmentText segment ++ '.' :: segmentsText segments

/-- The text of a segment, its arguments in angle brackets. -/
def segmentText : TypeSegment → Text
  | .mk name [] => name
  | .mk name (argument :: arguments) =>
    name ++ '<' :: argumentsText (argument :: arguments) ++ ['>']

/-- The text of arguments, joined by a comma and a space. -/
def argumentsText : List TypeArgument → Text
  | [] => []
  | [argument] => argumentText argument
  | argument :: arguments => argumentText argument ++ ", " ++ argumentsText arguments

/-- The text of an argument. -/
def argumentText : TypeArgument → Text
  | .exactly type => text type
  | .unbounded => "?"
  | .extending bound => "? extends " ++ text bound
  | .above bound => "? super " ++ text bound

end

/-- The identifier of a segment. -/
def segmentName : TypeSegment → Text
  | .mk name _ => name

/-- The text of a type without any type argument. -/
def erased : TypeReference → Text
  | mk segments dimensions =>
    Text.join "." (segments.map segmentName) ++
      (List.replicate dimensions ("[]" : Text)).flatten

end TypeReference

end JarAtlas
