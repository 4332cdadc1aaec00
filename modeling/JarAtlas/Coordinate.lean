import JarAtlas.Path
import JarAtlas.Text.Letter

/-!
# Dependency coordinates

A line of a dependency tree names an artifact by a coordinate: group, artifact, type, version and
scope, with a classifier in front of the version if there is one, all joined by colons. The
coordinate tells where the artifact's jar lies in the local repository.
-/

namespace JarAtlas.Coordinate

/-- How a line begins that may hold a coordinate, wherever in the line that is. -/
def marker : Text := "[INFO]"

/-- A character of one part of a coordinate. -/
def isPart (character : Char) : Bool :=
  Text.isWord character || character == '.' || character == '-'

/-- At most `count` parts, each with a colon in front, that come next. -/
def followingParts : Nat → Text → List Text
  | 0, _ => []
  | count + 1, text =>
    match text with
    | ':' :: rest =>
      let (part, rest) := rest.span isPart
      if part.isEmpty then [] else part :: followingParts count rest
    | _ => []

/-- The coordinate at the very start of a text: five or six parts, as many as there are. -/
def here? (text : Text) : Option Text :=
  let (first, rest) := text.span isPart
  let others := followingParts 5 rest
  if first.isEmpty || others.length < 4 then none else some (Text.join ":" (first :: others))

/-- The first coordinate in a text. -/
def firstIn : Text → Option Text
  | [] => none
  | character :: rest => (here? (character :: rest)).or (firstIn rest)

/-- The text behind the first marker. -/
def behindMarker : Text → Option Text
  | [] => none
  | character :: rest => (Text.after? marker (character :: rest)).or (behindMarker rest)

/-- The coordinate that a line of a dependency tree names. -/
def ofLine? (line : Text) : Option Text := (behindMarker line).bind firstIn

/-- The path of a jar in a repository: a directory for each part of the group, one for the artifact,
one for the version, and a file named for all but the group. -/
def jarIn (repository : Path) (group artifact classifier version : Text) : Path :=
  let groupDirectory := (Text.pieces '.' group).foldl Path.join repository
  let directory := (groupDirectory.join artifact).join version
  let ending : Text := if classifier.isEmpty then [] else '-' :: classifier
  directory.join (artifact ++ '-' :: version ++ ending ++ ".jar")

/-- The path of the jar that a coordinate names. Artifacts of other types have none, and a text of
fewer than five or more than six parts is no coordinate. -/
def jarPath? (coordinate : Text) (repository : Path) : Option Path :=
  let jar (group artifact type classifier version : Text) : Option Path :=
    if type = ("jar" : Text) then some (jarIn repository group artifact classifier version)
    else none
  match Text.pieces ':' coordinate with
  | [group, artifact, type, version, _] => jar group artifact type [] version
  | [group, artifact, type, classifier, version, _] => jar group artifact type classifier version
  | _ => none

end JarAtlas.Coordinate
