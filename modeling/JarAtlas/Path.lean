import JarAtlas.Text.Basic

/-!
# Paths

A path is a root and the segments below it. Reading a text drops empty segments and single dots,
keeps double dots, and tells three beginnings apart: none, one slash, and exactly two; more than two
slashes are one.
-/

namespace JarAtlas

/-- What a path begins with. -/
inductive PathRoot
  | relative
  | absolute
  | doubleSlash
deriving DecidableEq, Repr

/-- The slashes of a root. -/
def PathRoot.text : PathRoot → Text
  | relative => []
  | absolute => "/"
  | doubleSlash => "//"

/-- A path. -/
structure Path where
  root : PathRoot
  segments : List Text
deriving DecidableEq, Repr

namespace Path

/-- The root that a number of leading slashes makes. -/
def rootOf : Nat → PathRoot
  | 0 => .relative
  | 2 => .doubleSlash
  | _ => .absolute

/-- The segments of a text. -/
def segmentsOf (text : Text) : List Text :=
  (Text.pieces '/' text).filter fun segment => !segment.isEmpty && segment != ['.']

/-- The path that a text writes. -/
def ofText (text : Text) : Path :=
  { root := rootOf (text.takeWhile (· = '/')).length, segments := segmentsOf text }

/-- The text of a path. The empty relative path is a dot. -/
def text (path : Path) : Text :=
  if path.root = .relative ∧ path.segments.isEmpty then "."
  else path.root.text ++ Text.join "/" path.segments

/-- The path from `base` on. A path with a root of its own leaves nothing of `base`. -/
def append (base path : Path) : Path :=
  if path.root = .relative then { base with segments := base.segments ++ path.segments } else path

/-- The path with what a text writes behind it. -/
def join (base : Path) (text : Text) : Path := base.append (ofText text)

/-- The path without its last segment; a path without segments is its own parent. -/
def parent (path : Path) : Path := { path with segments := path.segments.dropLast }

/-- The last segment; nothing when there is none. -/
def name (path : Path) : Text := path.segments.getLast?.getD []

/-- A text behind its last slash. -/
def baseName (text : Text) : Text := ((Text.cutLast '/' text).map Prod.snd).getD text

end Path

end JarAtlas
