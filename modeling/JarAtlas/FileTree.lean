import JarAtlas.Path
import JarAtlas.Text.Utf8

/-!
# File trees

The files and directories that operations read and change, as a table from places to what stands
there. A place is the list of names on the way from the root; the root itself is always a directory.
A path leads to a place through directories only, one segment after the other, and a double dot
leads back to the directory above. Names and whole paths are bounded by their lengths in bytes; a
name is too long only where a directory is searched for it, so an earlier fault comes first.
-/

namespace JarAtlas

/-- Why a file operation failed. -/
inductive FileFault
  | missing
  | alreadyThere
  | notDirectory
  | isDirectory
  | nameTooLong
deriving DecidableEq, Repr

namespace FileFault

/-- The number of a fault. -/
def code : FileFault → Nat
  | missing => 2
  | alreadyThere => 17
  | notDirectory => 20
  | isDirectory => 21
  | nameTooLong => 36

/-- The description of a fault. -/
def reason : FileFault → Text
  | missing => "No such file or directory"
  | alreadyThere => "File exists"
  | notDirectory => "Not a directory"
  | isDirectory => "Is a directory"
  | nameTooLong => "File name too long"

/-- The fault tells that nothing stands there. -/
def isAbsence : FileFault → Bool
  | missing | notDirectory => true
  | alreadyThere | isDirectory | nameTooLong => false

end FileFault

/-- A place in a file tree: the names on the way from the root. -/
abbrev Place := List Text

/-- What a file holds: a text, or the entries of an archive in order, each with its name. -/
inductive Content
  | text (value : Text)
  | archive (entries : List (Text × Text))
deriving DecidableEq, Repr

/-- What stands at a place. A file carries the time of its last change. -/
inductive Node
  | directory
  | file (content : Content) (stamp : Int)
deriving DecidableEq, Repr

/-- A file tree. -/
structure FileTree where
  nodes : List (Place × Node)
deriving DecidableEq, Repr

namespace FileTree

/-- The tree that holds nothing but its root. -/
def empty : FileTree := ⟨[]⟩

/-- What stands at a place. -/
def node? (tree : FileTree) (place : Place) : Option Node :=
  if place.isEmpty then some .directory
  else (tree.nodes.find? fun (other, _) => other == place).map Prod.snd

/-- Puts something at a place, instead of what stood there. -/
def set (tree : FileTree) (place : Place) (node : Node) : FileTree :=
  ⟨tree.nodes.filter (fun (other, _) => other != place) ++ [(place, node)]⟩

/-- Takes away a place and everything below it. -/
def remove (tree : FileTree) (place : Place) : FileTree :=
  ⟨tree.nodes.filter fun (other, _) => !place.isPrefixOf other⟩

/-- The names in a directory. -/
def names (tree : FileTree) (place : Place) : List Text :=
  tree.nodes.filterMap fun (other, _) => if other.dropLast = place then other.getLast? else none

/-- What stands below a place, each with the names on the way from there. -/
def below (tree : FileTree) (place : Place) : List (Place × Node) :=
  tree.nodes.filterMap fun (other, node) =>
    if place.isPrefixOf other then some (other.drop place.length, node) else none

/-- The places of the files below a place, each as the names on the way from there. -/
def filesBelow (tree : FileTree) (place : Place) : List Place :=
  tree.nodes.filterMap fun (other, node) =>
    match node with
    | .directory => none
    | .file _ _ => if place.isPrefixOf other then some (other.drop place.length) else none

/-- The most bytes that a name may have. -/
def nameLimit : Nat := 255

/-- The most bytes that a path may have. -/
def pathLimit : Nat := 4095

/-- The place that segments lead to from `here`. -/
def walk (tree : FileTree) (here : Place) : List Text → Except FileFault Place
  | [] => .ok here
  | segment :: segments =>
    match tree.node? here with
    | none => .error .missing
    | some (.file _ _) => .error .notDirectory
    | some .directory =>
      if nameLimit < Text.byteCount segment then .error .nameTooLong
      else tree.walk (if segment = (".." : Text) then here.dropLast else here ++ [segment]) segments

/-- The place that a path leads to from a working directory. -/
def locate (tree : FileTree) (workingDirectory : Place) (path : Path) : Except FileFault Place :=
  if pathLimit < Text.byteCount path.text then .error .nameTooLong
  else tree.walk (if path.root = .relative then workingDirectory else []) path.segments

/-- What a path leads to. -/
def lookup (tree : FileTree) (workingDirectory : Place) (path : Path) : Except FileFault Node :=
  match tree.locate workingDirectory path with
  | .error fault => .error fault
  | .ok place =>
    match tree.node? place with
    | none => .error .missing
    | some node => .ok node

/-- What a path leads to as a caller writes it: a slash at its end asks for a directory, and an
empty path leads nowhere. -/
def lookupWritten (tree : FileTree) (workingDirectory : Place) (written : Text) :
    Except FileFault Node :=
  if written.isEmpty then .error .missing
  else if pathLimit < Text.byteCount written then .error .nameTooLong
  else
    match tree.lookup workingDirectory (.ofText written) with
    | .ok (.file content stamp) =>
      if Text.endsWith "/" written || Text.endsWith "/." written then .error .notDirectory
      else .ok (.file content stamp)
    | found => found

/-- Makes one directory. -/
def makeDirectory (tree : FileTree) (workingDirectory : Place) (path : Path) :
    Except FileFault FileTree :=
  match tree.locate workingDirectory path with
  | .error fault => .error fault
  | .ok place =>
    match tree.node? place with
    | some _ => .error .alreadyThere
    | none => .ok (tree.set place .directory)

/-- Writes a file, a new one or one that is there. -/
def write (tree : FileTree) (workingDirectory : Place) (path : Path) (content : Content)
    (stamp : Int) : Except FileFault FileTree :=
  match tree.locate workingDirectory path with
  | .error fault => .error fault
  | .ok place =>
    match tree.node? place with
    | some .directory => .error .isDirectory
    | _ => .ok (tree.set place (.file content stamp))

/-- Takes a file away. -/
def unlink (tree : FileTree) (workingDirectory : Place) (path : Path) : Except FileFault FileTree :=
  match tree.locate workingDirectory path with
  | .error fault => .error fault
  | .ok place =>
    match tree.node? place with
    | none => .error .missing
    | some .directory => .error .isDirectory
    | some (.file _ _) => .ok (tree.remove place)

end FileTree

end JarAtlas
