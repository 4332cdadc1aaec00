import JarAtlas.Session

/-!
# File operations

Reading and changing the files of a session. A path that leads nowhere, or through a file, does not
exist. What is read or changed has to exist, and a fault is an error that names the path; a path
that holds a null character is refused before anything else. A path with a name that is too long
cannot even be asked whether it exists.
-/

namespace JarAtlas.Files

/-- The path of a place from the root. -/
def pathOf (place : Place) : Path := { root := .absolute, segments := place }

/-- A path holds a null character, so it leads nowhere. -/
def hasNull (written : Text) : Bool := written.contains '\x00'

/-- What a path leads to, if anything. -/
def find? (path : Path) : Action (Option Node) := do
  let host ← Action.host
  match (← get).files.lookup host.workingDirectory path with
  | .ok node => return some node
  | .error fault =>
    if hasNull path.text || fault.isAbsence then return none
    else Action.fail (.file fault path.text)

/-- The path leads to something. -/
def doesExist (path : Path) : Action Bool := do return (← find? path).isSome

/-- The path leads to a directory. -/
def isDirectory (path : Path) : Action Bool := do return (← find? path) == some .directory

/-- Refuses a path that holds a null character. -/
def refuseNull (written : Text) : Action Unit :=
  if hasNull written then Action.fail .nullInPath else pure ()

/-- Changes the files; a fault names `path`. -/
def change (path : Path) (operation : Place → FileTree → Except FileFault FileTree) :
    Action Unit := do
  refuseNull path.text
  let host ← Action.host
  match operation host.workingDirectory (← get).files with
  | .ok files => modify fun session => { session with files }
  | .error fault => Action.fail (.file fault path.text)

/-- What a path leads to as a caller writes it. -/
def lookup (written : Text) : Action Node := do
  refuseNull written
  let host ← Action.host
  match (← get).files.lookupWritten host.workingDirectory written with
  | .ok node => return node
  | .error fault => Action.fail (.file fault written)

/-- The content of the file that a path leads to as a caller writes it. -/
def read (written : Text) : Action Content := do
  match ← lookup written with
  | .directory => Action.fail (.file .isDirectory written)
  | .file content _ => return content

/-- The text of a file, its line breaks all turned into line feeds. An archive is no text. -/
def readText (path : Path) : Action Text := do
  match ← read path.text with
  | .text value => return Text.unifyBreaks value
  | .archive _ => return []

/-- Writes a file. Each write takes a time of its own. -/
def write (path : Path) (content : Content) : Action Unit := do
  let stamp := (← get).clock
  change path fun workingDirectory files => files.write workingDirectory path content stamp
  modify fun session => { session with clock := session.clock + 1 }

/-- Takes a file away. -/
def unlink (path : Path) : Action Unit :=
  change path fun workingDirectory files => files.unlink workingDirectory path

/-- Makes one directory. -/
def makeDirectory (path : Path) : Action Unit :=
  change path fun workingDirectory files => files.makeDirectory workingDirectory path

/-- Makes one directory unless it is there. -/
def ensureDirectory (path : Path) : Action Unit := do
  match ← (makeDirectory path).attempt with
  | .ok () => pure ()
  | .error (.file .missing path) => Action.fail (.file .missing path)
  | .error error => unless ← isDirectory path do Action.fail error

/-- Makes a directory, and the ones above it that are missing. The segments are the path's from the
last to the first. -/
def ensureDirectoriesBelow (root : PathRoot) : List Text → Action Unit
  | [] => ensureDirectory { root, segments := [] }
  | segment :: above => do
    let path : Path := { root, segments := (segment :: above).reverse }
    match ← (makeDirectory path).attempt with
    | .ok () => pure ()
    | .error (.file .missing _) =>
      ensureDirectoriesBelow root above
      ensureDirectory path
    | .error error => unless ← isDirectory path do Action.fail error

/-- Makes a directory, and the ones above it that are missing. -/
def ensureDirectories (path : Path) : Action Unit :=
  ensureDirectoriesBelow path.root path.segments.reverse

/-- The names in a directory in order. -/
def namesIn (path : Path) : Action (List Text) := do
  let host ← Action.host
  let files := (← get).files
  match files.locate host.workingDirectory path with
  | .ok place => return (files.names place).mergeSort Text.precedes
  | .error _ => return []

/-- Runs an operation with a new temporary directory, which is gone afterwards with all that is in
it. -/
def withTemporary {α : Type} (action : Path → Action α) : Action α := do
  let place := (← Action.host).temporaryDirectory
  modify fun session => { session with files := session.files.set place .directory }
  (action (pathOf place)).andThen fun session =>
    { session with files := session.files.remove place }

end JarAtlas.Files
