import JarAtlas.FileTree
import JarAtlas.Json.Basic
import JarAtlas.Listing.Reading

/-!
# Errors

Everything that can keep an operation from its answer, told by its cause, and the one message of
each cause. Some causes are part of the service and are reported by the command line in a line of
their own; the others concern files that are not as expected and values of the wrong type.
-/

namespace JarAtlas

/-- The message of a failed call of the operating system; a path is shown in quotes. -/
def systemMessage (code : Int) (reason : Text) (path : Option JsonString) : Text :=
  "[Errno " ++ Text.ofInt code ++ "] " ++ reason ++
    match path with
    | some path => ": " ++ path.quoted
    | none => []

/-- How a value of the wrong type came to light. -/
inductive TypeFault
  | notPath (type : Text)
  | notText (position : Nat) (type : Text)
  | noMember (type member : Text)
  | notSubscriptable (type : Text)
  | textIndex
  | listIndex
  | notIterable (type : Text)
  | unhashable (type : Text)
deriving DecidableEq, Repr

/-- The message of a value of the wrong type. -/
def TypeFault.message : TypeFault → Text
  | notPath type => "expected str, bytes or os.PathLike object, not " ++ type
  | notText position type =>
    "sequence item " ++ Text.ofNat position ++ ": expected str instance, " ++ type ++ " found"
  | noMember type member =>
    "'" ++ type ++ "' object has no attribute '" ++ member ++ "'"
  | notSubscriptable type => "'" ++ type ++ "' object is not subscriptable"
  | textIndex => "string indices must be integers, not 'str'"
  | listIndex => "list indices must be integers or slices, not str"
  | notIterable type => "'" ++ type ++ "' object is not iterable"
  | unhashable type => "unhashable type: '" ++ type ++ "'"

/-- Why an operation has no answer. -/
inductive Error
  /-- The class is in no indexed jar. -/
  | unknownClass (className : Text)
  /-- The project has no class index. -/
  | indexMissing (path : Text)
  /-- An external tool failed, timed out or printed nothing. -/
  | toolFailed (tool reason : Text)
  /-- A disassembly listing cannot be read. -/
  | listing (fault : Listing.Fault)
  /-- The class index is not a readable JSON file. -/
  | unreadableIndex (path reason : Text)
  /-- A jar does not hold the file of a class. -/
  | entryMissing (entry jar : Text)
  /-- A jar cannot be read. -/
  | unreadableJar (jar reason : Text)
  /-- There is no local repository. -/
  | repositoryMissing (path : Text)
  /-- A tool of that name is not offered. -/
  | unknownTool (name : Text)
  /-- A required argument is missing or empty. -/
  | argumentMissing (name : Text)
  /-- The lists and objects of a JSON text stand in each other too deep. -/
  | nestedTooDeep (innermost : Text)
  /-- A JSON object lacks a field. -/
  | fieldMissing (name : Text)
  /-- A file operation failed. -/
  | file (fault : FileFault) (path : JsonString)
  /-- A path holds a null character. -/
  | nullInPath
  /-- A path is a string that cannot be written as bytes. -/
  | unencodable (obstacle : JsonString.Obstacle)
  /-- A file is not a jar. -/
  | notArchive
  /-- The home directory cannot be told. -/
  | homeUnknown
  /-- Work was to be shared among no workers. -/
  | tooFewWorkers
  /-- A value has the wrong type. -/
  | wrongType (fault : TypeFault)
deriving DecidableEq, Repr

namespace Error

/-- The message of an error. -/
def message : Error → Text
  | unknownClass className =>
    "Class " ++ className ++ " was not found in any indexed jar; " ++
      "run scan_dependencies to (re)build the class index"
  | indexMissing path =>
    "Class index " ++ path ++ " does not exist; run scan_dependencies first"
  | toolFailed tool reason => tool ++ " failed: " ++ reason
  | listing (.empty className) => "Empty disassembly text for " ++ className.getD "None"
  | listing .nameless => "Disassembly text names no class and no class name was given"
  | listing (.oversized digits) =>
    "Exceeds the limit (" ++ Text.ofNat Text.digitLimit ++
      " digits) for integer string conversion: value has " ++ Text.ofNat digits ++
      " digits; use sys.set_int_max_str_digits() to increase the limit"
  | unreadableIndex path reason => "Cannot read class index " ++ path ++ ": " ++ reason
  | entryMissing entry jar => "Class file " ++ entry ++ " not found in " ++ jar
  | unreadableJar jar reason => "Cannot read jar " ++ jar ++ ": " ++ reason
  | repositoryMissing path => "Local Maven repository " ++ path ++ " does not exist"
  | unknownTool name => "Unknown tool: " ++ name
  | argumentMissing name => name ++ " is required"
  | nestedTooDeep innermost =>
    "maximum recursion depth exceeded while decoding a JSON " ++ innermost ++
      " from a unicode string"
  | fieldMissing name => Text.quoted name
  | file fault path => systemMessage fault.code fault.reason (some path)
  | nullInPath => "embedded null byte"
  | unencodable obstacle =>
    let { code, first, last } := obstacle
    let place : Text :=
      if first = last then
        "character '\\u" ++ Text.hexadecimal 4 code ++ "' in position " ++ Text.ofNat first
      else "characters in position " ++ Text.ofNat first ++ "-" ++ Text.ofNat last
    "'utf-8' codec can't encode " ++ place ++ ": surrogates not allowed"
  | notArchive => "File is not a zip file"
  | homeUnknown => "Could not determine home directory."
  | tooFewWorkers => "max_workers must be greater than 0"
  | wrongType fault => fault.message

/-- Why a broken string names no file. -/
def ofBroken (codes : List Nat) : Error :=
  match JsonString.obstacle? codes with
  | some obstacle => unencodable obstacle
  | none => file .missing (.broken codes)

/-- The error is part of the service, not a defect of a file or a value. -/
def isReported : Error → Bool
  | unknownClass _ | indexMissing _ | toolFailed _ _ | listing (.empty _) | listing .nameless
  | unreadableIndex _ _ | entryMissing _ _ | unreadableJar _ _ | repositoryMissing _
  | unknownTool _ | argumentMissing _ => true
  | _ => false

/-- The error tells what stands in the way of reading a jar. -/
def isUnreadableJar : Error → Bool
  | file _ _ | notArchive => true
  | _ => false

end Error

end JarAtlas
