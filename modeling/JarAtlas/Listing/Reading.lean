import JarAtlas.Listing.Line
import JarAtlas.Listing.OpenMethod
import JarAtlas.Text.Utf8

/-!
# Reading a disassembly listing

A listing is read once from top to bottom, a line at a time, with a look at the next line that is
not blank. The reading is a state: the class as far as it is settled, the method whose attributes
are being read, and whether its variable table is. A method is settled at whichever end comes first:
the end of its variable table, the next member, the brace that closes the class, the trailer, or the
end of the text.
-/

namespace JarAtlas.Listing

/-- Where the current line stands. -/
inductive Phase
  | outside
  | inBody
  | inTable
deriving DecidableEq, Repr

/-- The state of a reading. -/
structure Reading where
  /-- The class with the members in front of the method being read. -/
  settled : ClassSummary
  phase : Phase
  current : Option OpenMethod
  bodyOpened : Bool
  openSwitches : Nat

/-- What a line leads to: more lines, the end of the class, or a number too long to read. -/
inductive Step
  | next (reading : Reading)
  | closed (reading : Reading)
  | oversized (digits : Nat)

namespace Reading

/-- The reading before the first line. -/
def start (simpleName : Text) : Reading :=
  { settled := .ofSimpleName simpleName, phase := .outside, current := none, bodyOpened := false,
    openSwitches := 0 }

/-- The class as far as it is known, the method being read included. -/
def summary (reading : Reading) : ClassSummary :=
  { reading.settled with
    methods := reading.settled.methods ++ reading.current.toList.map OpenMethod.summary }

/-- Settles the method being read and leaves it. -/
def endMethod (reading : Reading) : Reading :=
  { reading with
    settled := { reading.settled with
      methods := reading.settled.methods ++
        reading.current.toList.map fun method => method.settle.summary }
    phase := .outside
    current := none
    openSwitches := 0 }

/-- Takes over a declaration. A line that only looks like one says nothing. -/
def declare (reading : Reading) (line : Text) : Reading :=
  match Declaration.parse line with
  | .ok declaration => { reading with settled := reading.settled.declare declaration }
  | .error _ => reading

/-- Begins to read a method. -/
def beginMethod (reading : Reading) (method : MethodSummary) : Reading :=
  { reading.endMethod with phase := .inBody, current := some (.ofSignature method) }

/-- Adds a field. -/
def addField (reading : Reading) (field : FieldSummary) : Reading :=
  let reading := reading.endMethod
  { reading with settled := { reading.settled with fields := reading.settled.fields ++ [field] } }

/-- Takes the argument size from a line that gives one. -/
def takeSizes (reading : Reading) (line : Text) : Step :=
  match argumentSize? line with
  | none => .next reading
  | some digits =>
    match Text.number? digits with
    | none => .oversized digits.length
    | some size =>
      .next { reading with
        current := reading.current.map fun method => { method with argumentSize := some size } }

/-- A line outside a variable table. -/
def feedLine (reading : Reading) (line : Text) (next : Option Text) : Step :=
  match shapeOf reading.current.isSome line next with
  | .declaration =>
    let reading := reading.declare line
    .next { reading with bodyOpened := reading.bodyOpened || Text.endsWith ['\x7b'] line }
  | .bodyOpening => .next { reading with bodyOpened := true }
  | .method =>
    match Member.parseMethod line with
    | none => .next reading
    | some method => .next (reading.beginMethod method)
  | .tableHeader =>
    if reading.current.any fun method => method.settled.isNone then
      .next { reading with phase := .inTable }
    else .next reading
  | .codeSizes => reading.takeSizes line
  | .switchOpening => .next { reading with openSwitches := reading.openSwitches + 1 }
  | .staticBlock => .next reading.endMethod
  | .field =>
    match Member.parseField line with
    | none => .next reading
    | some field => .next (reading.addField field)
  | .closing =>
    if 0 < reading.openSwitches then
      .next { reading with openSwitches := reading.openSwitches - 1 }
    else if reading.bodyOpened then .closed reading.endMethod
    else .next reading.endMethod
  | .trailer => .next reading.endMethod
  | .inert => .next reading

/-- Changes the method being read. -/
def updateCurrent (reading : Reading) (update : OpenMethod → OpenMethod) : Reading :=
  { reading with current := reading.current.map update }

/-- A trimmed line, with the next one that is not blank. -/
def feed (reading : Reading) (line : Text) (next : Option Text) : Step :=
  match reading.phase with
  | .inTable =>
    match tableLineOf line with
    | .blank => .next { reading.updateCurrent .settle with phase := .inBody }
    | .columnHeads => .next reading
    | .row slot name =>
      match Text.number? slot with
      | none => .oversized slot.length
      | some slot => .next (reading.updateCurrent (·.addRow slot name))
    | .foreign => { reading with phase := .inBody }.feedLine line next
  | _ => reading.feedLine line next

/-- Reads lines until the class closes or none is left, and settles the last method. A number too
long to read gives its count of digits. -/
def run (reading : Reading) : List Text → Except Nat ClassSummary
  | [] => .ok reading.endMethod.settled
  | line :: lines =>
    match reading.feed line (lines.find? (!·.isEmpty)) with
    | .next reading => reading.run lines
    | .closed reading => .ok reading.endMethod.settled
    | .oversized digits => .error digits

end Reading

/-- Why a listing cannot be read. -/
inductive Fault
  /-- There is no text but white space. -/
  | empty (className : Option Text)
  /-- Neither the caller nor a declaration names the class. -/
  | nameless
  /-- A number has more digits than can be read. -/
  | oversized (digits : Nat)
deriving DecidableEq, Repr

/-- The name behind the last dot. -/
def simpleNameOf (className : Text) : Text :=
  ((Text.cutLast '.' className).map Prod.snd).getD className

/-- The class that a listing describes. `className` is what the caller takes the class for. -/
def parse (text : Option Text) (className : Option Text) : Except Fault ClassSummary :=
  match text with
  | none => .error (.empty className)
  | some text =>
    if Text.isBlankText text then .error (.empty className)
    else
      let lines := (Text.lines text).map Text.trim
      match (Reading.start (simpleNameOf (className.getD []))).run lines with
      | .error digits => .error (.oversized digits)
      | .ok summary => if summary.simpleName.isEmpty then .error .nameless else .ok summary

/-- The class that a saved listing describes. Its bytes are decoded and its line breaks made alike. -/
def parseSaved (bytes : List UInt8) (className : Option Text) : Except Fault ClassSummary :=
  parse (some (Text.unifyBreaks (Text.decode bytes))) className

end JarAtlas.Listing
