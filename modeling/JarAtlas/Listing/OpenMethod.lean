import JarAtlas.Member.Signature

/-!
# Methods being read

A method line gives the types of the parameters. Their names stand, if anywhere, in the variable
table further down, mixed with the local variables: each row names one slot. The parameters fill the
first slots behind the receiver, so a row names a parameter exactly when its slot is the
parameter's.
-/

namespace JarAtlas.Listing

/-- A method whose attributes are being read. -/
structure OpenMethod where
  name : Text
  returnType : Text
  modifiers : List Text
  /-- The parameters: the type, and the name if the method line gives one. -/
  declared : List (Text × Option Text)
  /-- The slots and names of the variable table's rows, in order. -/
  rows : List (Nat × Text)
  /-- How many arguments the code takes, the receiver and unlisted ones included. -/
  argumentSize : Option Nat
  /-- The named parameters, once the method is settled. -/
  settled : Option (List Text)
deriving DecidableEq, Repr

namespace OpenMethod

/-- Begins to read the attributes of a method. -/
def ofSignature (method : MethodSummary) : OpenMethod :=
  { name := method.name
    returnType := method.returnType
    modifiers := method.modifiers
    declared := method.parameters.map Member.splitDeclaredName
    rows := []
    argumentSize := none
    settled := none }

/-- The number of slots that a value of a type takes. -/
def slotWidth (type : Text) : Nat :=
  if (["long", "double"] : List Text).contains type then 2 else 1

/-- The slots in front of the listed parameters. A static method has none. Otherwise they are the
arguments beyond the listed ones, each of one slot, or, where the code gives no size, the receiver's
slot if a row names it. -/
def receiverSlots (method : OpenMethod) : Nat :=
  if method.modifiers.contains "static" then 0
  else
    match method.argumentSize with
    | some size => size - method.declared.length
    | none => if method.rows.contains (0, "this") then 1 else 0

/-- The name that the rows give a slot: the last one counts. -/
def rowName? (rows : List (Nat × Text)) (slot : Nat) : Option Text :=
  (rows.reverse.find? fun (other, _) => other == slot).map Prod.snd

/-- The parameters with their names, the first of them at `slot` and of the given number. A
parameter is named by its row, else by its declaration, else by its number. -/
def nameFrom (rows : List (Nat × Text)) :
    (slot number : Nat) → List (Text × Option Text) → List Text
  | _, _, [] => []
  | slot, number, (type, declaredName) :: others =>
    let name :=
      ((rowName? rows slot).or declaredName).getD (("param" : Text) ++ Text.ofNat number)
    (type ++ ' ' :: name) :: nameFrom rows (slot + slotWidth type) (number + 1) others

/-- The parameters with the names that are known so far. -/
def namedParameters (method : OpenMethod) : List Text :=
  nameFrom method.rows method.receiverSlots 1 method.declared

/-- Settles the parameters. Once settled they stay as they are. -/
def settle (method : OpenMethod) : OpenMethod :=
  match method.settled with
  | some _ => method
  | none => { method with settled := some method.namedParameters, rows := [] }

/-- Adds a row of the variable table. -/
def addRow (method : OpenMethod) (slot : Nat) (name : Text) : OpenMethod :=
  { method with rows := method.rows ++ [(slot, name)] }

/-- The method as it is known: with bare types for parameters until it is settled. -/
def summary (method : OpenMethod) : MethodSummary :=
  { name := method.name
    returnType := method.returnType
    modifiers := method.modifiers
    parameters := method.settled.getD (method.declared.map Prod.fst) }

end OpenMethod

end JarAtlas.Listing
