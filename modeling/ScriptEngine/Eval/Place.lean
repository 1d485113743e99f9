import ScriptEngine.Eval.Binary

set_option autoImplicit false

namespace ScriptEngine

/-- A binding of a context, a property, an element, or the elements from `lower` up to `upper`.
A binding that is not declared is one that a write would make. -/
inductive Place where
  | binding (context : ContextRef) (name : String) (declared : Bool)
  | property (object : Value) (key : String)
  | element (array : Handle) (index : Nat)
  | range (array : Handle) (lower upper : Nat)

/-- A range is accepted iff `0 ≤ lower ≤ upper ≤ length`. -/
def validateRange (length : Nat) (lower upper : Int64) : Except ScriptError (Nat × Nat) :=
  if 0 ≤ lower.toInt ∧ lower.toInt ≤ upper.toInt ∧ upper.toInt ≤ length then
    .ok (lower.toInt.toNat, upper.toInt.toNat)
  else .error (.ofKind (.invalidRange lower upper length))

/-- An index is accepted iff `0 ≤ index < length`. -/
def validateIndex (length : Nat) (index : Int64) : Except ScriptError Nat :=
  if 0 ≤ index.toInt ∧ index.toInt < length then .ok index.toInt.toNat
  else .error (.ofKind (.indexOutOfBounds index length))

namespace Eval

variable {σ τ : Type}

/-- The binding that a name stands for, or the one that a write in this context would make. -/
def bindingPlace (context : ContextRef) (name : String) : Run σ τ Halt Place :=
  Run.askSpace fun space => do
    match ← space.owner? context name with
    | some owner => return .binding owner name true
    | none => return .binding context name false

def propertyPlace (object : Value) (key : String) : Except ScriptError Place :=
  match object with
  | .object _ => .ok (.property object key)
  | other => .error (.ofKind (.typeMismatch "Object" other.typeName))

def keyPlace (target key : Value) : Run σ τ Halt Place :=
  match target, key with
  | .array array, .int index => do
    let items ← Run.askSpace (·.array array)
    return .element array (← Run.orRaise (validateIndex items.size index))
  | .object _, .string name => return .property target name
  | target, key =>
    Run.raise (.ofKind (.invalidOperands .index target.typeName key.typeName))

/-- The elements that a range selects. Missing bounds stand for the ends of the array. -/
def rangePlace (array : Handle) (lower upper : Option Int64) : Run σ τ Halt Place := do
  let items ← Run.askSpace (·.array array)
  let (lower, upper) ← Run.orRaise
    (validateRange items.size (lower.getD 0) (upper.getD (intOfLength items.size)))
  return .range array lower upper

/-- The value at a place. Reading a range makes a new array. -/
def readPlace (place : Place) : Run σ τ Halt Value :=
  match place with
  | .binding context name declared => do
    if declared then Run.orRaise (← Run.askSpace (·.resolve context name))
    else Run.raise (.ofKind (.unresolvedVariable name))
  | .property object key =>
    Run.askSpace fun space => return (← space.property? object key).getD .undefined
  | .element array index => do
    let items ← Run.askSpace (·.array array)
    match items[index]? with
    | some value => return value
    | none => Run.raise (.ofKind (.indexOutOfBounds (intOfLength index) items.size))
  | .range array lower upper => do
    let items ← Run.askSpace (·.array array)
    if lower ≤ upper ∧ upper ≤ items.size then
      Run.ofSpace (Space.allocateArray (items.extract lower upper))
    else
      Run.raise (.ofKind (.invalidRange (intOfLength lower) (intOfLength upper) items.size))

def consult (host : Host σ τ) (number : Nat) (write : HostWrite) :
    Run σ τ Halt HookAnswer := fun state =>
  let (answer, own) := host.hook number state.space write state.own
  (.ok answer, { state with own })

/-- Writes a property on behalf of a script. The hook of a wrapped object has the last word. -/
def setProperty (host : Host σ τ) (object : Value) (key : String) (value : Value)
    (site : SourceInfo) : Run σ τ Halt Unit := do
  let handle ← Run.askSpace fun _ => Space.objectHandle object
  match ← Run.askSpace fun space => .ok (space.wraps.get? handle) with
  | some ⟨number, some setter, captures⟩ =>
    match ← consult host setter ⟨number, object, key, value, site, captures⟩ with
    | .store stored => Run.ofSpace (Space.putProperty handle key stored)
    | .absorb => return
    | .reject error => Run.raise (error.locate site)
    | .abort fault => throw (.fault fault)
  | _ => Run.ofSpace (Space.putProperty handle key value)

def writeBinding (context : ContextRef) (name : String) (value : Value) :
    Run σ τ Halt Unit := do
  Run.ofSpace (Space.nameFunction value name)
  match ← Run.ofSpace (Space.assign context name value) with
  | .stored => return
  | .undefined => Run.ofSpace (Space.define context name value .mutable)
  | .immutable => Run.raise (.ofKind (.immutableBinding name))

def writeElement (array : Handle) (index : Nat) (value : Value) : Run σ τ Halt Unit := do
  let items ← Run.askSpace (·.array array)
  if index < items.size then
    Run.ofSpace (Space.updateArray array (·.setIfInBounds index value))
  else Run.raise (.ofKind (.indexOutOfBounds (intOfLength index) items.size))

def splice (items : Array Value) (lower upper : Nat) (replacement : Array Value) : Array Value :=
  items.extract 0 lower ++ replacement ++ items.extract upper items.size

def writeRange (array : Handle) (lower upper : Nat) (value : Value) :
    Run σ τ Halt Unit := do
  match value with
  | .array source =>
    let replacement ← Run.askSpace (·.array source)
    let items ← Run.askSpace (·.array array)
    if upper ≤ items.size then
      Run.ofSpace (Space.updateArray array (splice · lower upper replacement))
    else
      Run.raise (.ofKind (.invalidRange (intOfLength lower) (intOfLength upper) items.size))
  | other => Run.raise (.ofKind (.typeMismatch "Array" other.typeName))

/-- Writes a value to a place. A closure without a name takes the name of the binding or property
before the write is known to succeed. -/
def writePlace (host : Host σ τ) (place : Place) (value : Value) (site : SourceInfo) :
    Run σ τ Halt Unit :=
  match place with
  | .binding context name _ => writeBinding context name value
  | .property object key => do
    Run.ofSpace (Space.nameFunction value key)
    setProperty host object key value site
  | .element array index => writeElement array index value
  | .range array lower upper => writeRange array lower upper value

/-- Computes with the value that was read from a place and writes the result back. -/
def updatePlace (write : Place → Value → SourceInfo → Run σ τ Halt Unit) (op : Arithmetic)
    (place : Place) (current amount : Value) (site : SourceInfo) : Run σ τ Halt Value := do
  let updated ← binary (.arithmetic op) current amount
  write place updated site
  return updated

end Eval

end ScriptEngine
