import ScriptEngine.Error
import ScriptEngine.Space.Object

set_option autoImplicit false

namespace ScriptEngine

/-- What a host asks for when it registers a class. -/
structure ClassSpec where
  parent : Option String := none
  properties : List (String × Value) := []
  setter : Option Nat := none
  captures : List Value := []
  triggers : Bool := false

/-- A registered class, with all that it inherits. -/
structure ClassDef where
  name : String
  parent : Option String
  properties : Table String Value
  setter : Option Nat
  captures : List Value
  triggers : Bool

/-- The classes of host objects. A class takes over the properties of its parent when it is
registered, so a later change to the parent could not reach it. -/
structure ClassRegistry where
  classes : Table String ClassDef := ∅

namespace ClassSpec

def alone (spec : ClassSpec) (name : String) : ClassDef where
  name
  parent := spec.parent
  properties := .ofList spec.properties
  setter := spec.setter
  captures := spec.captures
  triggers := spec.triggers

/-- A class below a parent. Its own properties win, and the hook comes with its captures from the
one class that has it. -/
def below (spec : ClassSpec) (name : String) (parent : ClassDef) : ClassDef where
  name
  parent := spec.parent
  properties := parent.properties.insertAll spec.properties
  setter := if spec.setter.isSome then spec.setter else parent.setter
  captures := if spec.setter.isSome then spec.captures else parent.captures
  triggers := spec.triggers || parent.triggers

end ClassSpec

namespace ClassRegistry

def get? (registry : ClassRegistry) (name : String) : Option ClassDef :=
  registry.classes.get? name

def contains (registry : ClassRegistry) (name : String) : Bool := registry.classes.contains name

def size (registry : ClassRegistry) : Nat := registry.classes.size

def isEmpty (registry : ClassRegistry) : Bool := registry.size == 0

def add (registry : ClassRegistry) (name : String) (added : ClassDef) : ClassRegistry :=
  ⟨registry.classes.insert name added⟩

/-- A name is taken once and for all, and a parent has to be there first. -/
def register (registry : ClassRegistry) (name : String) (spec : ClassSpec) :
    Except ScriptError ClassRegistry :=
  if registry.contains name then .error (.ofKind (.classAlreadyExists name))
  else
    match spec.parent with
    | none => .ok (registry.add name (spec.alone name))
    | some parentName =>
      match registry.get? parentName with
      | none => .error (.ofKind (.unknownClass parentName))
      | some parent => .ok (registry.add name (spec.below name parent))

def references (registry : ClassRegistry) : List Handle :=
  registry.classes.values.flatMap fun entry =>
    valueHandles entry.properties.values ++ valueHandles entry.captures

end ClassRegistry

namespace Space

def eventMethod (object : Value) (name : String) (arity : Nat) (body : NativeBody) :
    SpaceM (String × Value) :=
  return (name, ← allocateNative ⟨name, some arity, [object], body⟩)

/-- New methods by which scripts listen to the events of an object and fire them. -/
def eventMethods (object : Value) : SpaceM (List (String × Value)) :=
  return [← eventMethod object "on" 2 .subscribe, ← eventMethod object "off" 1 .unsubscribe,
    ← eventMethod object "trigger" 2 .dispatch]

/-- Stores properties one after the other without asking any hook. -/
def assignProperties (object : Value) : List (String × Value) → SpaceM Unit
  | [] => return
  | (key, value) :: rest => do
    let _ ← assignProperty object key value
    assignProperties object rest

/-- A new instance of a class. Its own properties win over those of the class, and the event
methods over both. -/
def wrapInstance (entry : ClassDef) (host : Nat) (extra : List (String × Value)) :
    SpaceM Value := do
  let object ← allocateObject
    { properties := entry.properties.insertAll extra, className := some entry.name }
  if entry.triggers then assignProperties object (← eventMethods object)
  wrapObject object host entry.setter entry.captures
  return object

end Space

end ScriptEngine
