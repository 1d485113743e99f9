import ScriptEngine.Space.Equality

set_option autoImplicit false

namespace ScriptEngine

namespace Space

def objectHandle : Value → Except Fault Handle
  | .object handle => .ok handle
  | other => .error (.notAnObject other.type)

def readObject {α : Type} (space : Space) (object : Value) (read : ObjectData → α) :
    Except Fault α := do
  return read (← space.objectData (← objectHandle object))

def property? (space : Space) (object : Value) (key : String) : Except Fault (Option Value) :=
  space.readObject object (·.properties.get? key)

def propertyKeys (space : Space) (object : Value) : Except Fault (List String) :=
  space.readObject object (·.properties.keys)

def className? (space : Space) (object : Value) : Except Fault (Option String) :=
  space.readObject object (·.className)

def ownedContext? (space : Space) (object : Value) : Except Fault (Option ContextRef) :=
  space.readObject object (·.context)

def putProperty (handle : Handle) (key : String) (value : Value) : SpaceM Unit :=
  updateObject handle fun data => { data with properties := data.properties.insert key value }

/-- Stores a property on behalf of the host, without asking any hook. A value that is equal to the
old one is not stored. The answer is whether one was. -/
def assignProperty (object : Value) (key : String) (value : Value) : SpaceM Bool := do
  let handle ← Act.ask fun _ => objectHandle object
  let changed ← Act.ask fun space => do
    match (← space.objectData handle).properties.get? key with
    | some old => return !(← space.equal old value)
    | none => return true
  if changed then putProperty handle key value
  return changed

def removeProperty (object : Value) (key : String) : SpaceM (Option Value) := do
  let handle ← Act.ask fun _ => objectHandle object
  let old ← Act.ask fun space => return (← space.objectData handle).properties.get? key
  updateObject handle fun data => { data with properties := data.properties.erase key }
  return old

/-- Ties an object to a host. An object that has a host already cannot get another. -/
def wrapObject (object : Value) (host : Nat) (setter : Option Nat) (captures : List Value) :
    SpaceM Unit := do
  let handle ← Act.ask fun _ => objectHandle object
  match ← Act.ask fun space => .ok (space.wraps.get? handle) with
  | some existing => throw (.alreadyWrapped handle existing.host)
  | none =>
    modify fun space =>
      { space with wraps := space.wraps.insert handle ⟨host, setter, captures⟩ }

def wrappedHost? (space : Space) (object : Value) : Option Nat :=
  object.handle?.bind fun handle => (space.wraps.get? handle).map (·.host)

def unlink (object : Value) : SpaceM (Option Nat) := do
  let handle ← Act.ask fun _ => objectHandle object
  let host ← Act.ask fun space => .ok ((space.wraps.get? handle).map (·.host))
  modify fun space => { space with wraps := space.wraps.erase handle }
  return host

def listeners (space : Space) (object : Value) (event : String) : Except Fault (List Value) :=
  space.readObject object fun data => (data.listeners.get? event).getD []

def addListener (object : Value) (event : String) (callback : Value) : SpaceM Unit := do
  let handle ← Act.ask fun _ => objectHandle object
  updateObject handle fun data =>
    { data with
      listeners := data.listeners.insert event
        ((data.listeners.get? event).getD [] ++ [callback]) }

def removeListeners (object : Value) (event : String) : SpaceM Nat := do
  let handle ← Act.ask fun _ => objectHandle object
  let old ← Act.ask (·.listeners object event)
  updateObject handle fun data => { data with listeners := data.listeners.erase event }
  return old.length

end Space

end ScriptEngine
