import ScriptEngine.Act
import ScriptEngine.Payload

set_option autoImplicit false

namespace ScriptEngine

structure Slot where
  generation : UInt32
  payload : Option Payload
  marked : Bool
deriving Inhabited

/-- A host object that keeps values alive for as long as it is registered. -/
structure Provider where
  number : Nat
  values : List Value

/-- A growing row of slots that hold everything values can point to. A reclaimed slot is used again
under the next generation, so a handle is good for one object only, up to the wrap of the
generation. -/
structure Space where
  slots : Array Slot := #[]
  /-- Indexes of the slots without a payload, the next to be used first. -/
  free : List Nat := []
  /-- How often each handle is pinned, never zero times. -/
  pins : Table Handle Nat := ∅
  providers : List Provider := []
  wraps : Table Handle Wrapping := ∅
  /-- Allocations since the last collection. -/
  allocated : Nat := 0
  live : Nat := 0
  /-- Executions that have been entered and not left. -/
  executions : Nat := 0
  /-- A collection was asked for during an execution and has not run yet. -/
  collectRequested : Bool := false
deriving Inhabited

abbrev SpaceM (α : Type) := Act Space Fault α

namespace Space

/-- Slots are numbered by words of this many values. -/
def capacity : Nat := UInt32.size

/-- Places a payload in the slot that was freed last, or else in a new one. -/
def allocate (payload : Payload) : SpaceM Handle := fun space =>
  match space.free with
  | index :: rest =>
    let generation := (space.slots[index]?.map Slot.generation).getD 0
    (.ok ⟨index, generation⟩,
      { space with
        slots := space.slots.setIfInBounds index ⟨generation, some payload, false⟩
        free := rest
        allocated := space.allocated + 1
        live := space.live + 1 })
  | [] =>
    if space.slots.size < capacity then
      (.ok ⟨space.slots.size, 0⟩,
        { space with
          slots := space.slots.push ⟨0, some payload, false⟩
          allocated := space.allocated + 1
          live := space.live + 1 })
    else (.error .spaceExhausted, space)

/-- The payload behind a handle that is not stale. -/
def get? (space : Space) (handle : Handle) : Option Payload :=
  match space.slots[handle.index]? with
  | some slot => if slot.generation = handle.generation then slot.payload else none
  | none => none

/-- Whether the object that the handle was issued for is still there. -/
def contains (space : Space) (handle : Handle) : Bool := (space.get? handle).isSome

def get (space : Space) (handle : Handle) : Except Fault Payload :=
  match space.get? handle with
  | some payload => .ok payload
  | none => .error (.staleHandle handle)

/-- Replaces the payload behind a handle that is not stale. -/
def store (handle : Handle) (payload : Payload) : SpaceM Unit := fun space =>
  if space.contains handle then
    (.ok (), { space with
      slots := space.slots.modify handle.index fun slot => { slot with payload := some payload } })
  else (.error (.staleHandle handle), space)

def array (space : Space) (handle : Handle) : Except Fault (Array Value) :=
  match space.get handle with
  | .ok (.array items) => .ok items
  | .ok other => .error (.wrongKind handle other.kind .array)
  | .error fault => .error fault

def objectData (space : Space) (handle : Handle) : Except Fault ObjectData :=
  match space.get handle with
  | .ok (.object data) => .ok data
  | .ok other => .error (.wrongKind handle other.kind .object)
  | .error fault => .error fault

def context (space : Space) (context : ContextRef) : Except Fault Context :=
  match space.get context.handle with
  | .ok (.context data) => .ok data
  | .ok other => .error (.wrongKind context.handle other.kind .context)
  | .error fault => .error fault

def updateArray (handle : Handle) (change : Array Value → Array Value) : SpaceM Unit := do
  let items ← Act.ask (·.array handle)
  store handle (.array (change items))

def updateObject (handle : Handle) (change : ObjectData → ObjectData) : SpaceM Unit := do
  let data ← Act.ask (·.objectData handle)
  store handle (.object (change data))

def updateContext (context : ContextRef) (change : Context → Context) : SpaceM Unit := do
  let data ← Act.ask (·.context context)
  store context.handle (.context (change data))

def allocateArray (items : Array Value) : SpaceM Value := return .array (← allocate (.array items))

def allocateObject (data : ObjectData) : SpaceM Value := return .object (← allocate (.object data))

def allocateFunction (closure : Closure) : SpaceM Value :=
  return .callable (← allocate (.function closure))

def allocateNative (function : NativeFunction) : SpaceM Value :=
  return .callable (← allocate (.native function))

/-- Keeps an object alive until a matching `unpin`. Pins are counted. -/
def pin (space : Space) (handle : Handle) : Space :=
  { space with pins := space.pins.insert handle ((space.pins.get? handle).getD 0 + 1) }

/-- Takes back one pin. Without a pin nothing happens. -/
def unpin (space : Space) (handle : Handle) : Space :=
  match space.pins.get? handle with
  | none => space
  | some count =>
    if count ≤ 1 then { space with pins := space.pins.erase handle }
    else { space with pins := space.pins.insert handle (count - 1) }

def isPinned (space : Space) (handle : Handle) : Bool := space.pins.contains handle

def addProvider (space : Space) (values : List Value) : Nat × Space :=
  let number := (space.providers.map (·.number + 1)).foldl max 0
  (number, { space with providers := space.providers ++ [⟨number, values⟩] })

def setProvider (space : Space) (number : Nat) (values : List Value) : Space :=
  { space with
    providers := space.providers.map fun provider =>
      if provider.number = number then ⟨number, values⟩ else provider }

def dropProvider (space : Space) (number : Nat) : Space :=
  { space with providers := space.providers.filter (·.number ≠ number) }

def enterExecution (space : Space) : Space :=
  { space with executions := space.executions + 1 }

def leaveExecution (space : Space) : Space :=
  { space with executions := space.executions - 1 }

/-- Whether an execution may hold handles that no root knows of. -/
def inExecution (space : Space) : Bool := 0 < space.executions

end Space

end ScriptEngine
