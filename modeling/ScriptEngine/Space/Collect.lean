import ScriptEngine.Space

set_option autoImplicit false

namespace ScriptEngine

/-- Objects that stay, objects that were reclaimed, and whether the collection was put off. -/
structure CollectStats where
  marked : Nat
  freed : Nat
  deferred : Bool
deriving DecidableEq, Repr

namespace Slot

/-- Whether the slot holds something that has not been reached. -/
def isUnmarked (slot : Slot) : Bool := !slot.marked && slot.payload.isSome

/-- The slot after the sweep: what was reached stays and loses its mark, what was not is gone and
its handles are stale. -/
def swept (slot : Slot) : Slot :=
  if slot.payload.isNone then slot
  else if slot.marked then { slot with marked := false }
  else { slot with generation := slot.generation + 1, payload := none }

end Slot

namespace Space

/-- The handles that the object behind a handle refers to, the captures of its hook included. -/
def edges (wraps : Table Handle Wrapping) (handle : Handle) (payload : Payload) : List Handle :=
  payload.references ++ ((wraps.get? handle).map fun wrapping =>
    valueHandles wrapping.captures).getD []

/-- A step for each object from an index on that has not been reached, and one for each handle that
it refers to. -/
def owed (wraps : Table Handle Wrapping) : Nat → List Slot → Nat
  | _, [] => 0
  | index, slot :: rest =>
    (match slot.payload with
      | some payload =>
        if slot.marked then 0 else (edges wraps ⟨index, slot.generation⟩ payload).length + 1
      | none => 0) + owed wraps (index + 1) rest

private theorem owed_mark {wraps : Table Handle Wrapping} {slots : List Slot} {slot : Slot}
    {payload : Payload} {place : Nat} (start : Nat) (found : slots[place]? = some slot)
    (held : slot.payload = some payload) (fresh : slot.marked = false) :
    owed wraps start slots =
      owed wraps start (slots.set place { slot with marked := true }) +
        ((edges wraps ⟨start + place, slot.generation⟩ payload).length + 1) := by
  induction slots generalizing start place with
  | nil => cases found
  | cons first rest ih =>
    cases place with
    | zero =>
      cases found
      simp [owed, held, fresh]
      omega
    | succ place =>
      have further := ih (start + 1) found
      simp only [List.set_cons_succ, owed]
      rw [further, Nat.add_right_comm start 1 place, Nat.add_assoc start place 1, Nat.add_assoc]

/-- Marks everything that the worklist reaches and counts it. Handles that are stale or were met
before are passed over. -/
def mark (wraps : Table Handle Wrapping) (slots : Array Slot) (work : List Handle)
    (count : Nat) : Array Slot × Nat :=
  match work with
  | [] => (slots, count)
  | handle :: rest =>
    if bound : handle.index < slots.size then
      match held : slots[handle.index].payload with
      | some payload =>
        if fresh : slots[handle.index].marked = false ∧
            slots[handle.index].generation = handle.generation then
          mark wraps (slots.set handle.index { slots[handle.index] with marked := true })
            (edges wraps handle payload ++ rest) (count + 1)
        else mark wraps slots rest count
      | none => mark wraps slots rest count
    else mark wraps slots rest count
-- The measure is one number, and not a pair, so that runs on given spaces can be evaluated.
termination_by owed wraps 0 slots.toList + work.length
decreasing_by
  · have found : slots.toList[handle.index]? = some slots[handle.index] := by
      simp [bound]
    have step : owed wraps 0 slots.toList = _ := owed_mark 0 found held fresh.1
    have same : (⟨0 + handle.index, slots[handle.index].generation⟩ : Handle) = handle := by
      rw [fresh.2, Nat.zero_add]
    rw [same] at step
    simp only [Array.toList_set, List.length_append, List.length_cons]
    omega
  all_goals simp

def roots (space : Space) (extra : List Handle) : List Handle :=
  space.pins.keys ++ space.providers.flatMap (valueHandles ·.values) ++ extra

def unmarked (slots : Array Slot) : List Nat :=
  (List.range slots.size).filter fun index =>
    ((slots[index]?).map Slot.isUnmarked).getD false

def issued (slots : Array Slot) (index : Nat) : Handle :=
  ⟨index, ((slots[index]?).map Slot.generation).getD 0⟩

/-- Reclaims what the roots do not reach, or notes the wish if an execution is going on. -/
def collect (space : Space) (extra : List Handle) : CollectStats × Space :=
  if space.inExecution then (⟨0, 0, true⟩, { space with collectRequested := true })
  else
    let (slots, marked) := mark space.wraps space.slots (space.roots extra) 0
    let garbage := unmarked slots
    (⟨marked, garbage.length, false⟩,
      { space with
        slots := slots.map Slot.swept
        free := garbage.reverse ++ space.free
        wraps := garbage.foldl (fun wraps index => wraps.erase (issued slots index)) space.wraps
        allocated := 0
        live := space.live - garbage.length
        collectRequested := false })

end Space

end ScriptEngine
