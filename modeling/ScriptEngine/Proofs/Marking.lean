import ScriptEngine.Proofs.Slots
import ScriptEngine.Space.Collect

set_option autoImplicit false

namespace ScriptEngine

namespace Space

/-- The object behind one handle refers to another handle. The second need not be live. -/
inductive Refers (space : Space) (source : Handle) : Handle → Prop where
  | element {items : Array Value} {value : Value} {target : Handle}
      (held : space.get? source = some (.array items)) (member : value ∈ items)
      (points : value.handle? = some target) : Refers space source target
  | property {data : ObjectData} {key : String} {value : Value} {target : Handle}
      (held : space.get? source = some (.object data))
      (member : data.properties.get? key = some value)
      (points : value.handle? = some target) : Refers space source target
  | ownedContext {data : ObjectData} {context : ContextRef}
      (held : space.get? source = some (.object data))
      (owned : data.context = some context) : Refers space source context.handle
  | listener {data : ObjectData} {event : String} {callbacks : List Value} {callback : Value}
      {target : Handle} (held : space.get? source = some (.object data))
      (listed : data.listeners.get? event = some callbacks) (member : callback ∈ callbacks)
      (points : callback.handle? = some target) : Refers space source target
  | captured {closure : Closure} (held : space.get? source = some (.function closure)) :
      Refers space source closure.context.handle
  | nativeCapture {callee : NativeFunction} {value : Value} {target : Handle}
      (held : space.get? source = some (.native callee)) (member : value ∈ callee.captures)
      (points : value.handle? = some target) : Refers space source target
  | parent {data : Context} {above : ContextRef}
      (held : space.get? source = some (.context data)) (below : data.parent? = some above) :
      Refers space source above.handle
  | bound {data : Context} {name : String} {binding : Binding} {target : Handle}
      (held : space.get? source = some (.context data))
      (member : data.bindings.get? name = some binding)
      (points : binding.value.handle? = some target) : Refers space source target
  | hookCapture {payload : Payload} {wrapping : Wrapping} {value : Value} {target : Handle}
      (held : space.get? source = some payload)
      (wrapped : space.wraps.get? source = some wrapping) (member : value ∈ wrapping.captures)
      (points : value.handle? = some target) : Refers space source target

/-- What keeps objects alive by itself: pins, host objects and the caller. -/
inductive Root (space : Space) (extra : List Handle) : Handle → Prop where
  | pinned {handle : Handle} (pinned : space.isPinned handle = true) : Root space extra handle
  | provided {provider : Provider} {value : Value} {handle : Handle}
      (registered : provider ∈ space.providers) (member : value ∈ provider.values)
      (points : value.handle? = some handle) : Root space extra handle
  | given {handle : Handle} (member : handle ∈ extra) : Root space extra handle

/-- The live objects that can be come to from the roots. Stale handles lead nowhere. -/
inductive Reached (space : Space) (root : Handle → Prop) : Handle → Prop where
  | start {handle : Handle} (rooted : root handle) (live : space.contains handle = true) :
      Reached space root handle
  | follow {source target : Handle} (reached : Reached space root source)
      (refers : space.Refers source target) (live : space.contains target = true) :
      Reached space root target

theorem Reached.live {space : Space} {root : Handle → Prop} {handle : Handle}
    (reached : Reached space root handle) : space.contains handle = true := by
  cases reached with
  | start _ live => exact live
  | follow _ _ live => exact live

theorem mem_valueHandles {values : List Value} {handle : Handle} :
    handle ∈ valueHandles values ↔ ∃ value ∈ values, value.handle? = some handle := by
  simp [valueHandles]

theorem mem_roots_iff {space : Space} {extra : List Handle} {handle : Handle} :
    handle ∈ space.roots extra ↔ Root space extra handle := by
  simp only [roots, List.mem_append, List.mem_flatMap, mem_valueHandles]
  constructor
  · intro listed
    rcases listed with (pinned | ⟨provider, registered, value, member, points⟩) | member
    · obtain ⟨count, found⟩ := Table.mem_keys_iff.mp pinned
      exact .pinned (by simp [isPinned, Table.contains, found])
    · exact .provided registered member points
    · exact .given member
  · intro root
    cases root with
    | pinned pinned =>
      obtain ⟨count, found⟩ := Option.isSome_iff_exists.mp pinned
      exact Or.inl (Or.inl (Table.mem_keys_iff.mpr ⟨count, found⟩))
    | provided registered member points =>
      exact Or.inl (Or.inr ⟨_, registered, _, member, points⟩)
    | given member => exact Or.inr member

private theorem mem_object_references {data : ObjectData} {handle : Handle} :
    handle ∈ data.references ↔
      (∃ key value, data.properties.get? key = some value ∧ value.handle? = some handle) ∨
      (∃ context, data.context = some context ∧ context.handle = handle) ∨
      (∃ event callbacks callback, data.listeners.get? event = some callbacks ∧
        callback ∈ callbacks ∧ callback.handle? = some handle) := by
  simp only [ObjectData.references, List.mem_append, mem_valueHandles, Table.mem_values_iff,
    List.mem_map, Option.mem_toList, List.mem_flatten, or_assoc]
  constructor
  · intro listed
    rcases listed with ⟨value, ⟨key, found⟩, points⟩ | owned |
      ⟨callback, ⟨callbacks, ⟨event, found⟩, member⟩, points⟩
    · exact Or.inl ⟨key, value, found, points⟩
    · exact Or.inr (Or.inl owned)
    · exact Or.inr (Or.inr ⟨event, callbacks, callback, found, member, points⟩)
  · intro referred
    rcases referred with ⟨key, value, found, points⟩ | owned |
      ⟨event, callbacks, callback, found, member, points⟩
    · exact Or.inl ⟨value, ⟨key, found⟩, points⟩
    · exact Or.inr (Or.inl owned)
    · exact Or.inr (Or.inr ⟨callback, ⟨callbacks, ⟨event, found⟩, member⟩, points⟩)

private theorem mem_context_references {data : Context} {handle : Handle} :
    handle ∈ data.references ↔
      (∃ above, data.parent? = some above ∧ above.handle = handle) ∨
      (∃ name binding, data.bindings.get? name = some binding ∧
        binding.value.handle? = some handle) := by
  simp only [Context.references, List.mem_append, mem_valueHandles, List.mem_map,
    Option.mem_toList, Table.mem_values_iff]
  constructor
  · intro listed
    rcases listed with above | ⟨value, ⟨binding, ⟨name, found⟩, rfl⟩, points⟩
    · exact Or.inl above
    · exact Or.inr ⟨name, binding, found, points⟩
  · intro referred
    rcases referred with above | ⟨name, binding, found, points⟩
    · exact Or.inl above
    · exact Or.inr ⟨_, ⟨binding, ⟨name, found⟩, rfl⟩, points⟩

/-- The collector gathers exactly the references. -/
theorem mem_edges_iff {space : Space} {source target : Handle} {payload : Payload}
    (held : space.get? source = some payload) :
    target ∈ edges space.wraps source payload ↔ space.Refers source target := by
  have split : target ∈ edges space.wraps source payload ↔ target ∈ payload.references ∨
      ∃ wrapping, space.wraps.get? source = some wrapping ∧
        ∃ value ∈ wrapping.captures, value.handle? = some target := by
    cases wrapped : space.wraps.get? source <;> simp [edges, wrapped, mem_valueHandles]
  rw [split]
  constructor
  · intro listed
    rcases listed with member | ⟨wrapping, wrapped, value, member, points⟩
    · cases payload with
      | array items =>
        obtain ⟨value, member, points⟩ := mem_valueHandles.mp member
        exact .element held (by simpa using member) points
      | object data =>
        rcases mem_object_references.mp member with ⟨key, value, found, points⟩ |
          ⟨context, owned, rfl⟩ | ⟨event, callbacks, callback, found, member, points⟩
        · exact .property held found points
        · exact .ownedContext held owned
        · exact .listener held found member points
      | function closure =>
        obtain rfl := List.mem_singleton.mp member
        exact .captured held
      | native callee =>
        obtain ⟨value, member, points⟩ := mem_valueHandles.mp member
        exact .nativeCapture held member points
      | context data =>
        rcases mem_context_references.mp member with ⟨above, below, rfl⟩ |
          ⟨name, binding, found, points⟩
        · exact .parent held below
        · exact .bound held found points
    · exact .hookCapture held wrapped member points
  · intro refers
    cases refers with
    | element held' member points =>
      cases held.symm.trans held'
      exact Or.inl (mem_valueHandles.mpr ⟨_, by simpa using member, points⟩)
    | property held' found points =>
      cases held.symm.trans held'
      exact Or.inl (mem_object_references.mpr (Or.inl ⟨_, _, found, points⟩))
    | ownedContext held' owned =>
      cases held.symm.trans held'
      exact Or.inl (mem_object_references.mpr (Or.inr (Or.inl ⟨_, owned, rfl⟩)))
    | listener held' found member points =>
      cases held.symm.trans held'
      exact Or.inl (mem_object_references.mpr
        (Or.inr (Or.inr ⟨_, _, _, found, member, points⟩)))
    | captured held' =>
      cases held.symm.trans held'
      exact Or.inl (List.mem_singleton.mpr rfl)
    | nativeCapture held' member points =>
      cases held.symm.trans held'
      exact Or.inl (mem_valueHandles.mpr ⟨_, member, points⟩)
    | parent held' below =>
      cases held.symm.trans held'
      exact Or.inl (mem_context_references.mpr (Or.inl ⟨_, below, rfl⟩))
    | bound held' found points =>
      cases held.symm.trans held'
      exact Or.inl (mem_context_references.mpr (Or.inr ⟨_, _, found, points⟩))
    | hookCapture held' wrapped member points =>
      exact Or.inr ⟨_, wrapped, _, member, points⟩

/-- The object that the handle was issued for is marked. -/
def IsMarked (slots : Array Slot) (handle : Handle) : Prop :=
  ∃ slot, slots[handle.index]? = some slot ∧ slot.generation = handle.generation ∧
    slot.marked = true

/-- The slots differ from those of the space in their marks only. -/
def SameContents (space : Space) (slots : Array Slot) : Prop :=
  ∀ index : Nat, (slots[index]?).map (fun slot => (slot.generation, slot.payload)) =
    (space.slots[index]?).map fun slot => (slot.generation, slot.payload)

/-- The invariant of the loop. What is marked or waits is reached, and whatever a root or a mark
leads to is marked or waits. -/
structure Marking (space : Space) (root : Handle → Prop) (slots : Array Slot)
    (work : List Handle) (count : Nat) : Prop where
  contents : SameContents space slots
  filled : ∀ slot ∈ slots, slot.marked = true → slot.payload.isSome = true
  reached : ∀ handle, IsMarked slots handle → Reached space root handle
  pending : ∀ handle ∈ work, space.contains handle = true → Reached space root handle
  rooted : ∀ handle, root handle → space.contains handle = true →
    IsMarked slots handle ∨ handle ∈ work
  closed : ∀ source target, IsMarked slots source → space.Refers source target →
    space.contains target = true → IsMarked slots target ∨ target ∈ work
  counted : count = slots.countP (·.marked)

theorem SameContents.get? {space : Space} {slots : Array Slot} (same : SameContents space slots)
    {handle : Handle} {payload : Payload} :
    space.get? handle = some payload ↔ ∃ slot, slots[handle.index]? = some slot ∧
      slot.generation = handle.generation ∧ slot.payload = some payload := by
  have here := same handle.index
  rw [get?_eq_some_iff]
  cases left : slots[handle.index]? <;> cases right : space.slots[handle.index]? <;>
    simp_all

theorem marking_start {space : Space} (tidy : space.Tidy) {root : Handle → Prop}
    {work : List Handle} (covered : ∀ handle, handle ∈ work ↔ root handle) :
    Marking space root space.slots work 0 := by
  have none : ∀ handle, ¬ IsMarked space.slots handle := by
    intro handle isMarked
    obtain ⟨slot, found, -, marked⟩ := isMarked
    simp [tidy.unmarked slot (Array.mem_of_getElem? found)] at marked
  refine ⟨fun _ => rfl, ?_, ?_, ?_, ?_, ?_, ?_⟩
  · intro slot member marked
    simp [tidy.unmarked slot member] at marked
  · intro handle marked
    exact absurd marked (none handle)
  · intro handle member live
    exact .start ((covered handle).mp member) live
  · intro handle rooted _
    exact Or.inr ((covered handle).mpr rooted)
  · intro source _ marked
    exact absurd marked (none source)
  · symm
    rw [Array.countP_eq_zero]
    intro slot member
    simp [tidy.unmarked slot member]

theorem Marking.skip {space : Space} {root : Handle → Prop} {slots : Array Slot}
    {handle : Handle} {rest : List Handle} {count : Nat}
    (inv : Marking space root slots (handle :: rest) count)
    (done : space.contains handle = true → IsMarked slots handle) :
    Marking space root slots rest count := by
  have settle : ∀ target, space.contains target = true →
      IsMarked slots target ∨ target ∈ handle :: rest → IsMarked slots target ∨ target ∈ rest := by
    intro target live either
    rcases either with marked | member
    · exact Or.inl marked
    · rcases List.mem_cons.mp member with rfl | member
      · exact Or.inl (done live)
      · exact Or.inr member
  refine ⟨inv.contents, inv.filled, inv.reached, ?_, ?_, ?_, inv.counted⟩
  · intro other member live
    exact inv.pending other (List.mem_cons_of_mem _ member) live
  · intro other rooted live
    exact settle other live (inv.rooted other rooted live)
  · intro source target marked refers live
    exact settle target live (inv.closed source target marked refers live)

private theorem isMarked_set {slots : Array Slot} {handle : Handle}
    (bound : handle.index < slots.size)
    (current : slots[handle.index].generation = handle.generation) {other : Handle} :
    IsMarked (slots.set handle.index { slots[handle.index] with marked := true }) other ↔
      other = handle ∨ IsMarked slots other := by
  by_cases same : other.index = handle.index
  · constructor
    · intro isMarked
      obtain ⟨slot, found, generation, -⟩ := isMarked
      rw [same, Array.getElem?_set_self] at found
      cases found
      left
      cases other
      cases handle
      simp_all
    · intro either
      rcases either with rfl | ⟨slot, found, generation, -⟩
      · exact ⟨_, Array.getElem?_set_self .., current, rfl⟩
      · rw [same, Array.getElem?_eq_getElem bound] at found
        cases found
        refine ⟨{ slots[handle.index] with marked := true }, ?_, generation, rfl⟩
        rw [same, Array.getElem?_set_self]
  · have apart : other ≠ handle := fun equal => same (equal ▸ rfl)
    simp only [IsMarked, Array.getElem?_set_ne bound (Ne.symm same), apart, false_or]

/-- Marking an object puts everything it refers to in the worklist. -/
theorem Marking.visit {space : Space} {root : Handle → Prop} {slots : Array Slot}
    {handle : Handle} {rest : List Handle} {count : Nat} {payload : Payload}
    (inv : Marking space root slots (handle :: rest) count)
    (bound : handle.index < slots.size) (held : slots[handle.index].payload = some payload)
    (fresh : slots[handle.index].marked = false)
    (current : slots[handle.index].generation = handle.generation) :
    Marking space root (slots.set handle.index { slots[handle.index] with marked := true })
      (edges space.wraps handle payload ++ rest) (count + 1) := by
  have live : space.get? handle = some payload :=
    inv.contents.get?.mpr ⟨_, Array.getElem?_eq_getElem bound, current, held⟩
  have here : Reached space root handle :=
    inv.pending handle (by simp) (by simp [contains, live])
  have settle : ∀ target, IsMarked slots target ∨ target ∈ handle :: rest →
      IsMarked (slots.set handle.index { slots[handle.index] with marked := true }) target ∨
        target ∈ edges space.wraps handle payload ++ rest := by
    intro target either
    rcases either with marked | member
    · exact Or.inl ((isMarked_set bound current).mpr (Or.inr marked))
    · rcases List.mem_cons.mp member with rfl | member
      · exact Or.inl ((isMarked_set bound current).mpr (Or.inl rfl))
      · exact Or.inr (List.mem_append_right _ member)
  refine ⟨?_, ?_, ?_, ?_, ?_, ?_, ?_⟩
  · intro index
    rw [← inv.contents index]
    by_cases same : handle.index = index
    · subst same
      simp [bound]
    · simp [Array.getElem?_set_ne bound same]
  · intro slot member marked
    rcases Array.mem_or_eq_of_mem_set member with member | rfl
    · exact inv.filled slot member marked
    · simp [held]
  · intro other marked
    rcases (isMarked_set bound current).mp marked with rfl | marked
    · exact here
    · exact inv.reached other marked
  · intro other member liveOther
    rcases List.mem_append.mp member with edge | member
    · exact .follow here ((mem_edges_iff live).mp edge) liveOther
    · exact inv.pending other (List.mem_cons_of_mem _ member) liveOther
  · intro other rooted liveOther
    exact settle other (inv.rooted other rooted liveOther)
  · intro source target marked refers liveTarget
    rcases (isMarked_set bound current).mp marked with rfl | marked
    · exact Or.inr (List.mem_append_left _ ((mem_edges_iff live).mpr refers))
    · exact settle target (inv.closed source target marked refers liveTarget)
  · rw [Array.countP_set, inv.counted]
    simp [fresh]

/-- The invariant holds when the loop stops, and then nothing waits any more. -/
theorem Marking.run {space : Space} {root : Handle → Prop} {slots : Array Slot}
    {work : List Handle} {count : Nat} (inv : Marking space root slots work count) :
    Marking space root (mark space.wraps slots work count).1 []
      (mark space.wraps slots work count).2 := by
  fun_induction mark space.wraps slots work count with
  | case1 slots count => exact inv
  | case2 slots count handle rest bound payload held fresh ih =>
    exact ih (inv.visit bound held fresh.1 fresh.2)
  | case3 slots count handle rest bound payload held passed ih =>
    refine ih (inv.skip fun live => ?_)
    obtain ⟨payload', found⟩ := Option.isSome_iff_exists.mp live
    obtain ⟨slot, at', current, -⟩ := inv.contents.get?.mp found
    rw [Array.getElem?_eq_getElem bound] at at'
    cases at'
    exact ⟨_, Array.getElem?_eq_getElem bound, current, by simp_all⟩
  | case4 slots count handle rest bound empty ih =>
    refine ih (inv.skip fun live => ?_)
    obtain ⟨payload', found⟩ := Option.isSome_iff_exists.mp live
    obtain ⟨slot, at', -, held⟩ := inv.contents.get?.mp found
    rw [Array.getElem?_eq_getElem bound] at at'
    cases at'
    simp [empty] at held
  | case5 slots count handle rest outside ih =>
    refine ih (inv.skip fun live => ?_)
    obtain ⟨payload', found⟩ := Option.isSome_iff_exists.mp live
    obtain ⟨slot, at', -⟩ := inv.contents.get?.mp found
    exact absurd (Array.getElem?_eq_some_iff.mp at').1 outside

/-- When nothing waits, the marks are exactly what the roots reach. -/
theorem Marking.marked_iff {space : Space} {root : Handle → Prop} {slots : Array Slot}
    {count : Nat} (inv : Marking space root slots [] count) {handle : Handle} :
    IsMarked slots handle ↔ Reached space root handle := by
  refine ⟨inv.reached handle, fun reached => ?_⟩
  induction reached with
  | start rooted live => exact (inv.rooted _ rooted live).resolve_right (by simp)
  | follow _ refers live marked =>
    exact (inv.closed _ _ marked refers live).resolve_right (by simp)

end Space

end ScriptEngine
