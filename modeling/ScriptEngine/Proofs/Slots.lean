import Mathlib.Data.List.Nodup
import Mathlib.Data.List.Perm.Subperm
import Mathlib.Data.List.ProdSigma
import ScriptEngine.Space

set_option autoImplicit false

namespace ScriptEngine

namespace Act

variable {S ε ε' α β : Type}

theorem bind_apply (first : Act S ε α) (next : α → Act S ε β) (state : S) :
    (first >>= next) state =
      match first state with
      | (.ok value, state) => next value state
      | (.error reason, state) => (.error reason, state) :=
  rfl

theorem bind_eq_ok {first : Act S ε α} {next : α → Act S ε β} {state last : S} {answer : β}
    (ended : (first >>= next) state = (.ok answer, last)) :
    ∃ value middle, first state = (.ok value, middle) ∧
      next value middle = (.ok answer, last) := by
  rw [bind_apply] at ended
  generalize first state = begun at ended
  rcases begun with ⟨reason | value, middle⟩
  · cases ended
  · exact ⟨value, middle, rfl, ended⟩

/-- However the computation ends, a property of the state is kept. -/
def Keeps (kept : S → Prop) (first : Act S ε α) : Prop :=
  ∀ state, kept state → kept (first state).2

theorem Keeps.pure {kept : S → Prop} (value : α) : Keeps kept (pure value : Act S ε α) :=
  fun _ holds => holds

theorem Keeps.throw {kept : S → Prop} (reason : ε) : Keeps kept (throw reason : Act S ε α) :=
  fun _ holds => holds

theorem Keeps.ask {kept : S → Prop} (question : S → Except ε α) : Keeps kept (ask question) :=
  fun _ holds => holds

theorem Keeps.modify {kept : S → Prop} {change : S → S}
    (preserved : ∀ state, kept state → kept (change state)) :
    Keeps kept (modify change : Act S ε PUnit) :=
  preserved

theorem Keeps.bind {kept : S → Prop} {first : Act S ε α} {next : α → Act S ε β}
    (before : Keeps kept first) (after : ∀ value, Keeps kept (next value)) :
    Keeps kept (first >>= next) := by
  intro state holds
  have reached := before state holds
  change kept (Act.bind first next state).2
  simp only [Act.bind]
  cases outcome : first state with
  | mk result later =>
    rw [outcome] at reached
    cases result with
    | ok value => exact after value later reached
    | error reason => exact reached

end Act

namespace Space

/-- The slots that hold an object. -/
def occupied (slots : Array Slot) : Nat := slots.countP (·.payload.isSome)

/-- No slot is marked, the free list names the empty slots once each, and the objects are
counted. -/
structure Tidy (space : Space) : Prop where
  unmarked : ∀ slot ∈ space.slots, slot.marked = false
  distinct : space.free.Nodup
  vacant : ∀ index, index ∈ space.free ↔
    ∃ slot, space.slots[index]? = some slot ∧ slot.payload = none
  counted : space.live = occupied space.slots

theorem tidy_empty : Tidy {} :=
  ⟨by simp, by simp, by simp, by simp [occupied]⟩

/-- Only the slots, the free list and the count matter to tidiness. -/
theorem Tidy.congr {space other : Space} (tidy : space.Tidy) (slots : other.slots = space.slots)
    (free : other.free = space.free) (live : other.live = space.live) : other.Tidy := by
  refine ⟨?_, ?_, ?_, ?_⟩
  · rw [slots]
    exact tidy.unmarked
  · rw [free]
    exact tidy.distinct
  · rw [slots, free]
    exact tidy.vacant
  · rw [slots, live]
    exact tidy.counted

theorem get?_eq_some_iff {space : Space} {handle : Handle} {payload : Payload} :
    space.get? handle = some payload ↔
      ∃ slot, space.slots[handle.index]? = some slot ∧
        slot.generation = handle.generation ∧ slot.payload = some payload := by
  unfold get?
  cases found : space.slots[handle.index]? with
  | none => simp
  | some slot =>
    by_cases current : slot.generation = handle.generation
    · simp [current]
    · simp [current]

theorem array_eq_ok_iff {space : Space} {handle : Handle} {items : Array Value} :
    space.array handle = .ok items ↔ space.get? handle = some (.array items) := by
  unfold Space.array Space.get
  cases space.get? handle with
  | none => simp
  | some payload => cases payload <;> simp

theorem objectData_eq_ok_iff {space : Space} {handle : Handle} {data : ObjectData} :
    space.objectData handle = .ok data ↔ space.get? handle = some (.object data) := by
  unfold Space.objectData Space.get
  cases space.get? handle with
  | none => simp
  | some payload => cases payload <;> simp

theorem context_eq_ok_iff {space : Space} {context : ContextRef} {data : Context} :
    space.context context = .ok data ↔ space.get? context.handle = some (.context data) := by
  unfold Space.context Space.get
  cases space.get? context.handle with
  | none => simp
  | some payload => cases payload <;> simp

/-- Of all handles of one slot only one can be live. -/
theorem eq_of_get?_of_index {space : Space} {first second : Handle} {payload other : Payload}
    (live : space.get? first = some payload) (alive : space.get? second = some other)
    (same : first.index = second.index) : first = second := by
  obtain ⟨slot, found, current, -⟩ := get?_eq_some_iff.mp live
  obtain ⟨slot', found', current', -⟩ := get?_eq_some_iff.mp alive
  rw [same, found', Option.some.injEq] at found
  subst found
  cases first
  cases second
  simp_all

theorem index_lt_of_get? {space : Space} {handle : Handle} {payload : Payload}
    (live : space.get? handle = some payload) : handle.index < space.slots.size := by
  obtain ⟨slot, found, -⟩ := get?_eq_some_iff.mp live
  exact (Array.getElem?_eq_some_iff.mp found).1

theorem length_le_size {space : Space} {handles : List Handle} (distinct : handles.Nodup)
    (live : ∀ handle ∈ handles, space.contains handle = true) :
    handles.length ≤ space.slots.size := by
  have indexes : (handles.map (·.index)).Nodup := by
    refine List.Nodup.map_on ?_ distinct
    intro first member second member' same
    obtain ⟨payload, held⟩ := Option.isSome_iff_exists.mp (live first member)
    obtain ⟨other, held'⟩ := Option.isSome_iff_exists.mp (live second member')
    exact eq_of_get?_of_index held held' same
  have bounded : handles.map (·.index) ⊆ List.range space.slots.size := by
    intro index member
    obtain ⟨handle, listed, rfl⟩ := List.mem_map.mp member
    obtain ⟨payload, held⟩ := Option.isSome_iff_exists.mp (live handle listed)
    exact List.mem_range.mpr (index_lt_of_get? held)
  have shorter := (List.subperm_of_subset indexes bounded).length_le
  simpa using shorter

theorem length_pairs_le_size {space : Space} {pairs : List (Handle × Handle)}
    (distinct : pairs.Nodup)
    (live : ∀ pair ∈ pairs, space.contains pair.1 = true ∧ space.contains pair.2 = true) :
    pairs.length ≤ space.slots.size * space.slots.size := by
  have indexes : (pairs.map fun pair => (pair.1.index, pair.2.index)).Nodup := by
    refine List.Nodup.map_on ?_ distinct
    intro first member second member' same
    obtain ⟨payload, held⟩ := Option.isSome_iff_exists.mp (live first member).1
    obtain ⟨payload', held'⟩ := Option.isSome_iff_exists.mp (live first member).2
    obtain ⟨other, found⟩ := Option.isSome_iff_exists.mp (live second member').1
    obtain ⟨other', found'⟩ := Option.isSome_iff_exists.mp (live second member').2
    rw [Prod.mk.injEq] at same
    exact Prod.ext (eq_of_get?_of_index held found same.1) (eq_of_get?_of_index held' found' same.2)
  have bounded : (pairs.map fun pair => (pair.1.index, pair.2.index)) ⊆
      List.range space.slots.size ×ˢ List.range space.slots.size := by
    intro pair member
    obtain ⟨⟨first, second⟩, listed, rfl⟩ := List.mem_map.mp member
    obtain ⟨payload, held⟩ := Option.isSome_iff_exists.mp (live _ listed).1
    obtain ⟨other, found⟩ := Option.isSome_iff_exists.mp (live _ listed).2
    exact List.mem_product.mpr ⟨List.mem_range.mpr (index_lt_of_get? held),
      List.mem_range.mpr (index_lt_of_get? found)⟩
  have shorter := (List.subperm_of_subset indexes bounded).length_le
  simpa [List.length_product] using shorter

/-- What a space remembers besides its objects. -/
structure SameTies (before after : Space) : Prop where
  pins : after.pins = before.pins
  providers : after.providers = before.providers
  wraps : after.wraps = before.wraps
  executions : after.executions = before.executions
  collectRequested : after.collectRequested = before.collectRequested

/-- One handle stands for a payload now and all others for what they stood for. -/
structure Placed (before : Space) (handle : Handle) (payload : Payload) (after : Space) :
    Prop where
  here : after.get? handle = some payload
  elsewhere : ∀ other, other ≠ handle → after.get? other = before.get? other
  ties : SameTies before after
  grown : before.slots.size ≤ after.slots.size

theorem occupied_congr {slots others : Array Slot}
    (same : ∀ index : Nat, (slots[index]?).map (·.payload.isSome) =
      (others[index]?).map (·.payload.isSome)) : occupied slots = occupied others := by
  have equal : slots.map (·.payload.isSome) = others.map (·.payload.isSome) := by
    apply Array.ext_getElem?
    intro index
    simpa only [Array.getElem?_map] using same index
  have counted : ∀ row : Array Slot,
      occupied row = (row.map (·.payload.isSome)).countP id := by
    intro row
    rw [Array.countP_map]
    rfl
  rw [counted, counted, equal]

private theorem occupied_fill {slots : Array Slot} {index : Nat} {slot filled : Slot}
    (found : slots[index]? = some slot) (empty : slot.payload = none)
    (full : filled.payload.isSome = true) :
    occupied (slots.setIfInBounds index filled) = occupied slots + 1 := by
  obtain ⟨bound, rfl⟩ := Array.getElem?_eq_some_iff.mp found
  rw [Array.setIfInBounds_def, dif_pos bound]
  unfold occupied
  rw [Array.countP_set]
  simp [empty, full]

/-- Allocation takes a handle that was not live and changes no other, or fails for want of
slots and changes nothing. -/
theorem Tidy.allocate {space : Space} (tidy : space.Tidy) (payload : Payload) :
    (∃ handle after, Space.allocate payload space = (.ok handle, after) ∧ after.Tidy ∧
      space.get? handle = none ∧ Placed space handle payload after) ∨
    (Space.allocate payload space = (.error .spaceExhausted, space) ∧
      capacity ≤ space.slots.size) := by
  cases list : space.free with
  | cons index rest =>
    obtain ⟨slot, found, empty⟩ := (tidy.vacant index).mp (by simp [list])
    have bound : index < space.slots.size := (Array.getElem?_eq_some_iff.mp found).1
    obtain ⟨absent, distinct⟩ := List.nodup_cons.mp (list ▸ tidy.distinct)
    refine Or.inl ⟨⟨index, slot.generation⟩, { space with
      slots := space.slots.setIfInBounds index ⟨slot.generation, some payload, false⟩
      free := rest
      allocated := space.allocated + 1
      live := space.live + 1 }, ?_, ?_, ?_, ?_⟩
    · simp [Space.allocate, list, found]
    · refine ⟨?_, distinct, ?_, ?_⟩
      · intro other member
        rcases Array.mem_or_eq_of_mem_setIfInBounds member with member | rfl
        · exact tidy.unmarked other member
        · rfl
      · intro other
        have old := tidy.vacant other
        simp only [list, List.mem_cons] at old
        by_cases same : other = index
        · subst same
          simp [absent, Array.getElem?_setIfInBounds_self_of_lt bound]
        · simpa [same, Ne.symm same] using old
      · simp only [tidy.counted]
        exact (occupied_fill found empty rfl).symm
    · simp [get?, found, empty]
    · refine ⟨?_, ?_, ⟨rfl, rfl, rfl, rfl, rfl⟩, ?_⟩
      · simp [get?, Array.getElem?_setIfInBounds_self_of_lt bound]
      · intro other apart
        by_cases same : other.index = index
        · have generation : other.generation ≠ slot.generation := by
            intro equal
            exact apart (by cases other; simp_all)
          simp [get?, same, found, Array.getElem?_setIfInBounds_self_of_lt bound,
            Ne.symm generation]
        · simp [get?, Ne.symm same]
      · simp
  | nil =>
    by_cases room : space.slots.size < capacity
    · refine Or.inl ⟨⟨space.slots.size, 0⟩, { space with
        slots := space.slots.push ⟨0, some payload, false⟩
        allocated := space.allocated + 1
        live := space.live + 1 }, ?_, ?_, ?_, ?_⟩
      · simp [Space.allocate, list, room]
      · refine ⟨?_, tidy.distinct, ?_, ?_⟩
        · intro other member
          rcases Array.mem_push.mp member with member | rfl
          · exact tidy.unmarked other member
          · rfl
        · intro other
          simp only [Array.getElem?_push]
          split
          · rename_i last
            simp [list]
          · exact tidy.vacant other
        · simp [tidy.counted, occupied]
      · simp [get?]
      · refine ⟨?_, ?_, ⟨rfl, rfl, rfl, rfl, rfl⟩, ?_⟩
        · simp [get?]
        · intro other apart
          by_cases same : other.index = space.slots.size
          · have generation : other.generation ≠ 0 := by
              intro equal
              exact apart (by cases other; simp_all)
            simp [get?, same, Ne.symm generation]
          · simp [get?, Array.getElem?_push, same]
        · simp
    · refine Or.inr ⟨?_, by omega⟩
      simp [Space.allocate, list, room]

theorem Tidy.allocateAs {α : Type} {space : Space} (tidy : space.Tidy) (payload : Payload)
    (wrap : Handle → α) :
    (∃ handle after, (Space.allocate payload >>= fun handle => pure (wrap handle)) space =
        (.ok (wrap handle), after) ∧ after.Tidy ∧
      space.get? handle = none ∧ Placed space handle payload after) ∨
    ((Space.allocate payload >>= fun handle => pure (wrap handle)) space =
        (.error .spaceExhausted, space) ∧ capacity ≤ space.slots.size) := by
  rw [Act.bind_apply]
  rcases tidy.allocate payload with ⟨handle, after, outcome, added⟩ | ⟨outcome, full⟩
  · rw [outcome]
    exact Or.inl ⟨handle, after, rfl, added⟩
  · rw [outcome]
    exact Or.inr ⟨rfl, full⟩

private theorem getElem?_refilled {slots : Array Slot} {index : Nat} {slot : Slot}
    (payload : Payload) (found : slots[index]? = some slot) (other : Nat) :
    (slots.modify index fun slot => { slot with payload := some payload })[other]? =
      if index = other then some { slot with payload := some payload } else slots[other]? := by
  rw [Array.getElem?_modify]
  split
  · rename_i same
    rw [← same, found]
    rfl
  · rfl

/-- Storing under a live handle replaces what it stands for. -/
theorem store_live {space : Space} {handle : Handle} (payload : Payload)
    (live : space.contains handle = true) :
    ∃ after, Space.store handle payload space = (.ok (), after) ∧
      Placed space handle payload after := by
  obtain ⟨old, held⟩ := Option.isSome_iff_exists.mp live
  obtain ⟨slot, found, current, full⟩ := get?_eq_some_iff.mp held
  refine ⟨{ space with slots := space.slots.modify handle.index fun slot =>
      { slot with payload := some payload } }, by simp [Space.store, live], ?_, ?_,
    ⟨rfl, rfl, rfl, rfl, rfl⟩, by simp⟩
  · simp [get?, getElem?_refilled payload found, current]
  · intro other apart
    by_cases same : handle.index = other.index
    · have generation : slot.generation ≠ other.generation := by
        intro equal
        exact apart (by cases other; cases handle; simp_all)
      simp [get?, getElem?_refilled payload found, ← same, found, generation]
    · simp [get?, getElem?_refilled payload found, same]

theorem Tidy.store {space : Space} (tidy : space.Tidy) {handle : Handle} (payload : Payload)
    (live : space.contains handle = true) :
    ∃ after, Space.store handle payload space = (.ok (), after) ∧ after.Tidy ∧
      Placed space handle payload after := by
  obtain ⟨after, stored, placed⟩ := store_live payload live
  refine ⟨after, stored, ?_, placed⟩
  obtain ⟨old, held⟩ := Option.isSome_iff_exists.mp live
  obtain ⟨slot, found, current, full⟩ := get?_eq_some_iff.mp held
  obtain rfl : { space with slots := space.slots.modify handle.index fun slot =>
      { slot with payload := some payload } } = after := by
    simpa [Space.store, live] using stored
  refine ⟨?_, tidy.distinct, ?_, ?_⟩
  · intro other member
    obtain ⟨index, found'⟩ := Array.getElem?_of_mem member
    rw [getElem?_refilled payload found] at found'
    split at found'
    · cases found'
      exact tidy.unmarked slot (Array.mem_of_getElem? found)
    · exact tidy.unmarked other (Array.mem_of_getElem? found')
  · intro index
    rw [tidy.vacant index, getElem?_refilled payload found]
    split
    · rename_i same
      simp [← same, found, full]
    · rfl
  · refine tidy.counted.trans (occupied_congr fun index => ?_)
    rw [getElem?_refilled payload found]
    split
    · rename_i same
      simp [← same, found, full]
    · rfl

theorem store_stale {space : Space} {handle : Handle} {payload : Payload}
    (stale : space.contains handle = false) :
    Space.store handle payload space = (.error (.staleHandle handle), space) := by
  simp [Space.store, stale]

theorem keeps_allocate (payload : Payload) : Act.Keeps Tidy (Space.allocate payload) := by
  intro space tidy
  rcases tidy.allocate payload with ⟨handle, after, outcome, tidyAfter, -⟩ | ⟨outcome, -⟩
  · rw [outcome]
    exact tidyAfter
  · rw [outcome]
    exact tidy

theorem keeps_store (handle : Handle) (payload : Payload) :
    Act.Keeps Tidy (Space.store handle payload) := by
  intro space tidy
  by_cases live : space.contains handle = true
  · obtain ⟨after, outcome, tidyAfter, -⟩ := tidy.store payload live
    rw [outcome]
    exact tidyAfter
  · rw [store_stale (by simpa using live)]
    exact tidy

section Updates

variable {space : Space} {handle : Handle}

theorem contains_of_get? {payload : Payload} (held : space.get? handle = some payload) :
    space.contains handle = true := by
  simp [contains, held]

theorem updateArray_held {items : Array Value} (change : Array Value → Array Value)
    (held : space.get? handle = some (.array items)) :
    ∃ after, Space.updateArray handle change space = (.ok (), after) ∧
      Placed space handle (.array (change items)) after := by
  obtain ⟨after, stored, placed⟩ := store_live (.array (change items)) (contains_of_get? held)
  refine ⟨after, ?_, placed⟩
  simp only [updateArray, Act.bind_apply, Act.ask, array_eq_ok_iff.mpr held, stored]

theorem updateObject_held {data : ObjectData} (change : ObjectData → ObjectData)
    (held : space.get? handle = some (.object data)) :
    ∃ after, Space.updateObject handle change space = (.ok (), after) ∧
      Placed space handle (.object (change data)) after := by
  obtain ⟨after, stored, placed⟩ := store_live (.object (change data)) (contains_of_get? held)
  refine ⟨after, ?_, placed⟩
  simp only [updateObject, Act.bind_apply, Act.ask, objectData_eq_ok_iff.mpr held, stored]

theorem updateContext_held {context : ContextRef} {data : Context} (change : Context → Context)
    (held : space.get? context.handle = some (.context data)) :
    ∃ after, Space.updateContext context change space = (.ok (), after) ∧
      Placed space context.handle (.context (change data)) after := by
  obtain ⟨after, stored, placed⟩ := store_live (.context (change data)) (contains_of_get? held)
  refine ⟨after, ?_, placed⟩
  simp only [updateContext, Act.bind_apply, Act.ask, context_eq_ok_iff.mpr held, stored]

end Updates

end Space

end ScriptEngine
