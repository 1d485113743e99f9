import ScriptEngine.Proofs.UndisturbedObjects

set_option autoImplicit false

namespace ScriptEngine

/-- A pin that is made, or one that is taken back. -/
inductive PinChange where
  | made (handle : Handle)
  | undone (handle : Handle)

/-- The pins of a handle that are left. Without a pin there is none to be taken back. -/
def PinChange.left (handle : Handle) (count : Nat) : PinChange → Nat
  | .made other => if other = handle then count + 1 else count
  | .undone other => if other = handle then count - 1 else count

/-- How many pins of a handle have been made and not taken back, the oldest change first. -/
def outstanding (handle : Handle) (changes : List PinChange) : Nat :=
  changes.foldl (PinChange.left handle) 0

/-- The pins that an action makes and takes back. A new global context is pinned. -/
def SpaceAction.pinChanges (space : Space) {α : Type} : SpaceAction α → List PinChange
  | .pin handle => [.made handle]
  | .unpin handle => [.undone handle]
  | .releaseGlobal context => [.undone context.handle]
  | .newGlobal path source separator =>
    match ((SpaceAction.newGlobal path source separator).run space).1 with
    | .ok context => [.made context.handle]
    | .error _ => []
  | _ => []

namespace Space

variable {α : Type} {space before after : Space} {handle : Handle}

/-- The pins of a handle that the table counts. -/
def pinCount (space : Space) (handle : Handle) : Nat := (space.pins.get? handle).getD 0

/-- The table has no entry for a handle that is not pinned. -/
def NoSpentPin (space : Space) : Prop := ∀ handle, space.pins.get? handle ≠ some 0

/-- The table has counted these changes. -/
structure Counts (before : Space) (changes : List PinChange) (after : Space) : Prop where
  counted : ∀ handle, after.pinCount handle =
    changes.foldl (PinChange.left handle) (before.pinCount handle)
  unspent : before.NoSpentPin → after.NoSpentPin

theorem Counts.of_pins (same : after.pins = before.pins) : Counts before [] after := by
  refine ⟨fun handle => ?_, fun unspent handle => ?_⟩
  · rw [List.foldl_nil, pinCount, pinCount, same]
  · rw [same]
    exact unspent handle

theorem counts_pin (space : Space) (handle : Handle) :
    Counts space [.made handle] (space.pin handle) := by
  refine ⟨fun other => ?_, fun unspent other => ?_⟩
  · by_cases same : handle = other
    · simp [pinCount, Space.pin, PinChange.left, same]
    · simp [pinCount, Space.pin, PinChange.left, Table.get?_insert, same, Ne.symm same]
  · simp only [Space.pin, Table.get?_insert]
    split
    · simp
    · exact unspent other

theorem counts_unpin (space : Space) (handle : Handle) :
    Counts space [.undone handle] (space.unpin handle) := by
  unfold unpin
  cases pinned : space.pins.get? handle with
  | none =>
    refine ⟨fun other => ?_, id⟩
    by_cases same : handle = other
    · simp [PinChange.left, pinCount, ← same, pinned]
    · simp [PinChange.left, same]
  | some count =>
    by_cases last : count ≤ 1
    · simp only [if_pos last]
      refine ⟨fun other => ?_, fun unspent other => ?_⟩
      · by_cases same : handle = other
        · simp [pinCount, PinChange.left, Table.get?_erase, ← same, pinned]
          omega
        · simp [pinCount, PinChange.left, Table.get?_erase, same, Ne.symm same]
      · rw [Table.get?_erase]
        split
        · simp
        · exact unspent other
    · simp only [if_neg last]
      refine ⟨fun other => ?_, fun unspent other => ?_⟩
      · by_cases same : handle = other
        · simp [pinCount, PinChange.left, ← same, pinned]
        · simp [pinCount, PinChange.left, Table.get?_insert, same, Ne.symm same]
      · rw [Table.get?_insert]
        split
        · simp
          omega
        · exact unspent other

theorem Edits.counts {operation : SpaceM α} (edits : Edits operation) (space : Space) :
    Counts space [] (operation space).2 := by
  have keeps : Act.Keeps (fun other : Space => other.pins = space.pins) operation :=
    edits.keeps fun edit same => edit.sameTies.pins.trans same
  exact .of_pins (keeps space rfl)

theorem counts_allocate (payload : Payload) (space : Space) :
    Counts space [] (Space.allocate payload space).2 :=
  .of_pins (sameTies_allocate payload space (.refl space)).pins

theorem counts_newGlobal (path source : String) (separator : Char) (space : Space) :
    Counts space ((SpaceAction.newGlobal path source separator).pinChanges space)
      (newGlobal path source separator space).2 := by
  have unpinned := counts_allocate
    (.context ⟨.global (.ofPath path separator) (sourceLines source), ∅⟩) space
  simp only [SpaceAction.pinChanges, SpaceAction.run, newGlobal, allocateContext, Act.bind_apply]
  generalize Space.allocate (.context ⟨.global (.ofPath path separator) (sourceLines source), ∅⟩)
    space = made at unpinned ⊢
  rcases made with ⟨fault | handle, opened⟩
  · exact unpinned
  · have pinned := counts_pin opened handle
    refine ⟨fun other => (pinned.counted other).trans ?_, fun unspent => ?_⟩
    · exact congrArg (PinChange.left other · (.made handle)) (unpinned.counted other)
    · exact pinned.unspent (unpinned.unspent unspent)

theorem pins_collect (space : Space) (extra : List Handle) :
    (space.collect extra).2.pins = space.pins := by
  unfold collect
  split <;> rfl

theorem pins_wrapObject (object : Value) (host : Nat) (setter : Option Nat)
    (captures : List Value) (space : Space) :
    (wrapObject object host setter captures space).2.pins = space.pins := by
  have keeps : Act.Keeps (fun other => other.pins = space.pins)
      (wrapObject object host setter captures) := by
    refine (Act.Keeps.ask _).bind fun handle => (Act.Keeps.ask _).bind fun existing => ?_
    cases existing with
    | some existing => exact Act.Keeps.throw _
    | none => exact Act.Keeps.modify fun _ => id
  exact keeps space rfl

theorem pins_unlink (object : Value) (space : Space) :
    (unlink object space).2.pins = space.pins := by
  have keeps : Act.Keeps (fun other => other.pins = space.pins) (unlink object) := by
    refine (Act.Keeps.ask _).bind fun _ => (Act.Keeps.ask _).bind fun _ => ?_
    refine (Act.Keeps.modify fun _ same => ?_).bind fun _ => Act.Keeps.pure _
    exact same
  exact keeps space rfl

/-- The table counts what an action does to the pins. -/
theorem counts_run (action : SpaceAction α) (space : Space) :
    Counts space (action.pinChanges space) (action.run space).2 := by
  cases action with
  | pin handle => exact counts_pin space handle
  | unpin handle => exact counts_unpin space handle
  | releaseGlobal context => exact counts_unpin space context.handle
  | newGlobal path source separator => exact counts_newGlobal path source separator space
  | collect extra => exact .of_pins (pins_collect space extra)
  | wrapObject object host setter captures =>
    exact .of_pins (pins_wrapObject object host setter captures space)
  | unlink object => exact .of_pins (pins_unlink object space)
  | addProvider | setProvider | dropProvider => exact .of_pins rfl
  | allocateArray items => exact (edits_allocateArray items).counts space
  | allocateObject data => exact (edits_allocateObject data).counts space
  | allocateFunction closure => exact (edits_allocateFunction closure).counts space
  | allocateNative callee => exact (edits_allocateNative callee).counts space
  | updateArray array change => exact (edits_updateArray array change).counts space
  | fork parent site => exact (edits_fork parent site).counts space
  | define context name value mutability =>
    exact (edits_define context name value mutability).counts space
  | assign context name value => exact (edits_assign context name value).counts space
  | addSourceLine context line => exact (edits_updateLines context _).counts space
  | addSourceLines context lines => exact (edits_updateLines context _).counts space
  | putProperty object key value => exact (edits_putProperty object key value).counts space
  | assignProperty object key value => exact (edits_assignProperty object key value).counts space
  | removeProperty object key => exact (edits_removeProperty object key).counts space
  | addListener object event callback =>
    exact (edits_addListener object event callback).counts space
  | removeListeners object event => exact (edits_removeListeners object event).counts space

/-- Where operations have led to from the empty space, and the pins that they have made and taken
back, the oldest first. -/
inductive PinHistory : List PinChange → Space → Prop where
  | start : PinHistory [] {}
  | allocate {changes : List PinChange} {space : Space} (past : PinHistory changes space)
      (payload : Payload) : PinHistory changes (Space.allocate payload space).2
  | act {changes : List PinChange} {space : Space} {α : Type} (past : PinHistory changes space)
      (action : SpaceAction α) :
      PinHistory (changes ++ action.pinChanges space) (action.run space).2
  | write {changes : List PinChange} {space : Space} (past : PinHistory changes space)
      (handle : Handle) (payload : Payload) : PinHistory changes (store handle payload space).2
  | enter {changes : List PinChange} {space : Space} (past : PinHistory changes space) :
      PinHistory changes space.enterExecution
  | leave {changes : List PinChange} {space : Space} (past : PinHistory changes space) :
      PinHistory changes space.leaveExecution

/-- The records of a space agree with each other and with what was done to its pins. -/
structure Agrees (changes : List PinChange) (space : Space) : Prop where
  tidy : space.Tidy
  counted : ∀ handle, space.pinCount handle = outstanding handle changes
  unspent : space.NoSpentPin

theorem Agrees.counts {changes more : List PinChange} (agrees : Agrees changes before)
    (counts : Counts before more after) (tidy : after.Tidy) : Agrees (changes ++ more) after where
  tidy := tidy
  counted handle := by
    rw [counts.counted, agrees.counted, outstanding, outstanding, List.foldl_append]
  unspent := counts.unspent agrees.unspent

theorem PinHistory.agrees {changes : List PinChange} (past : PinHistory changes space) :
    Agrees changes space := by
  have unpinned : ∀ {changes : List PinChange} {before after : Space}, Agrees changes before →
      after.pins = before.pins → after.Tidy → Agrees changes after := by
    intro changes before after agrees same tidy
    simpa using agrees.counts (.of_pins same) tidy
  induction past with
  | start => exact ⟨tidy_empty, fun _ => rfl, nofun⟩
  | @allocate _ space _ payload agrees =>
    exact unpinned agrees (sameTies_allocate payload space (.refl space)).pins
      (keeps_allocate payload space agrees.tidy)
  | @act _ space _ _ action agrees =>
    exact agrees.counts (counts_run action space) (keeps_run action space agrees.tidy)
  | @write _ space _ handle payload agrees =>
    exact unpinned agrees (sameTies_store handle payload space (.refl space)).pins
      (keeps_store handle payload space agrees.tidy)
  | enter _ agrees | leave _ agrees =>
    exact unpinned agrees rfl (agrees.tidy.congr rfl rfl rfl)

/-- An allocation takes an empty slot and a handle that no live object has, and every live object
stays as it is. It fails only if there is no slot left to be made. -/
def AllocatesApart (payload : Payload) (space : Space) : Prop :=
  (∃ handle after, Space.allocate payload space = (.ok handle, after) ∧
    (∀ slot, space.slots[handle.index]? = some slot → slot.payload = none) ∧
    after.get? handle = some payload ∧
    ∀ other, space.contains other = true → other ≠ handle ∧ after.get? other = space.get? other) ∨
  (Space.allocate payload space = (.error .spaceExhausted, space) ∧ capacity ≤ space.slots.size)

theorem Tidy.allocatesApart (tidy : space.Tidy) (payload : Payload) :
    AllocatesApart payload space := by
  rcases tidy.allocate payload with ⟨handle, after, made, -, vacant, placed⟩ | full
  · have apart : ∀ other, space.contains other = true → other ≠ handle := by
      rintro other live rfl
      simp [contains, vacant] at live
    refine .inl ⟨handle, after, made, fun slot found => ?_, placed.here, fun other live =>
      ⟨apart other live, placed.elsewhere other (apart other live)⟩⟩
    -- What the slot held would be live under its own handle, and would share it with the new one.
    rw [Option.eq_none_iff_forall_ne_some]
    intro old full
    have held : space.get? ⟨handle.index, slot.generation⟩ = some old :=
      get?_eq_some_iff.mpr ⟨slot, found, rfl, full⟩
    have other := apart _ (contains_of_get? held)
    exact other (eq_of_get?_of_index ((placed.elsewhere _ other).trans held) placed.here rfl)
  · exact .inr full

/-- After every history of operations no slot is marked, the free list names each slot without an
object once and no other, the objects are counted, every entry of the table of pins is at least
one and says how many pins of its handle have been made and not taken back, and what has none has
no entry. Hence what is allocated never takes the place or the handle of what is live. -/
theorem slots_and_pins_agree {changes : List PinChange} (past : PinHistory changes space) :
    (∀ slot ∈ space.slots, slot.marked = false) ∧
    space.free.Nodup ∧
    (∀ index, index ∈ space.free ↔
      ∃ slot, space.slots[index]? = some slot ∧ slot.payload = none) ∧
    space.live = space.slots.countP (·.payload.isSome) ∧
    (∀ handle count, space.pins.get? handle = some count ↔
      1 ≤ count ∧ count = outstanding handle changes) ∧
    ∀ payload, AllocatesApart payload space := by
  obtain ⟨tidy, counted, unspent⟩ := past.agrees
  refine ⟨tidy.unmarked, tidy.distinct, tidy.vacant, tidy.counted, fun handle count => ?_,
    tidy.allocatesApart⟩
  have same := counted handle
  have positive := unspent handle
  unfold pinCount at same
  cases entry : space.pins.get? handle with
  | none =>
    rw [entry] at same
    refine iff_of_false nofun fun ⟨least, left⟩ => ?_
    simp at same
    omega
  | some held =>
    rw [entry] at same positive
    simp at same positive ⊢
    omega

/-- An array that is pinned twice and unpinned once, and another that is unpinned without a pin and
reclaimed. -/
private def pruned : Space :=
  let first : Space := ((SpaceAction.allocateArray #[]).run {}).2
  let second := ((SpaceAction.allocateArray #[]).run first).2
  let pinned := ((SpaceAction.pin ⟨0, 0⟩).run ((SpaceAction.pin ⟨0, 0⟩).run second).2).2
  let unpinned := ((SpaceAction.unpin ⟨1, 0⟩).run ((SpaceAction.unpin ⟨0, 0⟩).run pinned).2).2
  ((SpaceAction.collect []).run unpinned).2

/-- One pin of the first array is left, and the next allocation takes the slot of the second. -/
theorem pruned_agrees :
    outstanding ⟨0, 0⟩ [.made ⟨0, 0⟩, .made ⟨0, 0⟩, .undone ⟨0, 0⟩, .undone ⟨1, 0⟩] = 1 ∧
    PinHistory [.made ⟨0, 0⟩, .made ⟨0, 0⟩, .undone ⟨0, 0⟩, .undone ⟨1, 0⟩] pruned ∧
    pruned.pins.get? ⟨0, 0⟩ = some 1 ∧ pruned.pins.get? ⟨1, 0⟩ = none ∧ pruned.free = [1] ∧
    pruned.live = 1 ∧ (Space.allocate (.array #[]) pruned).1 = .ok ⟨1, 1⟩ ∧
    AllocatesApart (.array #[]) pruned := by
  have past : PinHistory [.made ⟨0, 0⟩, .made ⟨0, 0⟩, .undone ⟨0, 0⟩, .undone ⟨1, 0⟩] pruned :=
    ((((((PinHistory.start.act (.allocateArray #[])).act (.allocateArray #[])).act
      (.pin ⟨0, 0⟩)).act (.pin ⟨0, 0⟩)).act (.unpin ⟨0, 0⟩)).act (.unpin ⟨1, 0⟩)).act
      (.collect [])
  obtain ⟨-, -, -, -, pins, apart⟩ := slots_and_pins_agree past
  refine ⟨rfl, past, (pins _ _).mpr ⟨by decide, rfl⟩, ?_, ?_, ?_, ?_, apart _⟩
  all_goals decide +kernel

end Space

end ScriptEngine
