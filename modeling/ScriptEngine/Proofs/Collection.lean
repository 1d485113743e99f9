import Mathlib.Data.List.Induction
import Mathlib.Logic.Relation
import ScriptEngine.Proofs.Marking
import ScriptEngine.Space.Action

set_option autoImplicit false

namespace ScriptEngine

namespace Space

private theorem length_filter_range (slots : List Slot) (test : Slot → Bool) :
    ((List.range slots.length).filter fun index =>
      ((slots[index]?).map test).getD false).length = slots.countP test := by
  induction slots using List.reverseRecOn with
  | nil => rfl
  | append_singleton front last ih =>
    have inside : (List.range front.length).filter (fun index =>
        (((front ++ [last])[index]?).map test).getD false) =
        (List.range front.length).filter fun index =>
          ((front[index]?).map test).getD false := by
      apply List.filter_congr
      intro index member
      rw [List.getElem?_append_left (List.mem_range.mp member)]
    rw [List.length_append, List.length_singleton, List.range_succ, List.filter_append,
      List.length_append, inside, ih, List.countP_append]
    by_cases last' : test last = true <;> simp [last']

private theorem length_unmarked (slots : Array Slot) :
    (unmarked slots).length = slots.countP Slot.isUnmarked := by
  rw [← Array.countP_toList]
  simpa [unmarked] using length_filter_range slots.toList Slot.isUnmarked

private theorem mem_unmarked_iff {slots : Array Slot} {index : Nat} :
    index ∈ unmarked slots ↔
      ∃ slot, slots[index]? = some slot ∧ slot.marked = false ∧ slot.payload.isSome = true := by
  simp only [unmarked, List.mem_filter, List.mem_range]
  constructor
  · intro listed
    obtain ⟨bound, test⟩ := listed
    refine ⟨slots[index], Array.getElem?_eq_getElem bound, ?_⟩
    simpa [Array.getElem?_eq_getElem bound, Slot.isUnmarked] using test
  · intro unreached
    obtain ⟨slot, found, fresh, full⟩ := unreached
    refine ⟨(Array.getElem?_eq_some_iff.mp found).1, ?_⟩
    simp [found, Slot.isUnmarked, fresh, full]

/-- Every object is either marked or reclaimed. -/
private theorem countP_marked_add {slots : Array Slot}
    (filled : ∀ slot ∈ slots, slot.marked = true → slot.payload.isSome = true) :
    slots.countP (·.marked) + slots.countP Slot.isUnmarked = occupied slots := by
  have marked : slots.countP (·.marked) =
      slots.countP fun slot => slot.payload.isSome && slot.marked := by
    apply Array.countP_congr
    intro slot member
    by_cases mark : slot.marked = true
    · simp [mark, filled slot member mark]
    · simp [mark]
  have fresh : slots.countP Slot.isUnmarked =
      slots.countP fun slot => slot.payload.isSome && !slot.marked := by
    apply Array.countP_congr
    intro slot _
    simp [Slot.isUnmarked, and_comm]
  have split : ∀ row : List Slot,
      row.countP (fun slot => slot.payload.isSome && slot.marked) +
        row.countP (fun slot => slot.payload.isSome && !slot.marked) =
      row.countP (·.payload.isSome) := by
    intro row
    induction row with
    | nil => rfl
    | cons slot rest ih =>
      cases held : slot.payload <;> cases mark : slot.marked <;>
        simp [held, mark] <;> omega
  rw [marked, fresh, occupied, ← Array.countP_toList, ← Array.countP_toList,
    ← Array.countP_toList, split]

private theorem occupied_swept {slots : Array Slot}
    (filled : ∀ slot ∈ slots, slot.marked = true → slot.payload.isSome = true) :
    occupied (slots.map Slot.swept) = slots.countP (·.marked) := by
  rw [occupied, Array.countP_map]
  apply Array.countP_congr
  intro slot member
  have full := filled slot member
  cases held : slot.payload <;> cases mark : slot.marked <;> simp_all [Slot.swept]

private theorem get?_foldl_erase (slots : Array Slot) (garbage : List Nat)
    (wraps : Table Handle Wrapping) (handle : Handle) :
    (garbage.foldl (fun wraps index => wraps.erase (issued slots index)) wraps).get? handle =
      if handle ∈ garbage.map (issued slots) then none else wraps.get? handle := by
  induction garbage generalizing wraps with
  | nil => simp
  | cons index rest ih =>
    rw [List.foldl_cons, ih, Table.get?_erase]
    by_cases here : handle = issued slots index
    · simp [here]
    · simp [here]

/-- What a collection that is not put off does to a space. -/
structure Collected (space : Space) (extra : List Handle) (stats : CollectStats)
    (after : Space) : Prop where
  tidy : after.Tidy
  survives : ∀ handle, Reached space (Root space extra) handle →
    after.get? handle = space.get? handle
  reclaims : ∀ handle, ¬ Reached space (Root space extra) handle → after.get? handle = none
  wraps : ∀ handle wrapping, after.wraps.get? handle = some wrapping ↔
    space.wraps.get? handle = some wrapping ∧
      (space.contains handle = true → Reached space (Root space extra) handle)
  pins : after.pins = space.pins
  providers : after.providers = space.providers
  executions : after.executions = space.executions
  size : after.slots.size = space.slots.size
  pending : after.collectRequested = false
  performed : stats.deferred = false
  kept : stats.marked = after.live
  total : stats.marked + stats.freed = space.live

private theorem getElem?_swept {slots : Array Slot} (index : Nat) :
    (slots.map Slot.swept)[index]? = (slots[index]?).map Slot.swept :=
  Array.getElem?_map

private theorem SameContents.occupied {space : Space} {slots : Array Slot}
    (same : SameContents space slots) : occupied slots = occupied space.slots := by
  apply occupied_congr
  intro index
  have here := same index
  cases left : slots[index]? <;> cases right : space.slots[index]? <;> simp_all

private theorem SameContents.size {space : Space} {slots : Array Slot}
    (same : SameContents space slots) : slots.size = space.slots.size := by
  have bounds : ∀ index, slots.size ≤ index ↔ space.slots.size ≤ index := by
    intro index
    rw [← Array.getElem?_eq_none_iff, ← Array.getElem?_eq_none_iff]
    have here := same index
    cases left : slots[index]? <;> cases right : space.slots[index]? <;> simp_all
  have upper := bounds slots.size
  have lower := bounds space.slots.size
  omega

private theorem SameContents.vacant {space : Space} {slots : Array Slot}
    (same : SameContents space slots) (tidy : space.Tidy) (index : Nat) :
    index ∈ space.free ↔ ∃ slot, slots[index]? = some slot ∧ slot.payload = none := by
  have here := same index
  rw [tidy.vacant index]
  cases left : slots[index]? <;> cases right : space.slots[index]? <;> simp_all

section Sweep

variable {space : Space} {root : Handle → Prop} {slots : Array Slot} {count : Nat}

private theorem Marking.tidy_swept {after : Space} (inv : Marking space root slots [] count)
    (tidy : space.Tidy) (slots' : after.slots = slots.map Slot.swept)
    (free' : after.free = (unmarked slots).reverse ++ space.free)
    (live' : after.live = space.live - (unmarked slots).length) : after.Tidy := by
  refine ⟨?_, ?_, ?_, ?_⟩
  · intro slot member
    rw [slots'] at member
    obtain ⟨old, oldMember, rfl⟩ := Array.mem_map.mp member
    have full := inv.filled old oldMember
    cases held : old.payload <;> cases mark : old.marked <;> simp_all [Slot.swept]
  · rw [free', List.nodup_append]
    refine ⟨List.nodup_reverse.mpr (List.Nodup.filter _ List.nodup_range), tidy.distinct, ?_⟩
    intro index garbage other vacant same
    subst same
    obtain ⟨slot, found, -, full⟩ := mem_unmarked_iff.mp (List.mem_reverse.mp garbage)
    obtain ⟨slot', found', empty⟩ := (inv.contents.vacant tidy index).mp vacant
    rw [found, Option.some.injEq] at found'
    subst found'
    simp [empty] at full
  · intro index
    rw [free', List.mem_append, List.mem_reverse, mem_unmarked_iff,
      inv.contents.vacant tidy index, slots', getElem?_swept]
    cases found : slots[index]? with
    | none => simp
    | some slot =>
      have full := inv.filled slot (Array.mem_of_getElem? found)
      cases held : slot.payload <;> cases mark : slot.marked <;> simp_all [Slot.swept]
  · have parts := countP_marked_add inv.filled
    have total := inv.contents.occupied.trans tidy.counted.symm
    rw [live', slots', occupied_swept inv.filled, length_unmarked]
    omega

/-- A handle means what it meant if its object is marked, and nothing otherwise. -/
private theorem Marking.get?_swept {after : Space} (inv : Marking space root slots [] count)
    (slots' : after.slots = slots.map Slot.swept) {handle : Handle} {payload : Payload} :
    after.get? handle = some payload ↔
      space.get? handle = some payload ∧ Reached space root handle := by
  rw [get?_eq_some_iff, inv.contents.get?, ← inv.marked_iff, slots', getElem?_swept]
  unfold IsMarked
  cases found : slots[handle.index]? with
  | none => simp
  | some slot =>
    have full := inv.filled slot (Array.mem_of_getElem? found)
    cases held : slot.payload <;> cases mark : slot.marked <;> simp_all [Slot.swept]

private theorem Marking.mem_issued_iff (inv : Marking space root slots [] count)
    {handle : Handle} : handle ∈ (unmarked slots).map (issued slots) ↔
      space.contains handle = true ∧ ¬ Reached space root handle := by
  rw [List.mem_map, ← inv.marked_iff]
  constructor
  · intro listed
    obtain ⟨index, garbage, rfl⟩ := listed
    obtain ⟨slot, found, fresh, full⟩ := mem_unmarked_iff.mp garbage
    obtain ⟨payload, held⟩ := Option.isSome_iff_exists.mp full
    have handle : issued slots index = ⟨index, slot.generation⟩ := by simp [issued, found]
    rw [handle]
    refine ⟨?_, ?_⟩
    · rw [contains, inv.contents.get?.mpr ⟨slot, found, rfl, held⟩]
      rfl
    · intro marked
      obtain ⟨slot', found', -, mark⟩ := marked
      cases found.symm.trans found'
      simp [fresh] at mark
  · intro lost
    obtain ⟨live, fresh⟩ := lost
    obtain ⟨payload, held⟩ := Option.isSome_iff_exists.mp live
    obtain ⟨slot, found, current, full⟩ := inv.contents.get?.mp held
    refine ⟨handle.index, mem_unmarked_iff.mpr ⟨slot, found, ?_, by simp [full]⟩, ?_⟩
    · cases mark : slot.marked with
      | false => rfl
      | true => exact absurd ⟨slot, found, current, mark⟩ fresh
    · simp [issued, found, current]

end Sweep

/-- A collection outside of executions. -/
theorem collected {space : Space} (tidy : space.Tidy) (idle : space.inExecution = false)
    (extra : List Handle) :
    Collected space extra (space.collect extra).1 (space.collect extra).2 := by
  have start : Marking space (Root space extra) space.slots (space.roots extra) 0 :=
    marking_start tidy fun _ => mem_roots_iff
  have inv := start.run
  generalize outcome : mark space.wraps space.slots (space.roots extra) 0 = marks at inv
  obtain ⟨slots, count⟩ := marks
  dsimp only at inv
  have answer : space.collect extra = (⟨count, (unmarked slots).length, false⟩, { space with
      slots := slots.map Slot.swept
      free := (unmarked slots).reverse ++ space.free
      wraps := (unmarked slots).foldl (fun wraps index => wraps.erase (issued slots index))
        space.wraps
      allocated := 0
      live := space.live - (unmarked slots).length
      collectRequested := false }) := by
    simp [collect, idle, outcome]
  have tidyAfter : (space.collect extra).2.Tidy :=
    inv.tidy_swept tidy (by rw [answer]) (by rw [answer]) (by rw [answer])
  rw [answer] at tidyAfter ⊢
  refine ⟨tidyAfter, ?_, ?_, ?_, rfl, rfl, rfl, ?_, rfl, rfl, ?_, ?_⟩
  · intro handle reached
    obtain ⟨payload, held⟩ := Option.isSome_iff_exists.mp reached.live
    rw [held]
    exact (inv.get?_swept rfl).mpr ⟨held, reached⟩
  · intro handle lost
    rw [Option.eq_none_iff_forall_ne_some]
    intro payload held
    exact lost ((inv.get?_swept rfl).mp held).2
  · intro handle wrapping
    dsimp only
    rw [get?_foldl_erase]
    by_cases live : space.contains handle = true <;>
      by_cases reached : Reached space (Root space extra) handle <;>
      simp [inv.mem_issued_iff, live, reached]
  · simpa using inv.contents.size
  · rw [tidyAfter.counted]
    exact inv.counted.trans (occupied_swept inv.filled).symm
  · have parts := countP_marked_add inv.filled
    rw [tidy.counted, ← inv.contents.occupied, ← parts, length_unmarked, inv.counted]

theorem collect_deferred {space : Space} (busy : space.inExecution = true)
    (extra : List Handle) :
    space.collect extra = (⟨0, 0, true⟩, { space with collectRequested := true }) := by
  simp [collect, busy]

theorem Tidy.collect {space : Space} (tidy : space.Tidy) (extra : List Handle) :
    (space.collect extra).2.Tidy := by
  by_cases busy : space.inExecution = true
  · rw [collect_deferred busy]
    exact ⟨tidy.unmarked, tidy.distinct, tidy.vacant, tidy.counted⟩
  · exact (collected tidy (by simpa using busy) extra).tidy

section Operations

open Act

theorem keeps_updateArray (handle : Handle) (change : Array Value → Array Value) :
    Keeps Tidy (updateArray handle change) :=
  (Keeps.ask _).bind fun _ => keeps_store _ _

theorem keeps_updateObject (handle : Handle) (change : ObjectData → ObjectData) :
    Keeps Tidy (updateObject handle change) :=
  (Keeps.ask _).bind fun _ => keeps_store _ _

theorem keeps_updateContext (context : ContextRef) (change : Context → Context) :
    Keeps Tidy (updateContext context change) :=
  (Keeps.ask _).bind fun _ => keeps_store _ _

theorem keeps_assign (context : ContextRef) (name : String) (value : Value) :
    Keeps Tidy (assign context name value) := by
  unfold assign
  refine (Keeps.ask _).bind fun owner => ?_
  cases owner with
  | none => exact Keeps.pure _
  | some owner =>
    refine (Keeps.ask _).bind fun binding => ?_
    rcases binding with _ | ⟨value, _ | _⟩
    · exact Keeps.pure _
    · exact (keeps_updateContext _ _).bind fun _ => Keeps.pure _
    · exact Keeps.pure _

theorem keeps_assignProperty (object : Value) (key : String) (value : Value) :
    Keeps Tidy (assignProperty object key value) := by
  unfold assignProperty
  refine (Keeps.ask _).bind fun handle => (Keeps.ask _).bind fun changed => ?_
  cases changed with
  | true => exact (keeps_updateObject _ _).bind fun _ => Keeps.pure _
  | false => exact Keeps.pure _

theorem keeps_wrapObject (object : Value) (host : Nat) (setter : Option Nat)
    (captures : List Value) : Keeps Tidy (wrapObject object host setter captures) := by
  unfold wrapObject
  refine (Keeps.ask _).bind fun handle => (Keeps.ask _).bind fun existing => ?_
  cases existing with
  | some existing => exact Keeps.throw _
  | none => exact Keeps.modify fun _ tidy => tidy.congr rfl rfl rfl

theorem Tidy.unpin {space : Space} (tidy : space.Tidy) (handle : Handle) :
    (space.unpin handle).Tidy := by
  unfold Space.unpin
  split
  · exact tidy
  · split
    · exact tidy.congr rfl rfl rfl
    · exact tidy.congr rfl rfl rfl

/-- Whatever a host does to a space, the space stays tidy. -/
theorem keeps_run {α : Type} (action : SpaceAction α) : Keeps Tidy action.run := by
  cases action with
  | allocateArray | allocateObject | allocateFunction | allocateNative | fork =>
    exact (keeps_allocate _).bind fun _ => Keeps.pure _
  | updateArray => exact keeps_updateArray _ _
  | newGlobal =>
    refine ((keeps_allocate _).bind fun _ => Keeps.pure _).bind fun context => ?_
    exact (Keeps.modify fun _ tidy => tidy.congr rfl rfl rfl).bind fun _ => Keeps.pure _
  | releaseGlobal | unpin => exact Keeps.modify fun _ tidy => tidy.unpin _
  | define => exact keeps_updateContext _ _
  | assign => exact keeps_assign _ _ _
  | addSourceLine | addSourceLines =>
    exact (Keeps.ask _).bind fun _ => keeps_updateContext _ _
  | putProperty => exact keeps_updateObject _ _
  | assignProperty => exact keeps_assignProperty _ _ _
  | removeProperty | removeListeners =>
    exact (Keeps.ask _).bind fun _ => (Keeps.ask _).bind fun _ =>
      (keeps_updateObject _ _).bind fun _ => Keeps.pure _
  | addListener => exact (Keeps.ask _).bind fun _ => keeps_updateObject _ _
  | wrapObject => exact keeps_wrapObject _ _ _ _
  | unlink =>
    refine (Keeps.ask _).bind fun _ => (Keeps.ask _).bind fun _ => ?_
    exact (Keeps.modify fun _ tidy => tidy.congr rfl rfl rfl).bind fun _ => Keeps.pure _
  | pin | addProvider | setProvider | dropProvider =>
    exact fun _ tidy => tidy.congr rfl rfl rfl
  | collect extra => exact fun _ tidy => tidy.collect extra

end Operations

/-- One operation on a space: an action of the host, a write through a handle, or the start or end
of an execution. -/
inductive Step : Space → Space → Prop where
  | act {α : Type} (action : SpaceAction α) (space : Space) : Step space (action.run space).2
  | write (handle : Handle) (payload : Payload) (space : Space) :
      Step space (store handle payload space).2
  | enter (space : Space) : Step space space.enterExecution
  | leave (space : Space) : Step space space.leaveExecution

theorem Tidy.step {space after : Space} (tidy : space.Tidy) (step : Step space after) :
    after.Tidy := by
  cases step with
  | act action => exact keeps_run action space tidy
  | write handle payload => exact keeps_store handle payload space tidy
  | enter | leave => exact tidy.congr rfl rfl rfl

/-- The spaces that operations lead to from the empty one. -/
def Reachable (space : Space) : Prop := Relation.ReflTransGen Step {} space

theorem Reachable.tidy {space : Space} (reachable : Reachable space) : space.Tidy := by
  induction reachable with
  | refl => exact tidy_empty
  | tail _ step tidy => exact tidy.step step

/-- A collection keeps what the roots reach, as it was, and nothing else. Its figures are those
of the objects in the slots. -/
theorem collect_leaves_exactly_reached {space : Space} (reachable : Reachable space)
    (idle : space.inExecution = false) (extra : List Handle) :
    (∀ handle, (space.collect extra).2.contains handle = true ↔
      space.contains handle = true ∧ Reached space (Root space extra) handle) ∧
    (∀ handle, (space.collect extra).2.contains handle = true →
      (space.collect extra).2.get? handle = space.get? handle) ∧
    (space.collect extra).1.deferred = false ∧
    (space.collect extra).1.marked = (space.collect extra).2.live ∧
    (space.collect extra).1.marked + (space.collect extra).1.freed = space.live ∧
    space.live = occupied space.slots ∧
    (space.collect extra).2.live = occupied (space.collect extra).2.slots := by
  have tidy := reachable.tidy
  have done := collected tidy idle extra
  have exactly : ∀ handle, (space.collect extra).2.contains handle = true ↔
      Reached space (Root space extra) handle := by
    intro handle
    constructor
    · intro live
      by_contra lost
      simp [contains, done.reclaims handle lost] at live
    · intro reached
      have live := reached.live
      unfold contains at live ⊢
      rw [done.survives handle reached]
      exact live
  refine ⟨?_, ?_, done.performed, done.kept, done.total, tidy.counted, done.tidy.counted⟩
  · intro handle
    rw [exactly handle]
    exact ⟨fun reached => ⟨reached.live, reached⟩, And.right⟩
  · intro handle live
    exact done.survives handle ((exactly handle).mp live)

/-- Two arrays that hold each other, the first of them pinned, and a third one that nothing
holds. -/
private def pinnedCycle : Space :=
  let first : Space := ((SpaceAction.allocateArray #[.array ⟨1, 0⟩]).run {}).2
  let second := ((SpaceAction.allocateArray #[.array ⟨0, 0⟩]).run first).2
  let third := ((SpaceAction.allocateArray #[]).run second).2
  ((SpaceAction.pin ⟨0, 0⟩).run third).2

theorem collect_pinnedCycle :
    Reachable pinnedCycle ∧ pinnedCycle.inExecution = false ∧
      (pinnedCycle.collect []).2.contains ⟨1, 0⟩ = true ∧
      (pinnedCycle.collect []).1.marked + (pinnedCycle.collect []).1.freed = 3 := by
  have reachable : Reachable pinnedCycle :=
    ((((Relation.ReflTransGen.refl).tail (.act _ _)).tail (.act _ _)).tail (.act _ _)).tail
      (.act _ _)
  have idle : pinnedCycle.inExecution = false := rfl
  have exact' := collect_leaves_exactly_reached reachable idle []
  have first : Reached pinnedCycle (Root pinnedCycle []) ⟨0, 0⟩ := .start (.pinned rfl) rfl
  have second : Reached pinnedCycle (Root pinnedCycle []) ⟨1, 0⟩ :=
    .follow first (.element rfl (Array.mem_singleton.mpr rfl) rfl) rfl
  refine ⟨reachable, idle, (exact'.1 ⟨1, 0⟩).mpr ⟨rfl, second⟩, ?_⟩
  exact exact'.2.2.2.2.1

end Space

end ScriptEngine
