import Mathlib.Algebra.Group.Nat.Defs
import ScriptEngine.Proofs.UndisturbedObjects

set_option autoImplicit false

namespace ScriptEngine

/-- What one operation can do to a slot: the generation stays and so does what the slot holds, or
the slot is emptied and enters its next generation. -/
inductive Slot.Turned (slot after : Slot) : Prop where
  | spared (generation : after.generation = slot.generation)
      (held : slot.payload.isSome = true → after.payload.isSome = true)
  | emptied (held : slot.payload.isSome = true) (gone : after.payload = none)
      (generation : after.generation = slot.generation + 1)

namespace Space

/-- Whether the slot of this number holds an object. -/
def holds (space : Space) (index : Nat) : Bool := (space.slots[index]?.bind Slot.payload).isSome

theorem holds_of_getElem? {space : Space} {index : Nat} {slot : Slot}
    (found : space.slots[index]? = some slot) : space.holds index = slot.payload.isSome := by
  simp [holds, found]

/-- All slots are there, with their generations, and those that held something hold something. -/
def Spared (before after : Space) : Prop :=
  ∀ (index : Nat) (slot : Slot), before.slots[index]? = some slot →
    ∃ next, after.slots[index]? = some next ∧ next.generation = slot.generation ∧
      (slot.payload.isSome = true → next.payload.isSome = true)

section Steps

variable {start before after : Space}

theorem Spared.refl (space : Space) : Spared space space :=
  fun _ slot found => ⟨slot, found, rfl, id⟩

private theorem Spared.fill (spared : Spared start before) (index : Nat)
    (slots : ∀ other, other ≠ index → ∀ slot, before.slots[other]? = some slot →
      after.slots[other]? = some slot)
    (filled : ∀ slot, before.slots[index]? = some slot → ∃ next,
      after.slots[index]? = some next ∧ next.generation = slot.generation ∧
        next.payload.isSome = true) : Spared start after := by
  intro other slot found
  obtain ⟨middle, found', generation, held⟩ := spared other slot found
  by_cases same : other = index
  · subst same
    obtain ⟨next, there, generation', full⟩ := filled middle found'
    exact ⟨next, there, generation'.trans generation, fun _ => full⟩
  · exact ⟨middle, slots other same middle found', generation, held⟩

theorem spared_allocate (payload : Payload) :
    Act.Keeps (Spared start) (Space.allocate payload) := by
  intro space spared
  unfold Space.allocate
  split
  · next index rest _ =>
    refine spared.fill index ?_ ?_
    · intro other apart slot found
      simpa [Array.getElem?_setIfInBounds_ne (Ne.symm apart)] using found
    · intro slot found
      have bound : index < space.slots.size := (Array.getElem?_eq_some_iff.mp found).1
      exact ⟨⟨slot.generation, some payload, false⟩,
        by simp [found, Array.getElem?_setIfInBounds_self_of_lt bound], rfl, rfl⟩
  · split
    · refine spared.fill space.slots.size ?_ ?_
      · intro other _ slot found
        have bound : other < space.slots.size := (Array.getElem?_eq_some_iff.mp found).1
        simp only [Array.getElem?_push, if_neg (Nat.ne_of_lt bound)]
        exact found
      · intro slot found
        simp at found
    · exact spared

theorem spared_store (handle : Handle) (payload : Payload) :
    Act.Keeps (Spared start) (Space.store handle payload) := by
  intro space spared
  unfold Space.store
  split
  · refine spared.fill handle.index ?_ ?_
    · intro other apart slot found
      simpa [Array.getElem?_modify, Ne.symm apart] using found
    · intro slot found
      exact ⟨{ slot with payload := some payload },
        by simp [Array.getElem?_modify, found], rfl, rfl⟩
  · exact spared

theorem Spared.rewire (rewired : Rewired before after) (spared : Spared start before) :
    Spared start after := by
  intro index slot found
  rw [rewired.slots]
  exact spared index slot found

theorem Spared.turned (spared : Spared before after) {index : Nat} {slot : Slot}
    (found : before.slots[index]? = some slot) :
    ∃ next, after.slots[index]? = some next ∧ slot.Turned next := by
  obtain ⟨next, there, generation, held⟩ := spared index slot found
  exact ⟨next, there, .spared generation held⟩

/-- The marks decide which slots are emptied; they say nothing else about a slot. -/
theorem turned_collect (tidy : before.Tidy) (extra : List Handle) {index : Nat} {slot : Slot}
    (found : before.slots[index]? = some slot) :
    ∃ next, (before.collect extra).2.slots[index]? = some next ∧ slot.Turned next := by
  by_cases busy : before.inExecution = true
  · rw [collect_deferred busy]
    exact ⟨slot, found, .spared rfl id⟩
  · have begun : Marking before (Root before extra) before.slots (before.roots extra) 0 :=
      marking_start tidy fun _ => mem_roots_iff
    have inv := begun.run
    have contents := inv.contents index
    rw [found] at contents
    obtain ⟨marked, there, same⟩ := Option.map_eq_some_iff.mp contents
    obtain ⟨generation, payload⟩ := Prod.mk.inj same
    refine ⟨marked.swept, by simp [collect, busy, there], ?_⟩
    unfold Slot.swept
    split
    · exact .spared generation (by simp [payload])
    · split
      · exact .spared generation (by simp [payload])
      · refine .emptied ?_ rfl (by simp [generation])
        simpa [payload, Option.isSome_iff_ne_none] using ‹¬ marked.payload.isNone = true›

theorem Step.spared_or_collect (step : Step before after) :
    Spared before after ∨ ∃ extra, after = (before.collect extra).2 := by
  have start := Spared.refl before
  cases step with
  | enter | leave => exact .inl start
  | write handle payload => exact .inl (spared_store handle payload before start)
  | act action =>
    rcases run_cases action with ⟨extra, collects⟩ | calm
    · exact .inr ⟨extra, collects before⟩
    · exact .inl (calm (Spared before) spared_allocate (Edit.keeps spared_allocate spared_store)
        .rewire before start)

/-- Only a collection empties slots. -/
theorem Step.turned (tidy : before.Tidy) (step : Step before after) {index : Nat} {slot : Slot}
    (found : before.slots[index]? = some slot) :
    ∃ next, after.slots[index]? = some next ∧ slot.Turned next := by
  rcases step.spared_or_collect with spared | ⟨extra, rfl⟩
  · exact spared.turned found
  · exact turned_collect tidy extra found

end Steps

/-- How often the operations on the way from one space to another have reclaimed a slot. -/
inductive Reclaimed (index : Nat) (start : Space) : Nat → Space → Prop where
  | start : Reclaimed index start 0 start
  | spare {count : Nat} {before after : Space} (past : Reclaimed index start count before)
      (step : Step before after)
      (kept : before.holds index = true → after.holds index = true) :
      Reclaimed index start count after
  | reclaim {count : Nat} {before after : Space} (past : Reclaimed index start count before)
      (step : Step before after) (held : before.holds index = true)
      (gone : after.holds index = false) : Reclaimed index start (count + 1) after

/-- The slot of a handle that was issued so many reclamations ago. -/
structure Aged (handle : Handle) (count : Nat) (space : Space) : Prop where
  tidy : space.Tidy
  slot : ∃ slot, space.slots[handle.index]? = some slot ∧
    slot.generation = handle.generation + UInt32.ofNat count ∧
    (count = 0 → slot.payload.isSome = true)

section Ages

variable {handle : Handle} {count : Nat} {before start now : Space} {payload : Payload}

theorem aged_of_allocate (tidy : before.Tidy)
    (issued : Space.allocate payload before = (.ok handle, start)) : Aged handle 0 start := by
  rcases tidy.allocate payload with ⟨other, after, made, tidyAfter, -, placed⟩ | ⟨failed, -⟩
  · rw [made] at issued
    cases issued
    obtain ⟨slot, found, generation, full⟩ := get?_eq_some_iff.mp placed.here
    exact ⟨tidyAfter, slot, found, by simpa using generation, fun _ => by simp [full]⟩
  · rw [failed] at issued
    cases issued

/-- The slot stays in its generation while nothing is lost. -/
theorem Aged.spare (aged : Aged handle count before) (step : Step before now)
    (kept : before.holds handle.index = true → now.holds handle.index = true) :
    Aged handle count now := by
  obtain ⟨slot, found, generation, full⟩ := aged.slot
  obtain ⟨next, there, turned⟩ := step.turned aged.tidy found
  rw [holds_of_getElem? found, holds_of_getElem? there] at kept
  refine ⟨aged.tidy.step step, next, there, ?_, fun new => kept (full new)⟩
  cases turned with
  | spared same held => exact same.trans generation
  | emptied held gone _ =>
    have full := kept held
    simp [gone] at full

/-- The slot enters its next generation with each loss. -/
theorem Aged.reclaim (aged : Aged handle count before) (step : Step before now)
    (held : before.holds handle.index = true) (gone : now.holds handle.index = false) :
    Aged handle (count + 1) now := by
  obtain ⟨slot, found, generation, -⟩ := aged.slot
  obtain ⟨next, there, turned⟩ := step.turned aged.tidy found
  rw [holds_of_getElem? found] at held
  rw [holds_of_getElem? there] at gone
  refine ⟨aged.tidy.step step, next, there, ?_, nofun⟩
  cases turned with
  | spared _ kept => simp [kept held] at gone
  | emptied _ _ next =>
    rw [next, generation, UInt32.ofNat_add, UInt32.add_assoc]
    rfl

theorem Reclaimed.aged (past : Reclaimed handle.index start count now)
    (fresh : Aged handle 0 start) : Aged handle count now := by
  induction past with
  | start => exact fresh
  | spare _ step kept aged => exact aged.spare step kept
  | reclaim _ step held gone aged => exact aged.reclaim step held gone

/-- A generation comes back when its word has gone round. -/
private theorem add_ofNat_eq_self_iff (generation : UInt32) :
    generation + UInt32.ofNat count = generation ↔ 2 ^ 32 ∣ count := by
  rw [← UInt32.toNat_inj, UInt32.toNat_add, UInt32.toNat_ofNat']
  have bound := generation.toNat_lt
  omega

theorem Aged.contains_iff (aged : Aged handle count now) :
    now.contains handle = true ↔ now.holds handle.index = true ∧ 2 ^ 32 ∣ count := by
  obtain ⟨slot, found, generation, -⟩ := aged.slot
  rw [holds_of_getElem? found, contains, get?, found, ← add_ofNat_eq_self_iff handle.generation,
    ← generation]
  by_cases current : slot.generation = handle.generation
  · simp [current]
  · simp [current]

end Ages

/-- A handle is good for the object that it was issued for. Once that object has been reclaimed, the
handle is good again only while its slot holds something and has been reclaimed as often as there
are generations, or a multiple of that. Up to then every access through it is a fault. -/
theorem stale_handle_caught_until_wrap {before start now : Space} {payload : Payload}
    {handle : Handle} {count : Nat} (reachable : Reachable before)
    (issued : Space.allocate payload before = (.ok handle, start))
    (past : Reclaimed handle.index start count now) :
    (count = 0 → now.contains handle = true) ∧
    (0 < count →
      ((now.get? handle).isSome = true ↔
        now.holds handle.index = true ∧ ∃ rounds, 0 < rounds ∧ count = rounds * 2 ^ 32) ∧
      (now.contains handle = true ↔
        now.holds handle.index = true ∧ ∃ rounds, 0 < rounds ∧ count = rounds * 2 ^ 32)) ∧
    (0 < count → count < 2 ^ 32 →
      now.get? handle = none ∧ now.get handle = .error (.staleHandle handle)) := by
  have aged := past.aged (aged_of_allocate reachable.tidy issued)
  have good : 0 < count → (now.contains handle = true ↔
      now.holds handle.index = true ∧ ∃ rounds, 0 < rounds ∧ count = rounds * 2 ^ 32) := by
    intro reclaimed
    rw [aged.contains_iff]
    refine and_congr_right fun _ => ⟨fun multiple => ?_, fun rounds => ?_⟩
    · obtain ⟨rounds, rfl⟩ := multiple
      exact ⟨rounds, by omega, by omega⟩
    · obtain ⟨rounds, -, rfl⟩ := rounds
      exact Nat.dvd_mul_left _ _
  refine ⟨fun new => ?_, fun reclaimed => ⟨good reclaimed, good reclaimed⟩, ?_⟩
  · obtain ⟨slot, found, -, full⟩ := aged.slot
    rw [aged.contains_iff, holds_of_getElem? found, new]
    exact ⟨full new, Nat.dvd_zero _⟩
  · intro reclaimed early
    have stale : now.get? handle = none := by
      rw [← Option.not_isSome_iff_eq_none]
      intro live
      obtain ⟨-, multiple⟩ := aged.contains_iff.mp live
      exact absurd (Nat.le_of_dvd reclaimed multiple) (Nat.not_le.mpr early)
    exact ⟨stale, by simp [get, stale]⟩

/-- An array that nothing holds. -/
private def discarded : Space := (Space.allocate (.array #[]) {}).2

/-- The array has been reclaimed and its slot holds another one. -/
private def replaced : Space :=
  ((SpaceAction.allocateArray #[.null]).run ((SpaceAction.collect []).run discarded).2).2

theorem stale_handle_of_replaced :
    Space.allocate (.array #[]) {} = (.ok ⟨0, 0⟩, discarded) ∧ Reclaimed 0 discarded 1 replaced ∧
    replaced.holds 0 = true ∧ replaced.contains ⟨0, 1⟩ = true ∧
    replaced.get? ⟨0, 0⟩ = none ∧
    replaced.get ⟨0, 0⟩ = .error (.staleHandle ⟨0, 0⟩) := by
  have issued : Space.allocate (.array #[]) {} = (.ok ⟨0, 0⟩, discarded) := rfl
  have collected : Reclaimed 0 discarded 1 ((SpaceAction.collect []).run discarded).2 :=
    .reclaim .start (.act (.collect []) discarded) rfl (by decide +kernel)
  have past : Reclaimed 0 discarded 1 replaced :=
    .spare collected (.act (.allocateArray #[.null]) _) fun _ => by decide +kernel
  have main := stale_handle_caught_until_wrap .refl issued past
  have stale := main.2.2 (by decide) (by decide)
  refine ⟨issued, past, ?_, ?_, stale.1, stale.2⟩
  · decide +kernel
  · decide +kernel

end Space

end ScriptEngine
