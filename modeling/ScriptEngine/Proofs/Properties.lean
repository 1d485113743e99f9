import ScriptEngine.Proofs.Bisimulation
import ScriptEngine.Proofs.Instantiation

set_option autoImplicit false

namespace ScriptEngine

namespace Space

variable {space after : Space} {handle : Handle} {data : ObjectData} {key : String} {value : Value}

theorem property?_of_held (held : space.objectData handle = .ok data) (key : String) :
    space.property? (.object handle) key = .ok (data.properties.get? key) := by
  simp only [property?, readObject, objectHandle, bind, Except.bind, held]
  rfl

/-- Either the old value is equal to the assigned one and nothing happens, or there is no such
value and the assigned one is stored. -/
theorem assignProperty_cases
    (stored : ∀ {handle payload}, space.get? handle = some payload → space.FitsPayload payload)
    (held : space.objectData handle = .ok data) (key : String) (fits : space.Fits value) :
    (∃ old, data.properties.get? key = some old ∧ space.equal old value = .ok true ∧
      assignProperty (.object handle) key value space = (.ok false, space)) ∨
    ((∀ old, data.properties.get? key = some old → space.equal old value = .ok false) ∧
      ∃ after, assignProperty (.object handle) key value space = (.ok true, after) ∧
        Placed space handle
          (.object { data with properties := data.properties.insert key value }) after) := by
  have live := objectData_eq_ok_iff.mp held
  obtain ⟨after, put, placed⟩ := updateObject_held
    (fun data => { data with properties := data.properties.insert key value }) live
  have puts : (putProperty handle key value >>= fun _ => pure true) space =
      ((.ok true : Except Fault Bool), after) := by
    rw [Act.bind_apply, show putProperty handle key value space = _ from put]
    rfl
  cases before : data.properties.get? key with
  | none =>
    refine Or.inr ⟨nofun, after, (assignProperty_apply true held ?_).trans puts, placed⟩
    rw [before]
    rfl
  | some old =>
    obtain ⟨verdict, compared⟩ := exists_verdict stored ((stored live).1 key old before) fits
    have decides : (do return !(← space.equal old value) : Except Fault Bool) = .ok !verdict := by
      rw [compared]
      rfl
    cases verdict with
    | true =>
      refine Or.inl ⟨old, rfl, compared, assignProperty_apply false held ?_⟩
      rw [before]
      exact decides
    | false =>
      refine Or.inr ⟨?_, after, (assignProperty_apply true held ?_).trans puts, placed⟩
      · rintro old' same
        cases same
        exact compared
      · rw [before]
        exact decides

/-- In a space where every stored handle is live and of the right kind, an assignment to a property
of a live object cannot fail. It answers `false` iff there is an old value that is structurally
equal to the assigned one. Then the space is as it was, so that the old value is read back; else the
assigned value itself is read back. No other property, no other part of the object and no other slot
has changed. -/
theorem assigned_property_reads_back_unless_equal
    (stored : ∀ {handle payload}, space.get? handle = some payload → space.FitsPayload payload)
    (held : space.objectData handle = .ok data) (key : String) (fits : space.Fits value) :
    ∃ changed after, assignProperty (.object handle) key value space = (.ok changed, after) ∧
      (changed = false ↔ ∃ old, space.property? (.object handle) key = .ok (some old) ∧
        space.equal old value = .ok true) ∧
      (changed = true → after.property? (.object handle) key = .ok (some value)) ∧
      (changed = false → after = space) ∧
      (∀ other, other ≠ key →
        after.property? (.object handle) other = space.property? (.object handle) other) ∧
      (∃ properties, after.get? handle = some (.object { data with properties })) ∧
      ∀ slot, slot ≠ handle → after.get? slot = space.get? slot := by
  have live := objectData_eq_ok_iff.mp held
  rcases assignProperty_cases stored held key fits with
    ⟨old, before, equal, kept⟩ | ⟨apart, after, changed, placed⟩
  · refine ⟨false, space, kept, ⟨fun _ => ⟨old, ?_, equal⟩, fun _ => rfl⟩, nofun, fun _ => rfl,
      fun _ _ => rfl, ⟨data.properties, live⟩, fun _ _ => rfl⟩
    rw [property?_of_held held, before]
  · have here := objectData_eq_ok_iff.mpr placed.here
    refine ⟨true, after, changed, ⟨nofun, ?_⟩, fun _ => ?_, nofun, fun other differs => ?_,
      ⟨_, placed.here⟩, placed.elsewhere⟩
    · rintro ⟨old, before, equal⟩
      rw [property?_of_held held, Except.ok.injEq] at before
      rw [apart old before] at equal
      cases equal
    · rw [property?_of_held here, Table.get?_insert_self]
    · rw [property?_of_held here, property?_of_held held, Table.get?_insert_of_ne _ _ differs]

/-- Two empty arrays, and an object with the first of them. -/
private def drawer : Space :=
  ((do
    let _ ← allocateArray #[]
    let _ ← allocateArray #[]
    let _ ← allocateObject { properties := .ofList [("items", .array ⟨0, 0⟩)] } :
      SpaceM Unit) {}).2

private theorem drawer_stored {handle : Handle} {payload : Payload}
    (held : drawer.get? handle = some payload) : drawer.FitsPayload payload := by
  obtain ⟨index, generation⟩ := handle
  obtain ⟨slot, found, -, full⟩ := get?_eq_some_iff.mp held
  match index, found with
  | 0, found | 1, found =>
    cases found
    obtain rfl := Option.some.inj full
    exact fun value member => absurd member (Array.not_mem_empty value)
  | 2, found =>
    cases found
    obtain rfl := Option.some.inj full
    refine ⟨fun key value listed => ?_, nofun, nofun⟩
    change (Table.empty.insert "items" (.array ⟨0, 0⟩)).get? key = some value at listed
    rw [Table.get?_insert] at listed
    split at listed
    · cases listed
      exact ⟨#[], rfl⟩
    · cases listed

/-- A number takes the place of an array, which stays where it is. -/
theorem assigned_number_reads_back :
    ∃ after, assignProperty (.object ⟨2, 0⟩) "items" (.int 3) drawer = (.ok true, after) ∧
      after.property? (.object ⟨2, 0⟩) "items" = .ok (some (.int 3)) ∧
      after.get? ⟨0, 0⟩ = drawer.get? ⟨0, 0⟩ := by
  have held : drawer.objectData ⟨2, 0⟩ = .ok _ := rfl
  have fits : drawer.Fits (.int 3) := trivial
  obtain ⟨changed, after, assigned, -, reads, -, -, -, others⟩ :=
    assigned_property_reads_back_unless_equal drawer_stored held "items" fits
  obtain rfl : true = changed := Except.ok.inj (congrArg Prod.fst assigned)
  exact ⟨after, assigned, reads rfl, others _ (by decide)⟩

/-- Another empty array is equal to the one in the object and so is not stored. What is added to it
later is not seen through the object. -/
theorem equal_array_not_stored :
    (∀ {handle payload}, drawer.get? handle = some payload → drawer.FitsPayload payload) ∧
    drawer.Fits (.array ⟨1, 0⟩) ∧
    ∃ after, assignProperty (.object ⟨2, 0⟩) "items" (.array ⟨1, 0⟩) drawer = (.ok false, after) ∧
      after.property? (.object ⟨2, 0⟩) "items" ≠ .ok (some (.array ⟨1, 0⟩)) ∧
      ∃ later, updateArray ⟨1, 0⟩ (·.push (.int 1)) after = (.ok (), later) ∧
        later.array ⟨1, 0⟩ = .ok #[.int 1] ∧
        later.property? (.object ⟨2, 0⟩) "items" = .ok (some (.array ⟨0, 0⟩)) ∧
        later.array ⟨0, 0⟩ = .ok #[] := by
  refine ⟨drawer_stored, ⟨#[], rfl⟩, drawer, rfl, fun same => ?_, _, rfl, rfl, rfl, rfl⟩
  have read : drawer.property? (.object ⟨2, 0⟩) "items" = .ok (some (.array ⟨0, 0⟩)) := rfl
  rw [read] at same
  cases same

end Space

end ScriptEngine
