import ScriptEngine.Proofs.SoundSpaces

set_option autoImplicit false

namespace ScriptEngine

namespace Space

variable {space : Space}

private theorem exists_trees {α β : Type} {relation : α → β → Prop} {items : List α}
    (each : ∀ item ∈ items, ∃ tree, relation item tree) :
    ∃ trees, List.Forall₂ relation items trees := by
  induction items with
  | nil => exact ⟨[], .nil⟩
  | cons item rest ih =>
    obtain ⟨tree, here⟩ := each item (by simp)
    obtain ⟨trees, others⟩ := ih fun other member => each other (by simp [member])
    exact ⟨tree :: trees, .cons here others⟩

theorem exists_callableText_iff {handle : Handle} :
    (∃ description, space.callableText handle = .ok description) ↔
      space.Fits (.callable handle) := by
  simp only [callableText, Space.get, Fits]
  generalize space.get? handle = found
  cases found with
  | none => simp [bind, Except.bind]
  | some payload =>
    cases payload <;> simp [bind, Except.bind, pure, Except.pure, throw, throwThe,
      MonadExceptOf.throw]

/-- The induction is on the number of containers that are not on the path yet. -/
theorem exists_unfolds
    (stored : ∀ {handle payload}, space.get? handle = some payload → space.FitsPayload payload)
    (bound : Nat) {path : List Handle} (along : space.Path path)
    (room : space.slots.size < bound + path.length) {value : Value} (fits : space.Fits value) :
    ∃ tree, space.Unfolds path value tree := by
  induction bound generalizing path value with
  | zero =>
    have short := along.length_le
    omega
  | succ bound ih =>
    cases value with
    | undefined | null | bool | int | float | string => exact ⟨_, .scalar rfl⟩
    | array handle =>
      by_cases inside : handle ∈ path
      · exact ⟨_, .innerArray inside⟩
      · obtain ⟨items, held⟩ := fits
        have below := along.cons inside held
        have each : ∀ item ∈ items.toList, ∃ tree, space.Unfolds (handle :: path) item tree :=
          fun item member => ih below (by simp; omega) (stored held item (by simpa using member))
        obtain ⟨trees, members⟩ := exists_trees each
        exact ⟨_, unfolds_array inside held members⟩
    | object handle =>
      by_cases inside : handle ∈ path
      · exact ⟨_, .innerObject inside⟩
      · obtain ⟨data, held⟩ := fits
        have below := along.cons inside held
        have each : ∀ entry ∈ data.properties.entries,
            ∃ property, space.UnfoldsProperty (handle :: path) entry property := by
          intro entry member
          have fits := (stored held).1 entry.1 entry.2 (Table.get?_eq_some_iff.mpr member)
          obtain ⟨tree, unfolds⟩ := ih below (by simp; omega) fits
          exact ⟨(entry.1, tree), rfl, unfolds⟩
        obtain ⟨trees, members⟩ := exists_trees each
        exact ⟨_, unfolds_object inside held members⟩
    | callable handle =>
      obtain ⟨description, described⟩ := exists_callableText_iff.mpr fits
      exact ⟨_, .callable described⟩

theorem fits_of_display {value : Value} {text : String} (shown : space.display value = .ok text) :
    space.Fits value := by
  cases value with
  | undefined | null | bool | int | float | string => trivial
  | array handle =>
    cases read : space.array handle with
    | ok items => exact ⟨items, array_eq_ok_iff.mp read⟩
    | error fault => simp [display, write, Act.bind_apply, Act.ofExcept, read] at shown
  | object handle =>
    cases read : space.objectData handle with
    | ok data => exact ⟨data, objectData_eq_ok_iff.mp read⟩
    | error fault => simp [display, write, Act.bind_apply, Act.ofExcept, read] at shown
  | callable handle =>
    cases read : space.callableText handle with
    | ok description => exact exists_callableText_iff.mp ⟨description, read⟩
    | error fault => simp [display, write, Act.bind_apply, Act.ofExcept, read] at shown

/-- In a space where every stored handle is live and of the right kind, with cycles or without,
every such value has one unfolding, and its text comes to an end. Whenever a value has a text, it
is the text of its unfolding. -/
theorem display_renders_unfolding
    (stored : ∀ {handle payload}, space.get? handle = some payload → space.FitsPayload payload)
    (value : Value) :
    (space.Fits value → ∃! tree, space.Unfolds [] value tree) ∧
    ∀ text, space.display value = .ok text ↔
      ∃ tree, space.Unfolds [] value tree ∧ tree.text false = text := by
  have exists_of_fits : space.Fits value → ∃ tree, space.Unfolds [] value tree :=
    exists_unfolds stored (space.slots.size + 1) ⟨.nil, nofun⟩ (by simp)
  refine ⟨fun fits => ?_, fun text => ⟨fun shown => ?_, ?_⟩⟩
  · obtain ⟨tree, unfolds⟩ := exists_of_fits fits
    exact ⟨tree, unfolds, fun _ unfolds' => unfolds'.unique unfolds⟩
  · obtain ⟨tree, unfolds⟩ := exists_of_fits (fits_of_display shown)
    exact ⟨tree, unfolds, Except.ok.inj ((display_of_unfolds unfolds).symm.trans shown)⟩
  · rintro ⟨tree, unfolds, rfl⟩
    exact display_of_unfolds unfolds

/-- An object that holds one array twice, and itself. -/
private def shelves : Space where
  slots := #[⟨0, some (.object ⟨⟨[("left", .array ⟨1, 0⟩), ("right", .array ⟨1, 0⟩),
      ("whole", .object ⟨0, 0⟩)], by decide⟩, none, none, .empty, ∅⟩), false⟩,
    ⟨0, some (.array #[.int 1, .bool true]), false⟩]
  live := 2

private theorem shelves_stored {handle : Handle} {payload : Payload}
    (held : shelves.get? handle = some payload) : shelves.FitsPayload payload := by
  obtain ⟨index, generation⟩ := handle
  obtain ⟨slot, found, -, full⟩ := get?_eq_some_iff.mp held
  match index, found with
  | 0, found =>
    cases found
    obtain rfl := Option.some.inj full
    refine ⟨fun key value present => ?_, nofun, nofun⟩
    rw [Table.get?_eq_some_iff] at present
    simp only [List.mem_cons, Prod.mk.injEq, List.not_mem_nil, or_false] at present
    rcases present with ⟨-, rfl⟩ | ⟨-, rfl⟩ | ⟨-, rfl⟩ <;> exact ⟨_, rfl⟩
  | 1, found =>
    cases found
    obtain rfl := Option.some.inj full
    intro value member
    simp only [List.mem_toArray, List.mem_cons, List.not_mem_nil, or_false] at member
    rcases member with rfl | rfl <;> trivial

/-- The shared array is shown in full at both places, the object inside itself is cut short. -/
theorem display_of_shelves : ∃ tree, shelves.Unfolds [] (.object ⟨0, 0⟩) tree ∧
    tree.text false =
      "\x7b left: [ 1, true ], right: [ 1, true ], whole: <cycle> \x7d" :=
  ((display_renders_unfolding shelves_stored (.object ⟨0, 0⟩)).2 _).mp rfl

end Space

end ScriptEngine
