import ScriptEngine.Proofs.PermittedTrees
import ScriptEngine.Proofs.SoundExecutions

set_option autoImplicit false

namespace ScriptEngine

namespace Space

variable {space after : Space} {inside : Handle → Prop} {source target : Handle}
  {payload : Payload}

theorem within_of_refers (held : space.get? source = some payload)
    (each : ∀ target, space.Refers source target → inside target) : payload.Within inside := by
  cases payload with
  | array items => exact fun value member target points => each target (.element held member points)
  | object data =>
    exact ⟨fun found target points => each target (.property held found points),
      fun owned => each _ (.ownedContext held owned),
      fun listed callback member target points => each target (.listener held listed member points)⟩
  | function closure => exact each _ (.captured held)
  | native callee =>
    exact fun value member target points => each target (.nativeCapture held member points)
  | context data =>
    exact ⟨fun above => each _ (.parent held above),
      fun found target points => each target (.bound held found points)⟩

/-- References out of a payload, and out of the captures of its hook, stay within. -/
theorem inside_of_refers (refers : space.Refers source target)
    (within : ∀ payload, space.get? source = some payload → payload.Within inside)
    (captures : ∀ wrapping, space.wraps.get? source = some wrapping →
      ∀ value ∈ wrapping.captures, value.Within inside) : inside target := by
  cases refers with
  | element held member points => exact within _ held _ member _ points
  | property held found points => exact (within _ held).properties found _ points
  | ownedContext held owned => exact (within _ held).context owned
  | listener held listed member points => exact (within _ held).listeners listed _ member _ points
  | captured held => exact within _ held
  | nativeCapture held member points => exact within _ held _ member _ points
  | parent held below => exact (within _ held).parent below
  | bound held found points => exact (within _ held).bindings found _ points
  | hookCapture held wrapped member points => exact captures _ wrapped _ member _ points

theorem Refers.congr (refers : space.Refers source target)
    (same : after.get? source = space.get? source) (wraps : after.wraps = space.wraps) :
    after.Refers source target := by
  obtain ⟨payload, held⟩ : ∃ payload, space.get? source = some payload := by
    cases refers <;> exact ⟨_, ‹_›⟩
  rw [← mem_edges_iff (same.trans held), wraps, mem_edges_iff held]
  exact refers

theorem Fits.live {value : Value} (fits : space.Fits value) :
    value.Within (space.contains · = true) := by
  intro handle points
  cases value with
  | undefined | null | bool | int | float | string => cases points
  | array =>
    cases points
    obtain ⟨items, held⟩ := fits
    exact Option.isSome_iff_exists.mpr ⟨_, held⟩
  | object =>
    cases points
    obtain ⟨data, held⟩ := fits
    exact Option.isSome_iff_exists.mpr ⟨_, held⟩
  | callable =>
    cases points
    rcases fits with ⟨_, held⟩ | ⟨_, held⟩
    · exact Option.isSome_iff_exists.mpr ⟨_, held⟩
    · exact Option.isSome_iff_exists.mpr ⟨_, held⟩

theorem HasContext.live {context : ContextRef} (present : space.HasContext context) :
    space.contains context.handle = true := by
  obtain ⟨data, held⟩ := present
  exact Option.isSome_iff_exists.mpr ⟨_, held⟩

theorem Sound.live_of_refers (sound : space.Sound) (refers : space.Refers source target) :
    space.contains target = true := by
  refine inside_of_refers refers (fun payload held => ?_) fun wrapping wrapped value member =>
    Fits.live ((sound.wrapped wrapped).2 value member)
  have fits := sound.stored held
  cases payload with
  | array items => exact fun value member => Fits.live (fits value member)
  | object data =>
    exact ⟨fun found => Fits.live (fits.1 _ _ found),
      fun owned => HasContext.live (fits.2.1 _ owned),
      fun listed callback member => Fits.live (fits.2.2 _ _ listed callback member)⟩
  | function closure => exact HasContext.live fits
  | native callee => exact fun value member => Fits.live (fits value member)
  | context data =>
    exact ⟨fun above => HasContext.live (fits.1 _ above), fun found => Fits.live (fits.2 _ _ found)⟩

/-- The context reaches the object. -/
def ReachedFrom (space : Space) (context : ContextRef) (handle : Handle) : Prop :=
  space.Reached (· = context.handle) handle

/-- The two contexts reach nothing in common. -/
def Apart (space : Space) (context other : ContextRef) : Prop :=
  ∀ handle, space.ReachedFrom context handle → ¬ space.ReachedFrom other handle

end Space

/-- The charter of a script in a context: it may touch what the context reaches, and what is new. -/
def Charter.bounded (start : Space) (context : ContextRef) : Charter where
  start := start
  inside handle := start.ReachedFrom context handle ∨ start.get? handle = none
  looped := False
  new fresh := Or.inr fresh

namespace Charter

variable {start : Space} {context : ContextRef}

theorem inside_of_refers {source target : Handle} (reached : start.ReachedFrom context source)
    (refers : start.Refers source target) : (bounded start context).inside target := by
  cases found : start.get? target with
  | none => exact Or.inr found
  | some payload =>
    exact Or.inl (.follow reached refers (Option.isSome_iff_exists.mpr ⟨payload, found⟩))

theorem upheld_bounded (tidy : start.Tidy)
    (natives : ∀ {handle callee}, start.get? handle = some (.native callee) →
      callee.body.IsEvent) : (bounded start context).Upheld start := by
  refine upheld_start tidy natives nofun fun {handle payload} inside held => ?_
  rcases inside with reached | fresh
  · exact Space.within_of_refers held fun target => inside_of_refers reached
  · cases fresh.symm.trans held

namespace Upheld

variable {after : Space} {other : ContextRef} {handle : Handle}

theorem unreached (upheld : (bounded start context).Upheld after)
    (live : start.contains handle = true) (apart : ¬ start.ReachedFrom context handle) :
    after.get? handle = start.get? handle := by
  refine upheld.outside fun inside => ?_
  rcases inside with reached | fresh
  · exact apart reached
  · rw [Space.contains, fresh] at live
    cases live

/-- What the context reaches afterwards it reached before, or it is new. -/
theorem inside_of_reached (upheld : (bounded start context).Upheld after) (sound : start.Sound)
    (present : start.HasContext context) (reached : after.ReachedFrom context handle) :
    (bounded start context).inside handle := by
  induction reached with
  | start rooted => exact Or.inl (.start rooted (rooted ▸ present.live))
  | @follow source target _ refers _ ih =>
    refine Space.inside_of_refers refers (fun payload held => upheld.within ih held)
      fun wrapping wrapped value member target points => ?_
    rw [upheld.wraps] at wrapped
    obtain ⟨data, held⟩ := (sound.wrapped wrapped).1
    rcases ih with reached | fresh
    · exact inside_of_refers reached (.hookCapture held wrapped member points)
    · cases fresh.symm.trans held

/-- A context that shares nothing with that of the script reaches what it reached. -/
theorem reachedFrom_iff (upheld : (bounded start context).Upheld after) (sound : start.Sound)
    (present : start.HasContext other) (apart : start.Apart context other) :
    after.ReachedFrom other handle ↔ start.ReachedFrom other handle := by
  have same : ∀ {handle}, start.ReachedFrom other handle →
      after.get? handle = start.get? handle := fun reached =>
    upheld.unreached reached.live fun shared => apart _ shared reached
  constructor
  · intro reached
    induction reached with
    | start rooted => exact .start rooted (rooted ▸ present.live)
    | follow _ refers _ ih =>
      have before := refers.congr (same ih).symm upheld.wraps.symm
      exact .follow ih before (sound.live_of_refers before)
  · intro reached
    induction reached with
    | @start handle rooted live =>
      refine .start rooted ?_
      rw [Space.contains, same (.start rooted live)]
      exact live
    | @follow source target reached refers live ih =>
      refine .follow ih (refers.congr (same reached) upheld.wraps) ?_
      rw [Space.contains, same (.follow reached refers live)]
      exact live

end Upheld

end Charter

/-- A program that is executed in a context leaves everything alone that the context does not reach,
however it ends. A context that reaches nothing in common with it reaches afterwards what it reached
before, all of it unchanged, and still nothing in common with it. -/
theorem execution_leaves_unreached_alone {σ τ : Type} (host : Host σ τ) (classes : ClassRegistry)
    (fuel : Nat) (state : RunState σ τ) (context : ContextRef) (program : Program)
    (reachable : state.space.Reachable) (sound : state.space.Sound)
    (natives : ∀ {handle callee}, state.space.get? handle = some (.native callee) →
      callee.body.IsEvent)
    (unhooked : ∀ {handle wrapping}, state.space.wraps.get? handle = some wrapping →
      wrapping.setter = none)
    (present : state.space.HasContext context) :
    let after := ((Execution.executeModule context program).run host classes fuel state).2.space
    (∀ {handle payload}, state.space.get? handle = some payload →
      ¬ state.space.ReachedFrom context handle → after.get? handle = some payload) ∧
    ∀ {other}, state.space.HasContext other → state.space.Apart context other →
      (∀ handle, after.ReachedFrom other handle ↔ state.space.ReachedFrom other handle) ∧
      (∀ handle, state.space.ReachedFrom other handle →
        after.get? handle = state.space.get? handle) ∧
      after.Apart context other := by
  intro after
  have fits : (Execution.executeModule context program).Fits
      (.bounded state.space context) := ⟨Or.inl (.start rfl present.live), nofun⟩
  have upheld : (Charter.bounded state.space context).Upheld after :=
    (Charter.upheld_bounded reachable.tidy natives).execution
      (fun wrapped => nomatch unhooked wrapped) classes fuel fits
  refine ⟨fun held apart => ?_, fun {other} elsewhere apart => ⟨fun handle => ?_,
    fun handle reached => ?_, fun handle shared reached => ?_⟩⟩
  · exact (upheld.unreached (Option.isSome_iff_exists.mpr ⟨_, held⟩) apart).trans held
  · exact upheld.reachedFrom_iff sound elsewhere apart
  · exact upheld.unreached reached.live fun shared => apart handle shared reached
  · have before := (upheld.reachedFrom_iff sound elsewhere apart).mp reached
    rcases upheld.inside_of_reached sound present shared with reached' | fresh
    · exact apart handle reached' before
    · have live := before.live
      rw [Space.contains, show state.space.get? handle = none from fresh] at live
      cases live

/-- Two global contexts, each of which binds an array of its own. -/
private def neighbours : Space :=
  let first := ((SpaceAction.newGlobal "first" "" '/').run {}).2
  let second := ((SpaceAction.newGlobal "second" "" '/').run first).2
  let items := ((SpaceAction.allocateArray #[]).run second).2
  let others := ((SpaceAction.allocateArray #[]).run items).2
  let bound := ((SpaceAction.define ⟨⟨0, 0⟩⟩ "items" (.array ⟨2, 0⟩) .mutable).run others).2
  ((SpaceAction.define ⟨⟨1, 0⟩⟩ "items" (.array ⟨3, 0⟩) .mutable).run bound).2

private theorem neighbours_held {handle : Handle} {payload : Payload}
    (held : neighbours.get? handle = some payload) :
    (∃ script binding, payload = .context ⟨.global script [], binding⟩ ∧
      ∀ {name bound}, binding.get? name = some bound → neighbours.Fits bound.value) ∨
      payload = .array #[] := by
  have single : ∀ {array : Handle}, neighbours.get? array = some (.array #[]) →
      ∀ {name bound}, (Table.insert ∅ "items" ⟨.array array, .mutable⟩ :
        Table String Binding).get? name = some bound → neighbours.Fits bound.value := by
    intro array there name bound found
    rw [Table.get?_insert] at found
    split at found
    · cases found
      exact ⟨_, there⟩
    · cases found
  obtain ⟨index, generation⟩ := handle
  obtain ⟨slot, found, -, full⟩ := Space.get?_eq_some_iff.mp held
  match index, found with
  | 0, found =>
    cases found
    exact Or.inl ⟨_, _, (Option.some.inj full).symm, single rfl⟩
  | 1, found =>
    cases found
    exact Or.inl ⟨_, _, (Option.some.inj full).symm, single rfl⟩
  | 2, found | 3, found =>
    cases found
    exact Or.inr (Option.some.inj full).symm

private theorem neighbours_reached {context array : Handle} {payload : Payload}
    (here : neighbours.get? context = some payload)
    (edges : Space.edges neighbours.wraps context payload = [array])
    (there : neighbours.get? array = some (.array #[]))
    (bare : Space.edges neighbours.wraps array (.array #[]) = []) {handle : Handle}
    (reached : neighbours.ReachedFrom ⟨context⟩ handle) : handle = context ∨ handle = array := by
  induction reached with
  | start rooted => exact Or.inl rooted
  | follow _ refers _ ih =>
    rcases ih with rfl | rfl
    · rw [← Space.mem_edges_iff here, edges] at refers
      exact Or.inr (List.mem_singleton.mp refers)
    · rw [← Space.mem_edges_iff there, bare] at refers
      cases refers

/-- Puts 9 behind the items that it finds. -/
private def extending : Program :=
  .mk .empty (.mk .empty [.statement .empty (.node .empty .append
    (some (.var .empty ⟨.empty, "items", .none⟩)) (some (.literal .empty (.int 9))))])

private def extended : Space :=
  ((Execution.executeModule ⟨⟨0, 0⟩⟩ extending).run (.storing : Host Unit Empty) {} 3
    ⟨neighbours, .empty none, (), []⟩).2.space

/-- One neighbour extends its array. The other one, its array and the distance stay. -/
theorem neighbour_left_alone :
    extended.array ⟨2, 0⟩ = .ok #[.int 9] ∧ neighbours.Apart ⟨⟨0, 0⟩⟩ ⟨⟨1, 0⟩⟩ ∧
    extended.get? ⟨3, 0⟩ = some (.array #[]) ∧
    (∀ handle, extended.ReachedFrom ⟨⟨1, 0⟩⟩ handle ↔ neighbours.ReachedFrom ⟨⟨1, 0⟩⟩ handle) ∧
    extended.Apart ⟨⟨0, 0⟩⟩ ⟨⟨1, 0⟩⟩ := by
  have reachable : neighbours.Reachable :=
    (((((Relation.ReflTransGen.refl.tail (.act _ _)).tail (.act _ _)).tail (.act _ _)).tail
      (.act _ _)).tail (.act _ _)).tail (.act _ _)
  have sound : neighbours.Sound := by
    refine ⟨fun {handle payload} held => ?_, nofun⟩
    rcases neighbours_held held with ⟨script, bindings, rfl, fits⟩ | rfl
    · exact ⟨nofun, fun name binding found => fits found⟩
    · exact nofun
  have natives : ∀ {handle callee}, neighbours.get? handle = some (.native callee) →
      callee.body.IsEvent := by
    intro handle callee held
    rcases neighbours_held held with ⟨script, bindings, same, -⟩ | same
    · cases same
    · cases same
  have first := @neighbours_reached ⟨0, 0⟩ ⟨2, 0⟩ _ rfl rfl rfl rfl
  have second := @neighbours_reached ⟨1, 0⟩ ⟨3, 0⟩ _ rfl rfl rfl rfl
  have apart : neighbours.Apart ⟨⟨0, 0⟩⟩ ⟨⟨1, 0⟩⟩ := by
    intro handle reached reached'
    rcases first reached with rfl | rfl
    · rcases second reached' with same | same <;> cases same
    · rcases second reached' with same | same <;> cases same
  have main := execution_leaves_unreached_alone (.storing : Host Unit Empty) {} 3
    ⟨neighbours, .empty none, (), []⟩
    ⟨⟨0, 0⟩⟩ extending reachable sound natives nofun ⟨_, rfl⟩
  obtain ⟨same, -, distance⟩ := main.2 ⟨_, rfl⟩ apart
  refine ⟨rfl, apart, main.1 rfl fun reached => ?_, same, distance⟩
  rcases first reached with same | same <;> cases same

end ScriptEngine
