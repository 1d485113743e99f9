import ScriptEngine.Proofs.Collection
import ScriptEngine.Proofs.SpaceEdits

set_option autoImplicit false

namespace ScriptEngine

namespace Space

open Relation (ReflTransGen)

/-- The kind of the object that a handle stands for, if it is live. -/
def kind? (space : Space) (handle : Handle) : Option ObjectKind :=
  (space.get? handle).map Payload.kind

/-- What was live is live and of the same kind, and a collection that was asked for is not
forgotten. -/
structure Later (before after : Space) : Prop where
  kept : ∀ handle kind, before.kind? handle = some kind → after.kind? handle = some kind
  requested : before.collectRequested = true → after.collectRequested = true

variable {start before middle after : Space}

theorem Later.refl (space : Space) : Later space space := ⟨fun _ _ => id, id⟩

theorem Later.trans (first : Later before middle) (second : Later middle after) :
    Later before after :=
  ⟨fun handle kind live => second.kept handle kind (first.kept handle kind live),
    fun requested => second.requested (first.requested requested)⟩

theorem Later.of_slots (slots : after.slots = before.slots)
    (requested : before.collectRequested = true → after.collectRequested = true) :
    Later before after := by
  refine ⟨fun handle kind live => ?_, requested⟩
  have same : after.kind? handle = before.kind? handle := by
    simp only [kind?, Space.get?, slots]
  rw [same]
  exact live

theorem Placed.later {handle : Handle} {payload : Payload}
    (placed : Placed before handle payload after)
    (fitting : ∀ old, before.get? handle = some old → payload.kind = old.kind) :
    Later before after := by
  refine ⟨fun other kind live => ?_, fun requested => placed.ties.collectRequested.trans requested⟩
  by_cases same : other = handle
  · subst same
    obtain ⟨old, held, rfl⟩ := Option.map_eq_some_iff.mp live
    rw [kind?, placed.here, ← fitting old held]
    rfl
  · rw [kind?, placed.elsewhere other same]
    exact live

/-- Only pins, host objects and ties differ. -/
structure Rewired (before after : Space) : Prop where
  slots : after.slots = before.slots
  free : after.free = before.free
  live : after.live = before.live
  executions : after.executions = before.executions
  collectRequested : after.collectRequested = before.collectRequested

section Actions

variable {α : Type}

theorem Edits.keeps {kept : Space → Prop}
    (edit : ∀ {before after}, Edit before after → kept before → kept after)
    {operation : SpaceM α} (edits : Edits operation) : Act.Keeps kept operation := by
  intro space holds
  have edited := edits.edited space
  generalize (operation space).2 = after at edited
  induction edited with
  | refl => exact holds
  | tail _ change ih => exact edit change ih

theorem Edit.keeps {kept : Space → Prop}
    (allocate : ∀ payload, Act.Keeps kept (Space.allocate payload))
    (store : ∀ handle payload, Act.Keeps kept (Space.store handle payload))
    (edit : Edit before after) (holds : kept before) : kept after := by
  cases edit with
  | allocate plain => exact allocate _ before holds
  | fork parent site => exact ((allocate _).bind fun _ => Act.Keeps.pure _) before holds
  | store held kind => exact store _ _ before holds

theorem SameTies.refl (space : Space) : SameTies space space := ⟨rfl, rfl, rfl, rfl, rfl⟩

theorem sameTies_allocate (payload : Payload) :
    Act.Keeps (SameTies start) (Space.allocate payload) := by
  intro space ties
  unfold Space.allocate
  split
  · exact ⟨ties.pins, ties.providers, ties.wraps, ties.executions, ties.collectRequested⟩
  · split
    · exact ⟨ties.pins, ties.providers, ties.wraps, ties.executions, ties.collectRequested⟩
    · exact ties

theorem sameTies_store (handle : Handle) (payload : Payload) :
    Act.Keeps (SameTies start) (Space.store handle payload) := by
  intro space ties
  unfold Space.store
  split
  · exact ⟨ties.pins, ties.providers, ties.wraps, ties.executions, ties.collectRequested⟩
  · exact ties

theorem Edit.sameTies (edit : Edit before after) : SameTies before after :=
  edit.keeps sameTies_allocate sameTies_store (.refl before)

private theorem rewired_unpin (space : Space) (handle : Handle) :
    Rewired space (space.unpin handle) := by
  unfold unpin
  split
  · exact ⟨rfl, rfl, rfl, rfl, rfl⟩
  · split
    · exact ⟨rfl, rfl, rfl, rfl, rfl⟩
    · exact ⟨rfl, rfl, rfl, rfl, rfl⟩

theorem run_cases (action : SpaceAction α) :
    (∃ extra, ∀ space, (action.run space).2 = (space.collect extra).2) ∨
    ∀ kept : Space → Prop, (∀ payload, Act.Keeps kept (Space.allocate payload)) →
      (∀ {before after}, Edit before after → kept before → kept after) →
      (∀ {before after}, Rewired before after → kept before → kept after) →
      Act.Keeps kept action.run := by
  cases action with
  | collect extra => exact Or.inl ⟨extra, fun _ => rfl⟩
  | allocateArray items => exact Or.inr fun _ _ edit _ => (edits_allocateArray items).keeps edit
  | allocateObject data => exact Or.inr fun _ _ edit _ => (edits_allocateObject data).keeps edit
  | allocateFunction closure =>
    exact Or.inr fun _ _ edit _ => (edits_allocateFunction closure).keeps edit
  | allocateNative callee =>
    exact Or.inr fun _ _ edit _ => (edits_allocateNative callee).keeps edit
  | updateArray array change =>
    exact Or.inr fun _ _ edit _ => (edits_updateArray array change).keeps edit
  | newGlobal path source separator =>
    refine Or.inr fun _ allocate _ rewire => ?_
    refine ((allocate _).bind fun _ => Act.Keeps.pure _).bind fun context => ?_
    refine (Act.Keeps.modify fun _ => rewire ?_).bind fun _ => Act.Keeps.pure _
    exact ⟨rfl, rfl, rfl, rfl, rfl⟩
  | releaseGlobal context =>
    exact Or.inr fun _ _ _ rewire => Act.Keeps.modify fun _ => rewire (rewired_unpin _ _)
  | fork parent site => exact Or.inr fun _ _ edit _ => (edits_fork parent site).keeps edit
  | define context name value mutability =>
    exact Or.inr fun _ _ edit _ => (edits_define context name value mutability).keeps edit
  | assign context name value =>
    exact Or.inr fun _ _ edit _ => (edits_assign context name value).keeps edit
  | addSourceLine context line =>
    exact Or.inr fun _ _ edit _ => (edits_updateLines context _).keeps edit
  | addSourceLines context lines =>
    exact Or.inr fun _ _ edit _ => (edits_updateLines context _).keeps edit
  | putProperty object key value =>
    exact Or.inr fun _ _ edit _ => (edits_putProperty object key value).keeps edit
  | assignProperty object key value =>
    exact Or.inr fun _ _ edit _ => (edits_assignProperty object key value).keeps edit
  | removeProperty object key =>
    exact Or.inr fun _ _ edit _ => (edits_removeProperty object key).keeps edit
  | addListener object event callback =>
    exact Or.inr fun _ _ edit _ => (edits_addListener object event callback).keeps edit
  | removeListeners object event =>
    exact Or.inr fun _ _ edit _ => (edits_removeListeners object event).keeps edit
  | wrapObject object host setter captures =>
    refine Or.inr fun _ _ _ rewire => ?_
    refine (Act.Keeps.ask _).bind fun handle => (Act.Keeps.ask _).bind fun existing => ?_
    cases existing with
    | some existing => exact Act.Keeps.throw _
    | none => exact Act.Keeps.modify fun _ => rewire ⟨rfl, rfl, rfl, rfl, rfl⟩
  | unlink object =>
    refine Or.inr fun _ _ _ rewire => ?_
    refine (Act.Keeps.ask _).bind fun _ => (Act.Keeps.ask _).bind fun _ => ?_
    refine (Act.Keeps.modify fun _ => rewire ?_).bind fun _ => Act.Keeps.pure _
    exact ⟨rfl, rfl, rfl, rfl, rfl⟩
  | unpin handle =>
    exact Or.inr fun _ _ _ rewire => Act.Keeps.modify fun _ => rewire (rewired_unpin _ _)
  | addProvider values => exact Or.inr fun _ _ _ rewire _ => rewire ⟨rfl, rfl, rfl, rfl, rfl⟩
  | pin _ | setProvider _ _ | dropProvider _ =>
    exact Or.inr fun _ _ _ rewire => Act.Keeps.modify fun _ => rewire ⟨rfl, rfl, rfl, rfl, rfl⟩

end Actions

theorem executions_run {α : Type} (action : SpaceAction α) (space : Space) :
    (action.run space).2.executions = space.executions := by
  rcases run_cases action with ⟨extra, collects⟩ | calm
  · rw [collects, collect]
    split
    · rfl
    · rfl
  · refine calm (fun other => other.executions = space.executions) ?_ ?_ ?_ space rfl
    · intro payload other same
      exact (sameTies_allocate payload other (.refl other)).executions.trans same
    · exact fun edit same => edit.sameTies.executions.trans same
    · exact fun rewired same => rewired.executions.trans same

/-- Where operations have led to without a loss. -/
structure Undisturbed (start after : Space) : Prop where
  tidy : after.Tidy
  later : Later start after
  executions : after.executions = start.executions

theorem Tidy.undisturbed (tidy : start.Tidy) : Undisturbed start start :=
  ⟨tidy, .refl start, rfl⟩

theorem undisturbed_allocate (payload : Payload) :
    Act.Keeps (Undisturbed start) (Space.allocate payload) := by
  intro space undisturbed
  rcases undisturbed.tidy.allocate payload with
    ⟨handle, after, made, tidy, fresh, placed⟩ | ⟨failed, -⟩
  · rw [made]
    refine ⟨tidy, undisturbed.later.trans (placed.later fun old held => ?_),
      placed.ties.executions.trans undisturbed.executions⟩
    rw [fresh] at held
    cases held
  · rw [failed]
    exact undisturbed

theorem Undisturbed.edit (edit : Edit before after) (undisturbed : Undisturbed start before) :
    Undisturbed start after := by
  cases edit with
  | allocate plain => exact undisturbed_allocate _ before undisturbed
  | fork parent site =>
    exact ((undisturbed_allocate _).bind fun _ => Act.Keeps.pure _) before undisturbed
  | @store _ handle old payload held kind =>
    obtain ⟨after, stored, tidy, placed⟩ :=
      undisturbed.tidy.store payload (Option.isSome_iff_exists.mpr ⟨old, held⟩)
    rw [stored]
    refine ⟨tidy, undisturbed.later.trans (placed.later fun other found => ?_),
      placed.ties.executions.trans undisturbed.executions⟩
    cases held.symm.trans found
    exact kind

theorem Undisturbed.rewire (rewired : Rewired before after)
    (undisturbed : Undisturbed start before) : Undisturbed start after := by
  refine ⟨undisturbed.tidy.congr rewired.slots rewired.free rewired.live,
    undisturbed.later.trans (.of_slots rewired.slots fun requested => ?_),
    rewired.executions.trans undisturbed.executions⟩
  exact rewired.collectRequested.trans requested

/-- Whatever is asked of a space during an execution, nothing is lost. -/
theorem undisturbed_run (tidy : start.Tidy) (busy : start.inExecution = true) {α : Type}
    (action : SpaceAction α) : Undisturbed start (action.run start).2 := by
  rcases run_cases action with ⟨extra, collects⟩ | calm
  · rw [collects, collect_deferred busy]
    exact ⟨tidy.congr rfl rfl rfl, .of_slots rfl fun _ => rfl, rfl⟩
  · exact calm (Undisturbed start) undisturbed_allocate .edit .rewire start tidy.undisturbed

theorem Edit.step (edit : Edit before after) : Step before after := by
  have settled : ∀ {α : Type} (payload : Payload) (answer : Handle → α),
      (Space.allocate payload before).2 =
        ((do return answer (← Space.allocate payload) : SpaceM α) before).2 := by
    intro α payload answer
    rw [Act.bind_apply]
    rcases Space.allocate payload before with ⟨fault | handle, space⟩ <;> rfl
  cases edit with
  | @allocate payload plain =>
    cases payload with
    | array items =>
      rw [settled _ Value.array]
      exact .act (.allocateArray items) before
    | object data =>
      rw [settled _ Value.object]
      exact .act (.allocateObject data) before
    | function closure =>
      rw [settled _ Value.callable]
      exact .act (.allocateFunction closure) before
    | native callee =>
      rw [settled _ Value.callable]
      exact .act (.allocateNative callee) before
    | context data => exact absurd rfl plain
  | fork parent site => exact .act (.fork parent site) before
  | @store _ handle _ payload => exact .write handle payload before

/-- A request is answered by a collection that is made, and lost to nothing else. -/
theorem Step.requested (step : Step before after) (requested : before.collectRequested = true) :
    after.collectRequested = true ∨
      ∃ extra, (before.collect extra).1.deferred = false ∧ after = (before.collect extra).2 := by
  cases step with
  | enter | leave => exact Or.inl requested
  | write handle payload =>
    have same := sameTies_store handle payload before (.refl before)
    exact Or.inl (same.collectRequested.trans requested)
  | act action =>
    rcases run_cases action with ⟨extra, collects⟩ | calm
    · by_cases busy : before.inExecution = true
      · rw [collects, collect_deferred busy]
        exact Or.inl rfl
      · refine Or.inr ⟨extra, ?_, collects before⟩
        simp [collect, busy]
    · refine Or.inl (calm (fun space => space.collectRequested = true) ?_ ?_ ?_ before requested)
      · intro payload space holds
        exact (sameTies_allocate payload space (.refl space)).collectRequested.trans holds
      · exact fun edit holds => edit.sameTies.collectRequested.trans holds
      · exact fun rewired holds => rewired.collectRequested.trans holds

theorem requested_of_steps (steps : ReflTransGen Step before after)
    (requested : before.collectRequested = true) :
    after.collectRequested = true ∨
      ∃ middle extra, ReflTransGen Step before middle ∧
        (middle.collect extra).1.deferred = false ∧
        ReflTransGen Step (middle.collect extra).2 after := by
  induction steps with
  | refl => exact Or.inl requested
  | @tail last next path step ih =>
    rcases ih with still | ⟨middle, extra, until', made, since⟩
    · rcases step.requested still with kept | ⟨extra, made, rfl⟩
      · exact Or.inl kept
      · exact Or.inr ⟨last, extra, path, made, .refl⟩
    · exact Or.inr ⟨middle, extra, until', made, since.tail step⟩

end Space

end ScriptEngine
