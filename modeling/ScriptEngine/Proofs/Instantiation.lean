import ScriptEngine.Proofs.UndisturbedObjects
import ScriptEngine.Proofs.Lineage

set_option autoImplicit false

namespace ScriptEngine

namespace Space

section Extended

variable {before middle after : Space}

/-- What was there is there as before, and so are the ties to hosts. -/
structure Extended (before after : Space) : Prop where
  tidy : after.Tidy
  wraps : after.wraps = before.wraps
  kept : ∀ {handle payload}, before.get? handle = some payload →
    after.get? handle = some payload

theorem Extended.refl (tidy : before.Tidy) : Extended before before := ⟨tidy, rfl, id⟩

theorem Extended.trans (first : Extended before middle) (second : Extended middle after) :
    Extended before after :=
  ⟨second.tidy, second.wraps.trans first.wraps, fun held => second.kept (first.kept held)⟩

theorem Extended.fresh (extended : Extended before after) {handle : Handle}
    (absent : after.get? handle = none) : before.get? handle = none := by
  cases held : before.get? handle with
  | none => rfl
  | some payload =>
    rw [extended.kept held] at absent
    cases absent

theorem Placed.trans {handle : Handle} {first second : Payload}
    (placed : Placed before handle first middle) (again : Placed middle handle second after) :
    Placed before handle second after where
  here := again.here
  elsewhere other apart := (again.elsewhere other apart).trans (placed.elsewhere other apart)
  ties := ⟨again.ties.pins.trans placed.ties.pins, again.ties.providers.trans placed.ties.providers,
    again.ties.wraps.trans placed.ties.wraps, again.ties.executions.trans placed.ties.executions,
    again.ties.collectRequested.trans placed.ties.collectRequested⟩
  grown := Nat.le_trans placed.grown again.grown

theorem Extended.placed (extended : Extended before middle) {handle : Handle} {payload : Payload}
    (placed : Placed middle handle payload after) (tidy : after.Tidy)
    (absent : before.get? handle = none) : Extended before after := by
  refine ⟨tidy, placed.ties.wraps.trans extended.wraps, fun {other stored} held => ?_⟩
  have apart : other ≠ handle := by
    rintro rfl
    rw [absent] at held
    cases held
  rw [placed.elsewhere other apart, extended.kept held]

end Extended

section Methods

variable {space : Space}

theorem Tidy.eventMethod (tidy : space.Tidy) (object : Value) (name : String) (arity : Nat)
    (body : NativeBody) :
    (∃ handle after, Space.eventMethod object name arity body space =
        (.ok (name, .callable handle), after) ∧ Extended space after ∧
      space.get? handle = none ∧
      after.get? handle = some (.native ⟨name, some arity, [object], body⟩)) ∨
    Space.eventMethod object name arity body space = (.error .spaceExhausted, space) ∧
      capacity ≤ space.slots.size := by
  simp only [Space.eventMethod, Space.allocateNative, Act.bind_apply]
  rcases tidy.allocate (.native ⟨name, some arity, [object], body⟩) with
    ⟨handle, after, outcome, tidy', absent, placed⟩ | ⟨outcome, full⟩
  · rw [outcome]
    have extended := (Extended.refl tidy).placed placed tidy' absent
    exact Or.inl ⟨handle, after, rfl, extended, absent, placed.here⟩
  · rw [outcome]
    exact Or.inr ⟨rfl, full⟩

/-- The methods for events of an object, if it has any: native functions that were not there
before. -/
inductive EventMethods (object : Value) (before after : Space) :
    Bool → List (String × Value) → Prop where
  | without : EventMethods object before after false []
  | fresh {on off fire : Handle} (new : ∀ method ∈ [on, off, fire], before.get? method = none)
      (listens : after.get? on = some (.native ⟨"on", some 2, [object], .subscribe⟩))
      (leaves : after.get? off = some (.native ⟨"off", some 1, [object], .unsubscribe⟩))
      (fires : after.get? fire = some (.native ⟨"trigger", some 2, [object], .dispatch⟩)) :
      EventMethods object before after true
        [("on", .callable on), ("off", .callable off), ("trigger", .callable fire)]

theorem Tidy.eventMethods (tidy : space.Tidy) (object : Value) :
    (∃ methods after, Space.eventMethods object space = (.ok methods, after) ∧
      Extended space after ∧ EventMethods object space after true methods) ∨
    ∃ after, Space.eventMethods object space = (.error .spaceExhausted, after) ∧
      capacity ≤ after.slots.size := by
  simp only [Space.eventMethods, Act.bind_apply]
  rcases tidy.eventMethod object "on" 2 .subscribe with
    ⟨on, first, outcome, extended, absent, listens⟩ | ⟨outcome, full⟩
  case inr =>
    rw [outcome]
    exact Or.inr ⟨space, rfl, full⟩
  rw [outcome]
  dsimp only
  rcases extended.tidy.eventMethod object "off" 1 .unsubscribe with
    ⟨off, second, outcome', extended', absent', leaves⟩ | ⟨outcome', full⟩
  case inr =>
    rw [outcome']
    exact Or.inr ⟨first, rfl, full⟩
  rw [outcome']
  dsimp only
  rcases extended'.tidy.eventMethod object "trigger" 2 .dispatch with
    ⟨fire, third, outcome'', extended'', absent'', fires⟩ | ⟨outcome'', full⟩
  case inr =>
    rw [outcome'']
    exact Or.inr ⟨second, rfl, full⟩
  rw [outcome'']
  have whole := (extended.trans extended').trans extended''
  refine Or.inl ⟨_, third, rfl, whole, .fresh ?_ ?_ (extended''.kept leaves) fires⟩
  · simp [absent, extended.fresh absent', (extended.trans extended').fresh absent'']
  · exact extended''.kept (extended'.kept listens)

theorem equal_callable (space : Space) (old : Value) (method : Handle) :
    space.equal old (.callable method) = .ok (old.identical (.callable method)) := by
  cases old <;> rfl

theorem identical_callable {old : Value} {method : Handle}
    (same : old.identical (.callable method) = true) : old = .callable method := by
  cases old with
  | callable handle => exact congrArg Value.callable (beq_iff_eq.mp same)
  | undefined | null | bool | int | float | string | array | object => cases same

theorem Tidy.putProperty (tidy : space.Tidy) {handle : Handle} {data : ObjectData}
    (held : space.get? handle = some (.object data)) (key : String) (value : Value) :
    ∃ after, Space.putProperty handle key value space = (.ok (), after) ∧ after.Tidy ∧
      Placed space handle
        (.object { data with properties := data.properties.insert key value }) after := by
  let change (data : ObjectData) : ObjectData :=
    { data with properties := data.properties.insert key value }
  obtain ⟨after, stored, placed⟩ := updateObject_held change held
  have tidy' := keeps_updateObject handle change space tidy
  rw [stored] at tidy'
  exact ⟨after, stored, tidy', placed⟩

theorem assignProperty_apply {handle : Handle} {data : ObjectData} {key : String}
    {value : Value} (changed : Bool) (found : space.objectData handle = .ok data)
    (verdict : (match data.properties.get? key with
      | some old => do return !(← space.equal old value)
      | none => return true) = .ok changed) :
    Space.assignProperty (.object handle) key value space =
      (if changed then Space.putProperty handle key value >>= fun _ => pure changed
      else pure changed : SpaceM Bool) space := by
  unfold Space.assignProperty
  rw [Act.bind_apply]
  refine Act.ask_bind_ok changed ?_
  rw [found]
  exact verdict

/-- A method is stored in place of what was there, unless it is there already. -/
theorem Tidy.assignMethod (tidy : space.Tidy) {handle : Handle} {data : ObjectData}
    (held : space.get? handle = some (.object data)) (key : String) (method : Handle) :
    ∃ changed after, Space.assignProperty (.object handle) key (.callable method) space =
        (.ok changed, after) ∧ after.Tidy ∧
      Placed space handle
        (.object { data with properties := data.properties.insert key (.callable method) })
        after := by
  have found : space.objectData handle = .ok data := by simp [objectData, get, held]
  obtain ⟨after, stored, tidy', placed⟩ := tidy.putProperty held key (.callable method)
  have puts : (Space.putProperty handle key (.callable method) >>= fun _ => pure true) space =
      ((.ok true : Except Fault Bool), after) := by
    rw [Act.bind_apply, stored]
    rfl
  cases before : data.properties.get? key with
  | none =>
    refine ⟨true, after, (assignProperty_apply true found ?_).trans puts, tidy', placed⟩
    rw [before]
    rfl
  | some old =>
    have verdict := space.equal_callable old method
    cases same : old.identical (.callable method) with
    | false =>
      rw [same] at verdict
      refine ⟨true, after, (assignProperty_apply true found ?_).trans puts, tidy', placed⟩
      rw [before]
      dsimp only
      rw [verdict]
      rfl
    | true =>
      rw [same] at verdict
      obtain rfl := identical_callable same
      -- Nothing is stored, and the table is what it would be with the method stored again.
      have unchanged : data.properties.insert key (.callable method) = data.properties := by
        refine Table.ext_get? fun other => ?_
        by_cases here : other = key
        · simp [here, before]
        · exact Table.get?_insert_of_ne _ _ here
      refine ⟨false, space, assignProperty_apply false found ?_, tidy, ?_⟩
      · rw [before]
        dsimp only
        rw [verdict]
        rfl
      · rw [unchanged]
        exact ⟨held, fun _ _ => rfl, .refl space, Nat.le_refl _⟩

theorem Tidy.assignMethods (tidy : space.Tidy) {handle : Handle} {data : ObjectData}
    (held : space.get? handle = some (.object data)) {methods : List (String × Value)}
    (callables : ∀ method ∈ methods, ∃ callee, method.2 = .callable callee) :
    ∃ after, Space.assignProperties (.object handle) methods space = (.ok (), after) ∧
      after.Tidy ∧
      Placed space handle
        (.object { data with properties := data.properties.insertAll methods }) after := by
  induction methods generalizing space data with
  | nil => exact ⟨space, rfl, tidy, held, fun _ _ => rfl, .refl space, Nat.le_refl _⟩
  | cons first rest ih =>
    obtain ⟨key, value⟩ := first
    obtain ⟨⟨callee, rfl⟩, others⟩ := List.forall_mem_cons.mp callables
    obtain ⟨changed, middle, stored, tidy', placed⟩ := tidy.assignMethod held key callee
    obtain ⟨after, done, tidy'', placed'⟩ := ih tidy' placed.here others
    refine ⟨after, ?_, tidy'', placed.trans placed'⟩
    simp only [Space.assignProperties, Act.bind_apply, stored, done]

end Methods

section EventMethods

variable {before middle after : Space} {object : Value} {triggers : Bool}
  {methods : List (String × Value)}

theorem EventMethods.callables (events : EventMethods object before after triggers methods) :
    ∀ method ∈ methods, ∃ callee, method.2 = .callable callee := by
  cases events with
  | without => simp
  | fresh => simp

/-- What is new is new also compared with what was there earlier. -/
theorem EventMethods.earlier (extended : Extended before middle)
    (events : EventMethods object middle after triggers methods) :
    EventMethods object before after triggers methods := by
  cases events with
  | without => exact .without
  | fresh new listens leaves fires =>
    exact .fresh (fun method member => extended.fresh (new method member)) listens leaves fires

theorem EventMethods.later (events : EventMethods object before middle triggers methods)
    (kept : ∀ {method native}, middle.get? method = some (.native native) →
      after.get? method = some (.native native)) :
    EventMethods object before after triggers methods := by
  cases events with
  | without => exact .without
  | fresh new listens leaves fires => exact .fresh new (kept listens) (kept leaves) (kept fires)

theorem EventMethods.placed (events : EventMethods object before middle triggers methods)
    {handle : Handle} {data : ObjectData} {payload : Payload}
    (held : middle.get? handle = some (.object data))
    (placed : Placed middle handle payload after) :
    EventMethods object before after triggers methods := by
  refine events.later fun {method native} found => ?_
  have apart : method ≠ handle := by
    rintro rfl
    rw [held] at found
    cases found
  rw [placed.elsewhere method apart, found]

end EventMethods

section Instance

variable {before : Space}

/-- A new instance of a class: an object of that class, with what the class has, what is given on
top of it, and fresh methods for events on top of both if the class has events. The host has it
from the start. -/
structure Instance (entry : ClassDef) (host : Nat) (extra : List (String × Value))
    (before : Space) (handle : Handle) (after : Space) : Prop where
  fresh : before.get? handle = none
  kept : ∀ {other payload}, before.get? other = some payload → after.get? other = some payload
  tied : after.wraps = before.wraps.insert handle ⟨host, entry.setter, entry.captures⟩
  object : ∃ methods properties, EventMethods (.object handle) before after entry.triggers methods ∧
    after.get? handle = some (.object { properties, className := some entry.name }) ∧
    ∀ key, properties.get? key = (methods.reverse.lookup key).or
      ((extra.reverse.lookup key).or (entry.properties.get? key))

/-- How the making of an instance can end: with the instance, for want of a slot, or because a tie
has stayed under the handle of an object that is gone. -/
inductive Wraps (entry : ClassDef) (host : Nat) (extra : List (String × Value)) (before : Space) :
    Except Fault Value × Space → Prop where
  | made {handle : Handle} {after : Space}
      (instanced : Instance entry host extra before handle after) :
      Wraps entry host extra before (.ok (.object handle), after)
  | exhausted {after : Space} (full : capacity ≤ after.slots.size) :
      Wraps entry host extra before (.error .spaceExhausted, after)
  | strayTie {handle : Handle} {existing : Wrapping} {after : Space}
      (absent : before.get? handle = none) (stray : before.wraps.get? handle = some existing) :
      Wraps entry host extra before (.error (.alreadyWrapped handle existing.host), after)

theorem Tidy.allocateObject (tidy : before.Tidy) (data : ObjectData) :
    (∃ handle after, Space.allocateObject data before = (.ok (.object handle), after) ∧
      after.Tidy ∧ before.get? handle = none ∧ Placed before handle (.object data) after) ∨
    Space.allocateObject data before = (.error .spaceExhausted, before) ∧
      capacity ≤ before.slots.size :=
  tidy.allocateAs (.object data) Value.object

private theorem wraps_taken {entry : ClassDef} {triggers : Bool} (host : Nat)
    {extra : List (String × Value)} {handle : Handle} {middle : Space}
    (methods : List (String × Value)) (absent : before.get? handle = none)
    (extended : Extended before middle) (listens : entry.triggers = triggers)
    (events : EventMethods (.object handle) before middle triggers methods)
    (held : middle.get? handle = some (.object
      { properties := (entry.properties.insertAll extra).insertAll methods,
        className := some entry.name })) :
    Wraps entry host extra before
      ((Space.wrapObject (.object handle) host entry.setter entry.captures >>= fun _ =>
        pure (Value.object handle)) middle) := by
  subst listens
  cases tie : middle.wraps.get? handle with
  | some existing =>
    have refused : Space.wrapObject (.object handle) host entry.setter entry.captures middle =
        (.error (.alreadyWrapped handle existing.host), middle) := by
      simp only [Space.wrapObject, objectHandle, Act.bind_apply, Act.ask, tie]
      rfl
    rw [Act.bind_apply, refused]
    exact .strayTie absent (extended.wraps ▸ tie)
  | none =>
    have taken : Space.wrapObject (.object handle) host entry.setter entry.captures middle =
        (.ok (), { middle with
          wraps := middle.wraps.insert handle ⟨host, entry.setter, entry.captures⟩ }) := by
      simp only [Space.wrapObject, objectHandle, Act.bind_apply, Act.ask, tie]
      rfl
    rw [Act.bind_apply, taken]
    refine .made ⟨absent, extended.kept, ?_, methods, _, events.later id, held, fun key => ?_⟩
    · dsimp only
      rw [extended.wraps]
    · rw [Table.get?_insertAll, Table.get?_insertAll]

theorem Tidy.wrapInstance (tidy : before.Tidy) (entry : ClassDef) (host : Nat)
    (extra : List (String × Value)) :
    Wraps entry host extra before (Space.wrapInstance entry host extra before) := by
  simp only [Space.wrapInstance, Act.bind_apply]
  rcases tidy.allocateObject
    { properties := entry.properties.insertAll extra, className := some entry.name } with
    ⟨handle, made, outcome, tidy', absent, placed⟩ | ⟨outcome, full⟩
  case inr =>
    rw [outcome]
    exact .exhausted full
  rw [outcome]
  dsimp only
  have extended := (Extended.refl tidy).placed placed tidy' absent
  cases listens : entry.triggers with
  | false => exact wraps_taken host [] absent extended listens .without placed.here
  | true =>
    simp only [if_true, Act.bind_apply]
    rcases tidy'.eventMethods (.object handle) with
      ⟨methods, grown, outcome', extended', events⟩ | ⟨grown, outcome', full⟩
    case inr =>
      rw [outcome']
      exact .exhausted full
    have held := extended'.kept placed.here
    obtain ⟨after, stored, tidy'', placed'⟩ := extended'.tidy.assignMethods held events.callables
    have whole := (extended.trans extended').placed placed' tidy'' absent
    -- The methods are made after the object, and yet they are new also to what was before it.
    have fresh := (events.placed held placed').earlier extended
    rw [outcome']
    dsimp only
    rw [stored]
    exact wraps_taken host methods absent whole listens fresh placed'.here

end Instance

end Space

/-- The making of an instance changes the space of a realm. A class that is not there changes
nothing. -/
theorem Realm.wrap_apply (realm : Realm) (className : String) (host : Nat)
    (extra : List (String × Value)) :
    Realm.wrap className host extra realm =
      match realm.classes.get? className with
      | some entry =>
        ((Space.wrapInstance entry host extra realm.space).1.map .ok,
          { realm with space := (Space.wrapInstance entry host extra realm.space).2 })
      | none => (.ok (.error (.ofKind (.unknownClass className))), realm) := by
  unfold Realm.wrap
  rw [Act.bind_apply]
  dsimp only [get, getThe, MonadStateOf.get]
  cases realm.classes.get? className with
  | none => rfl
  | some entry =>
    dsimp only [onSpace]
    rw [Act.map_apply]

namespace Roll

theorem space_register (roll : Roll) (call : Registration) :
    (roll.register call).realm.space = roll.realm.space := by
  unfold Roll.register
  rcases roll.realm.registerClass_cases call with ⟨kind, -, refused⟩ | ⟨entry, -, added⟩
  · rw [refused]
  · rw [added]

theorem space_registerAll (roll : Roll) (calls : List Registration) :
    (roll.registerAll calls).realm.space = roll.realm.space := by
  induction calls generalizing roll with
  | nil => rfl
  | cons call rest ih => exact (ih (roll.register call)).trans (roll.space_register call)

end Roll

/-- Whatever is registered, in whatever order and with whatever success, every class is what its
lineage makes it. One more registration is refused without a trace, or it adds a class and leaves
the others alone. Instances have what their class has, what they are given on top, and fresh methods
for events on top of both if their class has events. -/
theorem classes_and_instances_follow_lineage {space : Space} (reachable : space.Reachable)
    (config : Config) (calls : List Registration) :
    let roll := Roll.registerAll ⟨⟨space, {}, config⟩, []⟩ calls
    roll.Orderly ∧
    (∀ call, (∃ kind, roll.realm.classes.Refuses call kind ∧
        roll.realm.registerClass call.1 call.2 = (.error (.ofKind kind), roll.realm)) ∨
      ∃ entry realm, roll.realm.classes.Admits call entry ∧
        roll.realm.registerClass call.1 call.2 = (.ok (), realm) ∧
        realm.space = space ∧ realm.classes.get? call.1 = some entry ∧
        ∀ name ≠ call.1, realm.classes.get? name = roll.realm.classes.get? name) ∧
    ∀ className host extra,
      match roll.realm.classes.get? className with
      | none => Realm.wrap className host extra roll.realm =
          (.ok (.error (.ofKind (.unknownClass className))), roll.realm)
      | some entry => ∃ outcome after, Space.Wraps entry host extra space (outcome, after) ∧
          Realm.wrap className host extra roll.realm =
            (outcome.map .ok, { roll.realm with space := after }) := by
  intro roll
  have same : roll.realm.space = space := Roll.space_registerAll ⟨⟨space, {}, config⟩, []⟩ calls
  refine ⟨(Roll.orderly_empty space config).registerAll calls, fun call => ?_,
    fun className host extra => ?_⟩
  · rcases roll.realm.registerClass_cases call with refused | ⟨entry, admits, added⟩
    · exact Or.inl refused
    · refine Or.inr ⟨entry, _, admits, added, same, ?_, fun name apart => ?_⟩
      · simp [ClassRegistry.get?_add]
      · simp [ClassRegistry.get?_add, apart]
  · have applied := roll.realm.wrap_apply className host extra
    cases found : roll.realm.classes.get? className with
    | none =>
      rw [found] at applied
      exact applied
    | some entry =>
      rw [found, same] at applied
      exact ⟨_, _, reachable.tidy.wrapInstance entry host extra, applied⟩

/-- A class that gives a value twice, one below it with events and without a hook, a name that is
taken and a parent that is not there. -/
private def shapes : List Registration :=
  [("shape", { properties := [("sides", .int 3), ("sides", .int 4)], captures := [.int 1] }),
    ("square", { parent := some "shape", captures := [.int 2], triggers := true }),
    ("square", {}), ("circle", { parent := some "ellipse" })]

theorem classes_and_instances_of_shapes :
    let roll := Roll.registerAll ⟨{}, []⟩ shapes
    roll.realm.space.Reachable ∧
    roll.accepted.map Prod.fst = ["square", "shape"] ∧
    (roll.realm.classes.get? "square").any (fun entry => entry.triggers &&
      (entry.properties.get? "sides").any (·.identical (.int 4)) &&
      entry.captures.head?.any (·.identical (.int 1))) = true ∧
    ((Realm.wrap "square" 7 [("sides", .int 5)] roll.realm).1.toOption.bind
      Except.toOption).bind Value.handle? = some ⟨0, 0⟩ ∧
    roll.Orderly :=
  ⟨.refl, by decide +kernel, by decide +kernel, by decide +kernel,
    (classes_and_instances_follow_lineage .refl {} shapes).1⟩

end ScriptEngine
