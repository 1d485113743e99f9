import ScriptEngine.Proofs.PermittedChanges

set_option autoImplicit false

namespace ScriptEngine

open Relation (ReflTransGen)

theorem ok_of_bind {ε α β : Type} {first : Except ε α} {next : α → Except ε β} {value : β}
    (ended : (first >>= next) = .ok value) :
    ∃ middle, first = .ok middle ∧ next middle = .ok value := by
  cases first with
  | error reason => cases ended
  | ok middle => exact ⟨middle, rfl, ended⟩

namespace Charter

/-- A binding that a script can mean: of a context that it may touch and that is new, or that bound
the name from the start. A write to it never makes a binding in an old context. -/
def ReachesBinding (charter : Charter) (context : ContextRef) (name : String) : Prop :=
  charter.inside context.handle ∧ (charter.New context.handle ∨
    ∃ data, charter.start.get? context.handle = some (.context data) ∧
      (data.bindings.get? name).isSome = true)

/-- Something that a script can call: a closure with its loops, or a method of events. -/
def MayCall (charter : Charter) : CallTarget → Prop
  | .function closure => charter.inside closure.context.handle ∧
    (charter.looped → closure.body.loopScoped = true)
  | .native callee => callee.body.IsEvent ∧
    ∀ value ∈ callee.captures, value.Within charter.inside

namespace Upheld

variable {charter : Charter} {space : Space} {handle : Handle} {object : Value}
  {context : ContextRef} {name : String}

theorem array (upheld : charter.Upheld space) (inside : charter.inside handle)
    {items : Array Value} (read : space.array handle = .ok items) :
    ∀ value ∈ items, value.Within charter.inside :=
  upheld.within inside (Space.array_eq_ok_iff.mp read)

theorem objectData (upheld : charter.Upheld space) (inside : charter.inside handle)
    {data : ObjectData} (read : space.objectData handle = .ok data) :
    data.Within charter.inside :=
  upheld.within inside (Space.objectData_eq_ok_iff.mp read)

theorem readObject (upheld : charter.Upheld space) (within : object.Within charter.inside)
    {α : Type} {select : ObjectData → α} {answer : α}
    (read : space.readObject object select = .ok answer) :
    ∃ data : ObjectData, data.Within charter.inside ∧ select data = answer := by
  obtain ⟨handle, points, read⟩ := ok_of_bind read
  obtain ⟨data, found, same⟩ := ok_of_bind read
  cases object with
  | undefined | null | bool | int | float | string | array | callable => cases points
  | object =>
    cases points
    exact ⟨data, upheld.objectData (within _ rfl) found, Except.ok.inj same⟩

theorem property? (upheld : charter.Upheld space) (within : object.Within charter.inside)
    {key : String} {found : Option Value} (read : space.property? object key = .ok found) :
    (found.getD .undefined).Within charter.inside := by
  obtain ⟨data, fine, rfl⟩ := upheld.readObject within read
  cases present : data.properties.get? key with
  | none => exact Value.within_of_scalar rfl
  | some value => exact fine.properties present

theorem listeners (upheld : charter.Upheld space) (within : object.Within charter.inside)
    {event : String} {callbacks : List Value}
    (read : space.listeners object event = .ok callbacks) :
    ∀ callback ∈ callbacks, callback.Within charter.inside := by
  obtain ⟨data, fine, rfl⟩ := upheld.readObject within read
  cases present : data.listeners.get? event with
  | none => exact fun _ => nofun
  | some callbacks => exact fine.listeners present

theorem reachesBinding (upheld : charter.Upheld space) (inside : charter.inside context.handle)
    {data : Context} (held : space.get? context.handle = some (.context data))
    (bound : (data.bindings.get? name).isSome = true) : charter.ReachesBinding context name := by
  refine ⟨inside, ?_⟩
  cases began : charter.start.get? context.handle with
  | none => exact Or.inl began
  | some old =>
    have kind := upheld.kind began held
    cases old with
    | array | object | function | native => cases kind
    | context first =>
      obtain ⟨now, present, kept⟩ := upheld.preserved began
      rw [held, Option.some.injEq, Payload.context.injEq] at present
      subst present
      refine Or.inr ⟨first, rfl, ?_⟩
      have same := congrArg Option.isSome (kept.names name)
      rwa [Option.isSome_map, Option.isSome_map, bound, eq_comm] at same

theorem owner_inside (upheld : charter.Upheld space) (inside : charter.inside context.handle)
    {owner : ContextRef} (found : space.owner? context name = .ok (some owner)) :
    charter.inside owner.handle ∧ ∃ data,
      space.get? owner.handle = some (.context data) ∧ (data.bindings.get? name).isSome = true := by
  have along : ∀ bound {context : ContextRef}, charter.inside context.handle →
      space.ownerWithin name bound context = .ok (some owner) → charter.inside owner.handle := by
    intro bound
    induction bound with
    | zero => exact fun _ => nofun
    | succ bound ih =>
      intro context inside found
      obtain ⟨data, read, rest⟩ := ok_of_bind found
      have held := Space.context_eq_ok_iff.mp read
      split at rest
      · cases rest
        exact inside
      · split at rest
        · rename_i parent above
          exact ih ((upheld.within inside held).parent above) rest
        · cases rest
  obtain ⟨data, read, bound⟩ := Space.owner_binds found
  exact ⟨along _ inside found, data, Space.context_eq_ok_iff.mp read, bound⟩

theorem owner? (upheld : charter.Upheld space) (inside : charter.inside context.handle)
    {owner : ContextRef} (found : space.owner? context name = .ok (some owner)) :
    charter.ReachesBinding owner name := by
  obtain ⟨allowed, data, held, bound⟩ := upheld.owner_inside inside found
  exact upheld.reachesBinding allowed held bound

/-- A name that a script can mean in an old context is found in that very context. -/
theorem owner?_of_aged (upheld : charter.Upheld space)
    (reaches : charter.ReachesBinding context name) (aged : ¬ charter.New context.handle) :
    space.owner? context name = .ok (some context) := by
  obtain ⟨-, new | ⟨first, began, bound⟩⟩ := reaches
  · exact absurd new aged
  · obtain ⟨data, held, kept⟩ := upheld.preserved began
    have same := congrArg Option.isSome (kept.names name)
    rw [Option.isSome_map, Option.isSome_map, bound] at same
    have read := Space.context_eq_ok_iff.mpr held
    simp only [Space.owner?, Space.chainBound, Space.ownerWithin, read, Table.contains, same,
      bind, Except.bind, if_true, Pure.pure, Except.pure]

theorem local? (upheld : charter.Upheld space) (inside : charter.inside context.handle)
    {value : Value} (found : space.local? context name = .ok (some value)) :
    value.Within charter.inside := by
  obtain ⟨bound, looked, same⟩ := ok_of_bind found
  obtain ⟨data, read, here⟩ := ok_of_bind looked
  cases here
  obtain ⟨binding, present, rfl⟩ := Option.map_eq_some_iff.mp (Except.ok.inj same)
  exact (upheld.within inside (Space.context_eq_ok_iff.mp read)).bindings present

theorem resolve (upheld : charter.Upheld space) (inside : charter.inside context.handle)
    {value : Value} (found : space.resolve context name = .ok (.ok value)) :
    value.Within charter.inside := by
  obtain ⟨looked, read, rest⟩ := ok_of_bind found
  cases looked with
  | none => cases rest
  | some value' =>
    cases rest
    obtain ⟨owner, found, rest⟩ := ok_of_bind read
    cases owner with
    | none => cases rest
    | some owner => exact upheld.local? (upheld.owner? inside found).1 rest

theorem callTarget (upheld : charter.Upheld space) (inside : charter.inside handle)
    {target : CallTarget} (found : space.callTarget handle = .ok target) :
    charter.MayCall target := by
  obtain ⟨payload, read, rest⟩ := ok_of_bind found
  have held : space.get? handle = some payload := by
    unfold Space.get at read
    split at read
    · rename_i payload' held
      cases read
      exact held
    · cases read
  cases payload with
  | array | object | context => cases rest
  | function closure =>
    cases rest
    exact ⟨upheld.within inside held, fun looped => upheld.closures looped held⟩
  | native callee =>
    cases rest
    exact ⟨upheld.natives held, upheld.within inside held⟩

end Upheld

end Charter

/-- The operation makes admitted changes, and its answer is one of `values`. -/
def Obeys (charter : Charter) (free : Handle → Prop) {α : Type} (values : α → Prop)
    (operation : SpaceM α) : Prop :=
  ∀ space, charter.Upheld space →
    ReflTransGen (charter.Change free) space (operation space).2 ∧
      ∀ answer, (operation space).1 = .ok answer → values answer

namespace Obeys

variable {charter : Charter} {free : Handle → Prop} {α β : Type} {values : α → Prop}
  {values' : β → Prop}

theorem pure {value : α} (fitting : values value) :
    Obeys charter free values (pure value : SpaceM α) :=
  fun _ _ => ⟨.refl, fun _ same => Except.ok.inj same ▸ fitting⟩

theorem ask {question : Space → Except Fault α}
    (answers : ∀ space, charter.Upheld space → ∀ answer, question space = .ok answer →
      values answer) :
    Obeys charter free values (Act.ask question) :=
  fun space upheld => ⟨.refl, answers space upheld⟩

theorem asking (question : Space → Except Fault α) :
    Obeys charter free (fun _ => True) (Act.ask question) :=
  ask fun _ _ _ _ => trivial

theorem bind {first : SpaceM α} {next : α → SpaceM β} (before : Obeys charter free values first)
    (after : ∀ value, values value → Obeys charter free values' (next value)) :
    Obeys charter free values' (first >>= next) := by
  intro space upheld
  obtain ⟨path, answers⟩ := before space upheld
  rw [Act.bind_apply]
  generalize first space = ended at path answers
  obtain ⟨result, middle⟩ := ended
  cases result with
  | error fault => exact ⟨path, fun _ => nofun⟩
  | ok value =>
    obtain ⟨path', answers'⟩ := after value (answers value rfl) middle (upheld.changes path)
    exact ⟨path.trans path', answers'⟩

theorem weaken {values' : α → Prop} {operation : SpaceM α}
    (obeys : Obeys charter free values operation) (weaker : ∀ value, values value → values' value) :
    Obeys charter free values' operation :=
  fun space upheld => ⟨(obeys space upheld).1, fun answer same =>
    weaker answer ((obeys space upheld).2 answer same)⟩

/-- Contents that were read may be replaced by a revision of them. -/
theorem replace {question : Space → Except Fault α} {handle : Handle} {contents : α → Payload}
    (inside : charter.inside handle)
    (revises : ∀ space, charter.Upheld space → ∀ value, question space = .ok value →
      ∃ old, space.get? handle = some old ∧ charter.Revision handle old (contents value) ∧
        (free handle ∨ (contents value).properties? = old.properties?)) :
    Obeys charter free (fun _ => True) (do
      let value ← Act.ask question
      Space.store handle (contents value)) := by
  intro space upheld
  rw [Act.bind_apply]
  simp only [Act.ask]
  cases read : question space with
  | error fault => exact ⟨.refl, fun _ _ => trivial⟩
  | ok value =>
    obtain ⟨old, held, revision, kept⟩ := revises space upheld value read
    exact ⟨.single (.revise held inside revision kept), fun _ _ => trivial⟩

theorem allocate {payload : Payload} (admitted : charter.Admits payload) :
    Obeys charter free charter.New (Space.allocate payload) := by
  intro space upheld
  refine ⟨.single (.allocate admitted space), fun handle made => ?_⟩
  rcases upheld.tidy.allocate payload with ⟨handle', after, made', -, fresh, -⟩ | ⟨failed, -⟩
  · rw [made'] at made
    cases made
    exact upheld.new_of_get? fresh
  · rw [failed] at made
    cases made

theorem allocateArray {items : Array Value}
    (within : ∀ value ∈ items, value.Within charter.inside) :
    Obeys charter free (Value.Within charter.inside) (Space.allocateArray items) := by
  have admitted : charter.Admits (.array items) := ⟨nofun, fun _ => nofun, within⟩
  exact (allocate admitted).bind fun _ new =>
    pure (Value.within_of_points rfl (charter.new new))

theorem allocateObject {data : ObjectData} (within : data.Within charter.inside) :
    Obeys charter free (fun value => ∃ handle, value = .object handle ∧ charter.New handle)
      (Space.allocateObject data) := by
  have admitted : charter.Admits (.object data) := ⟨nofun, fun _ => nofun, within⟩
  exact (allocate admitted).bind fun handle new => pure ⟨handle, rfl, new⟩

theorem allocateFunction {closure : Closure} (inside : charter.inside closure.context.handle)
    (closed : charter.looped → closure.body.loopScoped = true) :
    Obeys charter free (Value.Within charter.inside) (Space.allocateFunction closure) := by
  have admitted : charter.Admits (.function closure) := by
    refine ⟨nofun, fun looped {other} same => ?_, inside⟩
    cases same
    exact closed looped
  exact (allocate admitted).bind fun _ new =>
    pure (Value.within_of_points rfl (charter.new new))

theorem fork {parent : ContextRef} (inside : charter.inside parent.handle) (site : SourceInfo) :
    Obeys charter free (fun context => charter.New context.handle) (Space.fork parent site) := by
  have admitted : charter.Admits (.context ⟨.child parent site, ∅⟩) := by
    refine ⟨nofun, fun _ => nofun, fun above => ?_, nofun⟩
    cases above
    exact inside
  exact (allocate admitted).bind fun _ new => pure new

theorem define {context : ContextRef} (new : charter.New context.handle) (name : String)
    {value : Value} (within : value.Within charter.inside) (mutability : Mutability) :
    Obeys charter free (fun _ => True) (Space.define context name value mutability) :=
  replace (charter.new new) fun _ _ _ read =>
    ⟨_, Space.context_eq_ok_iff.mp read, .declared new within, Or.inr rfl⟩

theorem nameFunction {value : Value} (within : value.Within charter.inside) (name : String) :
    Obeys charter free (fun _ => True) (Space.nameFunction value name) := by
  cases value with
  | undefined | null | bool | int | float | string | array | object => exact pure trivial
  | callable handle =>
    intro space upheld
    simp only [Space.nameFunction, Act.bind_apply, Act.ask, Space.get]
    refine ⟨?_, fun _ _ => trivial⟩
    cases held : space.get? handle with
    | none => exact .refl
    | some payload =>
      cases payload with
      | array | object | native | context => exact .refl
      | function closure =>
        dsimp only
        split
        · exact .single (.revise held (within _ rfl) .named (Or.inr rfl))
        · exact .refl

theorem assign {context : ContextRef} {name : String}
    (reaches : charter.ReachesBinding context name) {value : Value}
    (within : value.Within charter.inside) :
    Obeys charter free (fun assigned => assigned = .undefined → charter.New context.handle)
      (Space.assign context name value) := by
  intro space upheld
  simp only [Space.assign, Act.bind_apply, Act.ask]
  cases found : space.owner? context name with
  | error fault =>
    refine ⟨.refl, fun _ same => ?_⟩
    cases same
  | ok owned =>
    cases owned with
    | none =>
      refine ⟨.refl, fun _ _ _ => ?_⟩
      -- An old context that is reached by a name has an owner for it, and keeps it.
      by_contra aged
      rw [upheld.owner?_of_aged reaches aged] at found
      cases found
    | some owner =>
      obtain ⟨inside, data, held, bound⟩ := upheld.owner_inside reaches.1 found
      obtain ⟨⟨old, mutability⟩, present⟩ := Option.isSome_iff_exists.mp bound
      have context := Space.context_eq_ok_iff.mpr held
      have read : space.binding? owner name = .ok (some ⟨old, mutability⟩) := by
        rw [← present, Space.binding?, context]
        rfl
      simp only [Act.bind_apply, Act.ask, read]
      cases mutability with
      | immutable =>
        refine ⟨.refl, fun _ same absent => ?_⟩
        cases same
        cases absent
      | mutable =>
        have step : charter.Change free space _ :=
          .revise held inside (.assigned present within) (Or.inr rfl)
        simp only [Act.bind_apply, Space.define, Space.updateContext, Act.ask, context]
        generalize Space.store owner.handle _ space = ended at step
        obtain ⟨result, after⟩ := ended
        cases result with
        | error fault =>
          refine ⟨.single step, fun _ same => ?_⟩
          cases same
        | ok _ =>
          refine ⟨.single step, fun _ same absent => ?_⟩
          cases same
          cases absent

theorem updateArray {handle : Handle} (inside : charter.inside handle)
    {change : Array Value → Array Value}
    (within : ∀ items : Array Value, (∀ value ∈ items, value.Within charter.inside) →
      ∀ value ∈ change items, value.Within charter.inside) :
    Obeys charter free (fun _ => True) (Space.updateArray handle change) :=
  replace inside fun _ upheld items read =>
    ⟨_, Space.array_eq_ok_iff.mp read, .items (within items (upheld.array inside read)),
      Or.inr rfl⟩

theorem putProperty {handle : Handle} (inside : charter.inside handle) (loose : free handle)
    (key : String) {value : Value} (within : value.Within charter.inside) :
    Obeys charter free (fun _ => True) (Space.putProperty handle key value) :=
  replace inside fun _ _ _ read =>
    ⟨_, Space.objectData_eq_ok_iff.mp read, .property within, Or.inl loose⟩

theorem assignProperty {handle : Handle} (inside : charter.inside handle) (loose : free handle)
    (key : String) {value : Value} (within : value.Within charter.inside) :
    Obeys charter free (fun _ => True) (Space.assignProperty (.object handle) key value) := by
  refine (ask fun _ _ found same => (Except.ok.inj same).symm).bind fun found same => ?_
  subst same
  refine (asking _).bind fun changed _ => ?_
  cases changed with
  | true => exact (putProperty inside loose key within).bind fun _ _ => pure trivial
  | false => exact pure trivial

private theorem updateListeners {handle : Handle} (inside : charter.inside handle)
    (change : Table String (List Value) → Table String (List Value))
    (within : ∀ listeners : Table String (List Value),
      (∀ {event callbacks}, listeners.get? event = some callbacks →
        ∀ callback ∈ callbacks, callback.Within charter.inside) →
      ∀ {event callbacks}, (change listeners).get? event = some callbacks →
        ∀ callback ∈ callbacks, callback.Within charter.inside) :
    Obeys charter free (fun _ => True) (Space.updateObject handle fun data =>
      { data with listeners := change data.listeners }) :=
  replace inside fun _ upheld _ read =>
    ⟨_, Space.objectData_eq_ok_iff.mp read,
      .listeners (within _ (upheld.objectData inside read).listeners), Or.inr rfl⟩

private theorem objectHandle {object : Value} (within : object.Within charter.inside) :
    Obeys charter free charter.inside (Act.ask fun _ => Space.objectHandle object) := by
  refine ask fun _ _ handle points => ?_
  cases object with
  | undefined | null | bool | int | float | string | array | callable => cases points
  | object =>
    cases points
    exact within _ rfl

theorem addListener {object callback : Value} (within : object.Within charter.inside)
    (event : String) (fitting : callback.Within charter.inside) :
    Obeys charter free (fun _ => True) (Space.addListener object event callback) := by
  refine (objectHandle within).bind fun handle inside => ?_
  refine updateListeners inside
    (fun listeners => listeners.insert event ((listeners.get? event).getD [] ++ [callback]))
    fun listeners before {other callbacks} found => ?_
  rw [Table.get?_insert] at found
  split at found
  · cases found
    intro member listed
    rcases List.mem_append.mp listed with listed | listed
    · cases present : listeners.get? event with
      | none => simp [present] at listed
      | some callbacks =>
        rw [present] at listed
        exact before present member listed
    · cases List.mem_singleton.mp listed
      exact fitting
  · exact before found

theorem removeListeners {object : Value} (within : object.Within charter.inside)
    (event : String) :
    Obeys charter free (fun _ => True) (Space.removeListeners object event) := by
  refine (objectHandle within).bind fun handle inside => (asking _).bind fun old _ => ?_
  refine (updateListeners inside (·.erase event) fun listeners before {other callbacks} found =>
    ?_).bind fun _ _ => pure trivial
  rw [Table.get?_erase] at found
  split at found
  · cases found
  · exact before found

theorem bindArguments {context : ContextRef} (new : charter.New context.handle) :
    (bound : List (String × Value)) → (∀ entry ∈ bound, entry.2.Within charter.inside) →
    Obeys charter free (fun _ => True) (Eval.bindArguments context bound)
  | [], _ => pure trivial
  | (name, _) :: rest, within =>
    (define new name (within _ (List.mem_cons_self ..)) .mutable).bind fun _ _ =>
      bindArguments new rest fun entry member => within entry (List.mem_cons_of_mem _ member)

theorem errorObject (error : ScriptError) :
    Obeys charter free (Value.Within charter.inside) (Eval.errorObject error) := by
  have scalars : ∀ {key value}, (Table.ofList [("type", .string error.code.name),
      ("reason", .string error.message), ("line", .int (Int64.ofNat error.line))] :
        Table String Value).get? key = some value → value.handle? = none := by
    intro key value found
    simp only [Table.ofList, Table.insertAll, List.foldl, Table.get?_insert] at found
    split at found
    · cases found
      rfl
    · split at found
      · cases found
        rfl
      · split at found
        · cases found
          rfl
        · cases found
  refine (allocateObject ?_).weaken fun value made => ?_
  · exact ⟨fun found => Value.within_of_scalar (scalars found), nofun, nofun⟩
  · obtain ⟨handle, rfl, new⟩ := made
    exact Value.within_of_points rfl (charter.new new)

end Obeys

end ScriptEngine
