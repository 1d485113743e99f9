import ScriptEngine.Proofs.RenamedValues
import ScriptEngine.Proofs.SpaceEdits
import ScriptEngine.Proofs.LoopScoped

set_option autoImplicit false

namespace ScriptEngine

open Relation (ReflTransGen)

/-- The handle inside the value, if there is one, has the property. -/
def Value.Within (inside : Handle → Prop) (value : Value) : Prop :=
  ∀ handle, value.handle? = some handle → inside handle

structure ObjectData.Within (inside : Handle → Prop) (data : ObjectData) : Prop where
  properties : ∀ {key value}, data.properties.get? key = some value → value.Within inside
  context : ∀ {context}, data.context = some context → inside context.handle
  listeners : ∀ {event callbacks}, data.listeners.get? event = some callbacks →
    ∀ callback ∈ callbacks, callback.Within inside

structure Context.Within (inside : Handle → Prop) (data : Context) : Prop where
  parent : ∀ {parent}, data.parent? = some parent → inside parent.handle
  bindings : ∀ {name binding}, data.bindings.get? name = some binding →
    binding.value.Within inside

/-- Every handle in the payload has the property. -/
def Payload.Within (inside : Handle → Prop) : Payload → Prop
  | .array items => ∀ value ∈ items, value.Within inside
  | .object data => data.Within inside
  | .function closure => inside closure.context.handle
  | .native callee => ∀ value ∈ callee.captures, value.Within inside
  | .context data => data.Within inside

def Payload.properties? : Payload → Option (Table String Value)
  | .object data => some data.properties
  | _ => none

/-- What an old context keeps: where it stands, its names, their mutability and its constants. -/
structure Context.Preserved (before after : Context) : Prop where
  kind : after.kind = before.kind
  names : ∀ name, (after.bindings.get? name).map (·.mutability) =
    (before.bindings.get? name).map (·.mutability)
  constants : ∀ {name value}, before.bindings.get? name = some ⟨value, .immutable⟩ →
    after.bindings.get? name = some ⟨value, .immutable⟩

theorem Context.Preserved.refl (context : Context) : context.Preserved context :=
  ⟨rfl, fun _ => rfl, id⟩

theorem Context.Preserved.trans {before middle after : Context}
    (first : before.Preserved middle) (second : middle.Preserved after) : before.Preserved after :=
  ⟨second.kind.trans first.kind, fun name => (second.names name).trans (first.names name),
    fun bound => second.constants (first.constants bound)⟩

/-- Another value for a binding that may change is all that an old context admits. -/
theorem Context.preserved_assign {data : Context} {name : String} {old value : Value}
    (bound : data.bindings.get? name = some ⟨old, .mutable⟩) :
    data.Preserved { data with bindings := data.bindings.insert name ⟨value, .mutable⟩ } := by
  refine ⟨rfl, fun other => ?_, fun {other constant} found => ?_⟩
  · rw [Table.get?_insert]
    split
    · rename_i same
      rw [same, bound]
      rfl
    · rfl
  · rw [Table.get?_insert]
    split
    · rename_i same
      rw [same, bound] at found
      cases found
    · exact found

theorem Value.within_of_scalar {inside : Handle → Prop} {value : Value}
    (scalar : value.handle? = none) : value.Within inside := by
  intro handle points
  rw [scalar] at points
  cases points

theorem Value.within_of_points {inside : Handle → Prop} {value : Value} {handle : Handle}
    (points : value.handle? = some handle) (holds : inside handle) : value.Within inside := by
  intro other points'
  rw [points, Option.some.injEq] at points'
  exact points' ▸ holds

/-- The space that a script starts from and the handles that it may come by. Whether its jumps are
known to have loops to end in is part of the charter. -/
structure Charter where
  start : Space
  inside : Handle → Prop
  looped : Prop
  new : ∀ {handle}, start.get? handle = none → inside handle

namespace Charter

variable (charter : Charter)

/-- Nothing stood behind the handle at the start. -/
def New (handle : Handle) : Prop := charter.start.get? handle = none

/-- What may be made. -/
structure Admits (payload : Payload) : Prop where
  plain : payload.kind ≠ .native
  closed : charter.looped → ∀ {closure}, payload = .function closure →
    closure.body.loopScoped = true
  within : payload.Within charter.inside

/-- What may become of an object in one step. Only a new context gets new bindings; in an old one
a binding that may change can get another value. -/
inductive Revision (handle : Handle) : Payload → Payload → Prop where
  | items {items items' : Array Value}
      (within : ∀ value ∈ items', value.Within charter.inside) :
      Revision handle (.array items) (.array items')
  | property {data : ObjectData} {key : String} {value : Value}
      (within : value.Within charter.inside) : Revision handle (.object data)
        (.object { data with properties := data.properties.insert key value })
  | listeners {data : ObjectData} {listeners : Table String (List Value)}
      (within : ∀ {event callbacks}, listeners.get? event = some callbacks →
        ∀ callback ∈ callbacks, callback.Within charter.inside) :
      Revision handle (.object data) (.object { data with listeners })
  | named {closure : Closure} {name : Option String} :
      Revision handle (.function closure) (.function { closure with name })
  | declared {data : Context} {name : String} {binding : Binding} (new : charter.New handle)
      (within : binding.value.Within charter.inside) : Revision handle (.context data)
        (.context { data with bindings := data.bindings.insert name binding })
  | assigned {data : Context} {name : String} {old value : Value}
      (bound : data.bindings.get? name = some ⟨old, .mutable⟩)
      (within : value.Within charter.inside) : Revision handle (.context data)
        (.context { data with bindings := data.bindings.insert name ⟨value, .mutable⟩ })

/-- One change to the space. The properties of an object change only if it is a free one. -/
inductive Change (free : Handle → Prop) : Space → Space → Prop where
  | allocate {payload : Payload} (admitted : charter.Admits payload) (space : Space) :
      Change free space (Space.allocate payload space).2
  | revise {space : Space} {handle : Handle} {old payload : Payload}
      (held : space.get? handle = some old) (inside : charter.inside handle)
      (revision : charter.Revision handle old payload)
      (kept : free handle ∨ payload.properties? = old.properties?) :
      Change free space (Space.store handle payload space).2
  | count (executions : Nat) (space : Space) : Change free space { space with executions }

/-- What holds of the space as long as nothing but admitted changes are made. -/
structure Upheld (space : Space) : Prop where
  tidy : space.Tidy
  natives : ∀ {handle callee}, space.get? handle = some (.native callee) → callee.body.IsEvent
  closures : charter.looped → ∀ {handle closure},
    space.get? handle = some (.function closure) → closure.body.loopScoped = true
  within : ∀ {handle payload}, charter.inside handle → space.get? handle = some payload →
    payload.Within charter.inside
  outside : ∀ {handle}, ¬ charter.inside handle →
    space.get? handle = charter.start.get? handle
  revised : ∀ {handle old}, charter.start.get? handle = some old →
    ∃ now, space.get? handle = some now ∧ ReflTransGen (charter.Revision handle) old now
  wraps : space.wraps = charter.start.wraps

variable {charter}

theorem upheld_start (tidy : charter.start.Tidy)
    (natives : ∀ {handle callee}, charter.start.get? handle = some (.native callee) →
      callee.body.IsEvent)
    (closures : charter.looped → ∀ {handle closure},
      charter.start.get? handle = some (.function closure) → closure.body.loopScoped = true)
    (within : ∀ {handle payload}, charter.inside handle →
      charter.start.get? handle = some payload → payload.Within charter.inside) :
    charter.Upheld charter.start :=
  ⟨tidy, natives, closures, within, fun _ => rfl, fun held => ⟨_, held, .refl⟩, rfl⟩

namespace Revision

variable {handle : Handle} {old now : Payload}

theorem within (revision : charter.Revision handle old now) (before : old.Within charter.inside) :
    now.Within charter.inside := by
  cases revision with
  | items within => exact within
  | named => exact before
  | @property data key value within =>
    refine ⟨fun {other found} present => ?_, before.context, before.listeners⟩
    rw [Table.get?_insert] at present
    split at present
    · cases present
      exact within
    · exact before.properties present
  | listeners within => exact ⟨before.properties, before.context, within⟩
  | @declared data name binding new within =>
    refine ⟨before.parent, fun {other found} present => ?_⟩
    rw [Table.get?_insert] at present
    split at present
    · cases present
      exact within
    · exact before.bindings present
  | @assigned data name was value bound within =>
    refine ⟨before.parent, fun {other found} present => ?_⟩
    rw [Table.get?_insert] at present
    split at present
    · cases present
      exact within
    · exact before.bindings present

/-- A closure stays a closure with the same body, and nothing turns into a native function. -/
theorem callable (revision : charter.Revision handle old now) :
    (∀ callee, now ≠ .native callee) ∧ ∀ closure, now = .function closure →
      ∃ closure', old = .function closure' ∧ closure.body = closure'.body := by
  cases revision with
  | items | property | listeners | declared | assigned => exact ⟨nofun, nofun⟩
  | @named closure name =>
    refine ⟨nofun, fun closure' equal => ?_⟩
    cases equal
    exact ⟨closure, rfl, rfl⟩

theorem kind (revision : charter.Revision handle old now) : now.kind = old.kind := by
  cases revision <;> rfl

theorem preserved (revision : charter.Revision handle old now) (aged : ¬ charter.New handle)
    {data : Context} (began : old = .context data) :
    ∃ data', now = .context data' ∧ data.Preserved data' := by
  cases revision with
  | items | property | listeners | named => cases began
  | declared new => exact absurd new aged
  | assigned bound =>
    cases began
    exact ⟨_, rfl, Context.preserved_assign bound⟩

end Revision

section Revisions

variable {handle : Handle} {old now : Payload}

theorem kind_of_revisions (path : ReflTransGen (charter.Revision handle) old now) :
    now.kind = old.kind := by
  induction path with
  | refl => rfl
  | tail _ last ih => exact last.kind.trans ih

theorem preserved_of_revisions (path : ReflTransGen (charter.Revision handle) old now)
    (aged : ¬ charter.New handle) {data : Context} (began : old = .context data) :
    ∃ data', now = .context data' ∧ data.Preserved data' := by
  induction path with
  | refl => exact ⟨data, began, .refl data⟩
  | tail _ last ih =>
    obtain ⟨middle, here, first⟩ := ih
    obtain ⟨data', there, second⟩ := last.preserved aged here
    exact ⟨data', there, first.trans second⟩

end Revisions

namespace Upheld

variable {space after : Space} {free : Handle → Prop}

private theorem placed (upheld : charter.Upheld space) {handle : Handle} {payload : Payload}
    (tidy : after.Tidy) (placed : Space.Placed space handle payload after)
    (inside : charter.inside handle) (plain : ∀ callee, payload ≠ .native callee)
    (closed : charter.looped → ∀ closure, payload = .function closure →
      closure.body.loopScoped = true)
    (within : payload.Within charter.inside)
    (revised : ∀ {old}, charter.start.get? handle = some old →
      ReflTransGen (charter.Revision handle) old payload) : charter.Upheld after := by
  have split : ∀ {other found}, after.get? other = some found →
      other = handle ∧ found = payload ∨ space.get? other = some found := by
    intro other found held
    by_cases same : other = handle
    · subst same
      rw [placed.here, Option.some.injEq] at held
      exact Or.inl ⟨rfl, held.symm⟩
    · exact Or.inr (placed.elsewhere other same ▸ held)
  refine ⟨tidy, fun held => ?_, fun looped {other closure} held => ?_, fun allowed held => ?_,
    fun {other} apart => ?_, fun {other old} held => ?_, placed.ties.wraps.trans upheld.wraps⟩
  · rcases split held with ⟨-, same⟩ | held
    · exact absurd same.symm (plain _)
    · exact upheld.natives held
  · rcases split held with ⟨-, same⟩ | held
    · exact closed looped closure same.symm
    · exact upheld.closures looped held
  · rcases split held with ⟨-, rfl⟩ | held
    · exact within
    · exact upheld.within allowed held
  · rw [placed.elsewhere other fun same => apart (same ▸ inside)]
    exact upheld.outside apart
  · by_cases same : other = handle
    · subst same
      exact ⟨payload, placed.here, revised held⟩
    · rw [placed.elsewhere other same]
      exact upheld.revised held

theorem new_of_get? (upheld : charter.Upheld space) {handle : Handle}
    (fresh : space.get? handle = none) : charter.New handle := by
  cases held : charter.start.get? handle with
  | none => exact held
  | some old =>
    obtain ⟨now, present, -⟩ := upheld.revised held
    rw [fresh] at present
    cases present

theorem kind (upheld : charter.Upheld space) {handle : Handle} {old now : Payload}
    (began : charter.start.get? handle = some old) (held : space.get? handle = some now) :
    now.kind = old.kind := by
  obtain ⟨payload, present, path⟩ := upheld.revised began
  rw [held, Option.some.injEq] at present
  subst present
  exact kind_of_revisions path

theorem preserved (upheld : charter.Upheld space) {handle : Handle} {data : Context}
    (held : charter.start.get? handle = some (.context data)) :
    ∃ data', space.get? handle = some (.context data') ∧ data.Preserved data' := by
  have aged : ¬ charter.New handle := fun new => by
    rw [New, held] at new
    cases new
  obtain ⟨now, present, path⟩ := upheld.revised held
  obtain ⟨data', rfl, kept⟩ := preserved_of_revisions path aged rfl
  exact ⟨data', present, kept⟩

theorem change (upheld : charter.Upheld space) (change : charter.Change free space after) :
    charter.Upheld after := by
  cases change with
  | @allocate payload admitted =>
    rcases upheld.tidy.allocate payload with
      ⟨handle, after, made, tidy, fresh, placed⟩ | ⟨failed, -⟩
    · rw [made]
      -- Nothing that was live at the start has gone since, so what is fresh now is new.
      have new := upheld.new_of_get? fresh
      refine upheld.placed tidy placed (charter.new new) ?_ (fun looped _ => admitted.closed looped)
        admitted.within fun held => ?_
      · rintro callee rfl
        exact admitted.plain rfl
      · rw [new] at held
        cases held
    · rw [failed]
      exact upheld
  | @revise _ handle old payload held inside revision kept =>
    obtain ⟨after, stored, tidy, placed⟩ :=
      upheld.tidy.store payload (Option.isSome_iff_exists.mpr ⟨old, held⟩)
    rw [stored]
    refine upheld.placed tidy placed inside revision.callable.1 (fun looped closure same => ?_)
      (revision.within (upheld.within inside held)) fun {first} began => ?_
    · obtain ⟨closure', rfl, body⟩ := revision.callable.2 closure same
      rw [body]
      exact upheld.closures looped held
    · obtain ⟨now, present, path⟩ := upheld.revised began
      rw [held, Option.some.injEq] at present
      subst present
      exact path.tail revision
  | count executions =>
    exact ⟨upheld.tidy.congr rfl rfl rfl, upheld.natives, upheld.closures, upheld.within,
      upheld.outside, upheld.revised, upheld.wraps⟩

theorem changes (upheld : charter.Upheld space)
    (path : ReflTransGen (charter.Change free) space after) : charter.Upheld after := by
  induction path with
  | refl => exact upheld
  | tail _ last ih => exact ih.change last

end Upheld

/-- The charter of a script that may touch everything. -/
def unbounded (start : Space) (looped : Prop) : Charter where
  start := start
  inside _ := True
  looped := looped
  new _ := trivial

theorem upheld_unbounded {start : Space} {looped : Prop} (tidy : start.Tidy)
    (natives : ∀ {handle callee}, start.get? handle = some (.native callee) →
      callee.body.IsEvent)
    (closures : looped → ∀ {handle closure}, start.get? handle = some (.function closure) →
      closure.body.loopScoped = true) : (unbounded start looped).Upheld start := by
  refine upheld_start tidy natives closures fun {handle payload} _ _ => ?_
  have anything : ∀ value : Value, value.Within fun _ => True := fun _ _ _ => trivial
  cases payload with
  | array | native => exact fun value _ => anything value
  | function => trivial
  | object => exact ⟨fun _ => anything _, fun _ => trivial, fun _ _ _ => anything _⟩
  | context => exact ⟨fun _ => trivial, fun _ => anything _⟩

end Charter

end ScriptEngine
