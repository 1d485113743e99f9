import ScriptEngine.Eval.Call
import ScriptEngine.Proofs.Collection

set_option autoImplicit false

namespace ScriptEngine

/-- The context that has to be there for a payload to be made: the one that a closure is written in,
unless it may be a stray one, and the parent of a context. -/
def Payload.base? (stray : ContextRef → Bool) : Payload → Option ContextRef
  | .function closure => if stray closure.context then none else some closure.context
  | .context data => data.parent?
  | _ => none

/-- What may become of an object that is there. Its place in the chains stays, and so do the
listeners of an object and what a callable takes. -/
inductive Payload.Revised : Payload → Payload → Prop where
  | same (payload : Payload) : Revised payload payload
  | items (items items' : Array Value) : Revised (.array items) (.array items')
  | properties (data : ObjectData) (properties : Table String Value) :
      Revised (.object data) (.object { data with properties })
  | named (closure : Closure) (name : Option String) :
      Revised (.function closure) (.function { closure with name })
  | context {data data' : Context} (above : data'.parent? = data.parent?) :
      Revised (.context data) (.context data')

namespace Space

open Relation (ReflTransGen)

/-- The contexts that others may be made below, and those that closures may be written in all the
same. -/
structure Bases where
  parents : Space → ContextRef → Prop
  stray : ContextRef → Bool

/-- One move. Of what a space keeps besides its objects everything may change but the number of
executions. -/
inductive Move (bases : Bases) (before after : Space) : Prop where
  | make {handle : Handle} {payload : Payload} (fresh : before.get? handle = none)
      (based : ∀ base, payload.base? bases.stray = some base → bases.parents before base)
      (placed : Placed before handle payload after) (tidy : after.Tidy)
  | revise {handle : Handle} {old payload : Payload} (held : before.get? handle = some old)
      (revised : old.Revised payload) (placed : Placed before handle payload after)
      (tidy : after.Tidy)
  | rewire (slots : after.slots = before.slots) (free : after.free = before.free)
      (live : after.live = before.live) (executions : after.executions = before.executions)

def Moved (bases : Bases) : Space → Space → Prop := ReflTransGen (Move bases)

/-- However it ends, the operation has made moves and nothing else. -/
def Moves (bases : Bases) {α : Type} (operation : SpaceM α) : Prop :=
  ∀ space, space.Tidy → Moved bases space (operation space).2

theorem get?_of_slots {before after : Space} (slots : after.slots = before.slots)
    (handle : Handle) : after.get? handle = before.get? handle := by
  simp only [Space.get?, slots]

section Moves

variable {bases : Bases} {before after : Space} {handle : Handle} {old now : Payload}

theorem Move.tidy (move : Move bases before after) (tidy : before.Tidy) : after.Tidy := by
  cases move with
  | make _ _ _ after | revise _ _ _ after => exact after
  | rewire slots free live => exact tidy.congr slots free live

theorem Move.executions (move : Move bases before after) :
    after.executions = before.executions := by
  cases move with
  | make _ _ placed | revise _ _ placed => exact placed.ties.executions
  | rewire _ _ _ executions => exact executions

/-- What was there is there, and at most revised. -/
theorem Move.stays (move : Move bases before after) (held : before.get? handle = some old) :
    ∃ now, after.get? handle = some now ∧ old.Revised now := by
  cases move with
  | rewire slots => exact ⟨old, (get?_of_slots slots handle).trans held, .same old⟩
  | @make target payload fresh _ placed =>
    have apart : handle ≠ target := by
      rintro rfl
      rw [fresh] at held
      cases held
    exact ⟨old, (placed.elsewhere handle apart).trans held, .same old⟩
  | @revise target was payload held' revised placed =>
    by_cases same : handle = target
    · subst same
      rw [held, Option.some.injEq] at held'
      exact ⟨payload, placed.here, held' ▸ revised⟩
    · exact ⟨old, (placed.elsewhere handle same).trans held, .same old⟩

/-- What is there was there, or else it is new. -/
theorem Move.origin (move : Move bases before after) (held : after.get? handle = some now) :
    (∃ old, before.get? handle = some old ∧ old.Revised now) ∨
      before.get? handle = none ∧
        ∀ base, now.base? bases.stray = some base → bases.parents before base := by
  cases move with
  | rewire slots => exact .inl ⟨now, (get?_of_slots slots handle).symm.trans held, .same now⟩
  | @make target payload fresh based placed =>
    by_cases same : handle = target
    · subst same
      rw [placed.here, Option.some.injEq] at held
      exact .inr ⟨fresh, held ▸ based⟩
    · exact .inl ⟨now, (placed.elsewhere handle same).symm.trans held, .same now⟩
  | @revise target was payload held' revised placed =>
    by_cases same : handle = target
    · subst same
      rw [placed.here, Option.some.injEq] at held
      exact .inl ⟨was, held', held ▸ revised⟩
    · exact .inl ⟨now, (placed.elsewhere handle same).symm.trans held, .same now⟩

theorem Moved.tidy (moved : Moved bases before after) (tidy : before.Tidy) : after.Tidy := by
  induction moved with
  | refl => exact tidy
  | tail _ move ih => exact move.tidy ih

end Moves

section Rules

variable {bases : Bases} {space : Space} {α β : Type}

theorem Moves.pure (value : α) : Moves bases (pure value : SpaceM α) := fun _ _ => .refl

theorem Moves.throw (fault : Fault) : Moves bases (throw fault : SpaceM α) := fun _ _ => .refl

theorem Moves.ask (question : Space → Except Fault α) : Moves bases (Act.ask question) :=
  fun _ _ => .refl

theorem Moves.modify {change : Space → Space} (slots : ∀ space, (change space).slots = space.slots)
    (free : ∀ space, (change space).free = space.free)
    (live : ∀ space, (change space).live = space.live)
    (executions : ∀ space, (change space).executions = space.executions) :
    Moves bases (modify change : SpaceM PUnit) :=
  fun space _ => .single (.rewire (slots space) (free space) (live space) (executions space))

theorem Moved.bind {first : SpaceM α} {next : α → SpaceM β} (tidy : space.Tidy)
    (before : Moved bases space (first space).2) (after : ∀ value, Moves bases (next value)) :
    Moved bases space ((first >>= next) space).2 := by
  rw [Act.bind_apply]
  generalize first space = ended at before
  rcases ended with ⟨fault | value, middle⟩
  · exact before
  · exact before.trans (after value middle (before.tidy tidy))

theorem Moves.bind {first : SpaceM α} {next : α → SpaceM β} (before : Moves bases first)
    (after : ∀ value, Moves bases (next value)) : Moves bases (first >>= next) :=
  fun space tidy => (before space tidy).bind tidy after

theorem moved_allocate (tidy : space.Tidy) {payload : Payload}
    (based : ∀ base, payload.base? bases.stray = some base → bases.parents space base) :
    Moved bases space (Space.allocate payload space).2 := by
  rcases tidy.allocate payload with ⟨handle, after, made, tidy', fresh, placed⟩ | ⟨full, -⟩
  · rw [made]
    exact .single (.make fresh based placed tidy')
  · rw [full]
    exact .refl

theorem moves_allocate {payload : Payload} (free : payload.base? bases.stray = none) :
    Moves bases (Space.allocate payload) :=
  fun _ tidy => moved_allocate tidy fun base based => by
    rw [free] at based
    cases based

theorem moved_store (tidy : space.Tidy) {handle : Handle} {old payload : Payload}
    (held : space.get? handle = some old) (revised : old.Revised payload) :
    Moved bases space (Space.store handle payload space).2 := by
  obtain ⟨after, stored, tidy', placed⟩ := tidy.store payload (contains_of_get? held)
  rw [stored]
  exact .single (.revise held revised placed tidy')

theorem moves_replace {question : Space → Except Fault α} {handle : Handle}
    {contents : α → Payload}
    (held : ∀ space value, question space = .ok value →
      ∃ old, space.get? handle = some old ∧ old.Revised (contents value)) :
    Moves bases (do
      let value ← Act.ask question
      Space.store handle (contents value)) := by
  intro space tidy
  rw [Act.bind_apply]
  simp only [Act.ask]
  cases read : question space with
  | error fault => exact .refl
  | ok value =>
    obtain ⟨old, found, revised⟩ := held space value read
    exact moved_store tidy found revised

end Rules

section Operations

variable {bases : Bases} {space : Space}

theorem moves_updateArray (handle : Handle) (change : Array Value → Array Value) :
    Moves bases (updateArray handle change) :=
  moves_replace fun _ _ read => ⟨_, array_eq_ok_iff.mp read, .items _ _⟩

theorem moves_properties (handle : Handle)
    (change : ObjectData → Table String Value) :
    Moves bases (updateObject handle fun data => { data with properties := change data }) :=
  moves_replace fun _ _ read => ⟨_, objectData_eq_ok_iff.mp read, .properties _ _⟩

theorem moves_updateContext (context : ContextRef) {change : Context → Context}
    (above : ∀ data, (change data).parent? = data.parent?) :
    Moves bases (updateContext context change) :=
  moves_replace fun _ _ read => ⟨_, context_eq_ok_iff.mp read, .context (above _)⟩

theorem moves_allocateArray (items : Array Value) : Moves bases (allocateArray items) :=
  (moves_allocate rfl).bind fun _ => .pure _

theorem moves_allocateObject (data : ObjectData) : Moves bases (allocateObject data) :=
  (moves_allocate rfl).bind fun _ => .pure _

theorem moves_allocateNative (callee : NativeFunction) : Moves bases (allocateNative callee) :=
  (moves_allocate rfl).bind fun _ => .pure _

theorem moved_allocateFunction (tidy : space.Tidy) {closure : Closure}
    (based : bases.stray closure.context = false → bases.parents space closure.context) :
    Moved bases space (allocateFunction closure space).2 := by
  refine (moved_allocate tidy fun base same => ?_).bind tidy fun _ => .pure _
  simp only [Payload.base?] at same
  split at same
  · cases same
  · next kept =>
    cases same
    exact based (by simpa using kept)

theorem moved_fork (tidy : space.Tidy) {parent : ContextRef} (based : bases.parents space parent)
    (site : SourceInfo) : Moved bases space (Space.fork parent site space).2 := by
  refine (moved_allocate tidy fun base same => ?_).bind tidy fun _ => .pure _
  cases same
  exact based

theorem moves_newGlobal (path source : String) (separator : Char) :
    Moves bases (newGlobal path source separator) := by
  refine ((moves_allocate rfl).bind fun _ => .pure _).bind fun context => ?_
  refine (Moves.modify ?_ ?_ ?_ ?_).bind fun _ => .pure _
  all_goals exact fun _ => rfl

theorem moves_define (context : ContextRef) (name : String) (value : Value)
    (mutability : Mutability) : Moves bases (define context name value mutability) :=
  moves_updateContext _ fun _ => rfl

theorem moves_assign (context : ContextRef) (name : String) (value : Value) :
    Moves bases (assign context name value) := by
  refine (Moves.ask _).bind fun owner => ?_
  cases owner with
  | none => exact .pure _
  | some owner =>
    refine (Moves.ask _).bind fun binding => ?_
    rcases binding with _ | ⟨old, _ | _⟩
    · exact .pure _
    · exact (moves_define _ _ _ _).bind fun _ => .pure _
    · exact .pure _

theorem moves_updateLines (context : ContextRef) (change : List String → List String) :
    Moves bases (updateLines context change) := by
  refine (Moves.ask _).bind fun global => moves_updateContext _ fun data => ?_
  cases kind : data.kind <;> simp [Context.parent?, kind]

theorem moves_putProperty (handle : Handle) (key : String) (value : Value) :
    Moves bases (putProperty handle key value) :=
  moves_properties _ _

theorem moves_assignProperty (object : Value) (key : String) (value : Value) :
    Moves bases (assignProperty object key value) := by
  refine (Moves.ask _).bind fun handle => (Moves.ask _).bind fun changed => ?_
  cases changed with
  | true => exact (moves_putProperty _ _ _).bind fun _ => .pure _
  | false => exact .pure _

theorem moves_removeProperty (object : Value) (key : String) :
    Moves bases (removeProperty object key) :=
  (Moves.ask _).bind fun _ => (Moves.ask _).bind fun _ =>
    (moves_properties _ _).bind fun _ => .pure _

theorem moves_nameFunction (value : Value) (name : String) :
    Moves bases (nameFunction value name) := by
  cases value with
  | undefined | null | bool | int | float | string | array | object => exact .pure _
  | callable handle =>
    intro space tidy
    simp only [nameFunction, Act.bind_apply, Act.ask, Space.get]
    cases held : space.get? handle with
    | none => exact .refl
    | some payload =>
      cases payload with
      | array | object | native | context => exact .refl
      | function closure =>
        dsimp only
        split
        · exact moved_store tidy held (.named closure _)
        · exact .refl

theorem moves_wrapObject (object : Value) (host : Nat) (setter : Option Nat)
    (captures : List Value) : Moves bases (wrapObject object host setter captures) := by
  refine (Moves.ask _).bind fun handle => (Moves.ask _).bind fun existing => ?_
  cases existing with
  | some existing => exact .throw _
  | none =>
    refine Moves.modify ?_ ?_ ?_ ?_
    all_goals exact fun _ => rfl

theorem moves_unlink (object : Value) : Moves bases (unlink object) := by
  refine (Moves.ask _).bind fun _ => (Moves.ask _).bind fun _ => ?_
  refine (Moves.modify ?_ ?_ ?_ ?_).bind fun _ => .pure _
  all_goals exact fun _ => rfl

theorem move_unpin (space : Space) (handle : Handle) :
    Move bases space (space.unpin handle) := by
  unfold unpin
  split
  · exact .rewire rfl rfl rfl rfl
  · split
    · exact .rewire rfl rfl rfl rfl
    · exact .rewire rfl rfl rfl rfl

theorem move_collect (busy : space.inExecution = true) (extra : List Handle) :
    Move bases space (space.collect extra).2 := by
  rw [collect_deferred busy]
  exact .rewire rfl rfl rfl rfl

end Operations

end Space

theorem Eval.moves_bindArguments {bases : Space.Bases} (context : ContextRef) :
    (bound : List (String × Value)) → Space.Moves bases (bindArguments context bound)
  | [] => .pure _
  | (name, value) :: rest =>
    (Space.moves_define context name value .mutable).bind fun _ =>
      moves_bindArguments context rest

inductive ListenerChange where
  | added (object : Handle) (event : String) (callback : Value)
  | removed (object : Handle) (event : String)

namespace ListenerChange

def object : ListenerChange → Handle
  | .added object _ _ => object
  | .removed object _ => object

/-- What the change makes of the listeners of its object. -/
def update : ListenerChange → ObjectData → ObjectData
  | .added _ event callback, data =>
    { data with
      listeners := data.listeners.insert event
        ((data.listeners.get? event).getD [] ++ [callback]) }
  | .removed _ event, data => { data with listeners := data.listeners.erase event }

end ListenerChange

namespace SpaceAction

variable {α : Type}

/-- What an action that succeeds has changed about listeners. -/
def listenerChanges : SpaceAction α → List ListenerChange
  | .addListener (.object object) event callback => [.added object event callback]
  | .removeListeners (.object object) event => [.removed object event]
  | _ => []

/-- The context that has to be there for an action. -/
def base? (stray : ContextRef → Bool) : SpaceAction α → Option ContextRef
  | .allocateFunction closure => if stray closure.context then none else some closure.context
  | .fork parent _ => some parent
  | _ => none

end SpaceAction

namespace Space

/-- The listeners of an object have changed and nothing else has. -/
inductive Listened (change : ListenerChange) (before after : Space) : Prop where
  | intro {data : ObjectData} (held : before.get? change.object = some (.object data))
      (placed : Placed before change.object (.object (change.update data)) after)
      (tidy : after.Tidy)

section Listened

variable {change : ListenerChange} {before after : Space}

theorem Listened.tidy (listened : Listened change before after) : after.Tidy := by
  cases listened with
  | intro _ _ tidy => exact tidy

theorem Listened.executions (listened : Listened change before after) :
    after.executions = before.executions := by
  cases listened with
  | intro _ placed => exact placed.ties.executions

end Listened

/-- What an action comes down to. -/
inductive Acted (bases : Bases) {α : Type} (action : SpaceAction α) (space : Space) : Prop where
  | collect (extra : List Handle) (collects : (action.run space).2 = (space.collect extra).2)
      (silent : action.listenerChanges = [])
  | listen (change : ListenerChange) (noted : action.listenerChanges = [change])
      (ended : ∃ answer, (action.run space).1 = .ok answer)
      (listened : Listened change space (action.run space).2)
  | move (moved : Moved bases space (action.run space).2)
      (silent : ∀ answer, (action.run space).1 = .ok answer → action.listenerChanges = [])

variable {bases : Bases} {space : Space} {α : Type}

theorem Moves.acted {action : SpaceAction α} (moves : Moves bases action.run)
    (silent : action.listenerChanges = []) (tidy : space.Tidy) : Acted bases action space :=
  .move (moves space tidy) fun _ _ => silent

theorem updateObject_listeners (tidy : space.Tidy) (change : ListenerChange) (handle : Handle)
    (here : change.object = handle) :
    (∃ data after, space.objectData handle = .ok data ∧
      updateObject handle change.update space = (.ok (), after) ∧ Listened change space after) ∨
    ∃ fault, space.objectData handle = .error fault ∧
      updateObject handle change.update space = (.error fault, space) := by
  subst here
  cases read : space.objectData change.object with
  | error fault =>
    refine .inr ⟨fault, rfl, ?_⟩
    simp only [updateObject, Act.bind_apply, Act.ask, read]
  | ok data =>
    have held := objectData_eq_ok_iff.mp read
    obtain ⟨after, stored, tidy', placed⟩ :=
      tidy.store (.object (change.update data)) (contains_of_get? held)
    refine .inl ⟨data, after, rfl, ?_, .intro held placed tidy'⟩
    simp only [updateObject, Act.bind_apply, Act.ask, read, stored]

theorem Acted.of_listened {action : SpaceAction α} {change : ListenerChange} {answer : α}
    {after : Space} (noted : action.listenerChanges = [change])
    (run : action.run space = (.ok answer, after)) (listened : Listened change space after) :
    Acted bases action space :=
  .listen change noted ⟨answer, by rw [run]⟩ (by rwa [run])

theorem Acted.of_error {action : SpaceAction α} {fault : Fault}
    (run : action.run space = (.error fault, space)) : Acted bases action space := by
  refine .move ?_ fun answer ended => ?_
  · rw [run]
    exact .refl
  · rw [run] at ended
    cases ended

theorem listeners_object (space : Space) (handle : Handle) (event : String) :
    space.listeners (.object handle) event =
      (space.objectData handle).map fun data => (data.listeners.get? event).getD [] := by
  simp only [listeners, readObject, objectHandle, bind, Except.bind]
  cases space.objectData handle <;> rfl

theorem acted_addListener (tidy : space.Tidy) (object : Value) (event : String)
    (callback : Value) : Acted bases (.addListener object event callback) space := by
  cases object with
  | undefined | null | bool | int | float | string | array | callable => exact .of_error rfl
  | object handle =>
    rcases updateObject_listeners tidy (.added handle event callback) handle rfl with
      ⟨data, after, -, updated, listened⟩ | ⟨fault, -, failed⟩
    · exact .of_listened rfl updated listened
    · exact .of_error failed

theorem acted_removeListeners (tidy : space.Tidy) (object : Value) (event : String) :
    Acted bases (.removeListeners object event) space := by
  cases object with
  | undefined | null | bool | int | float | string | array | callable => exact .of_error rfl
  | object handle =>
    have run : (SpaceAction.removeListeners (.object handle) event).run =
        (Act.ask (·.listeners (.object handle) event) >>= fun old =>
          updateObject handle (ListenerChange.removed handle event).update >>= fun _ =>
            pure old.length : SpaceM Nat) := rfl
    rcases updateObject_listeners tidy (.removed handle event) handle rfl with
      ⟨data, after, read, updated, listened⟩ | ⟨fault, read, failed⟩
    · have asked : space.listeners (.object handle) event =
          .ok ((data.listeners.get? event).getD []) := by
        rw [listeners_object, read]
        rfl
      have ended : (SpaceAction.removeListeners (.object handle) event).run space =
          (.ok ((data.listeners.get? event).getD []).length, after) := by
        simp only [run, Act.bind_apply, Act.ask, asked, updated]
        rfl
      exact .of_listened rfl ended listened
    · have asked : space.listeners (.object handle) event = .error fault := by
        rw [listeners_object, read]
        rfl
      have ended : (SpaceAction.removeListeners (.object handle) event).run space =
          (.error fault, space) := by
        simp only [run, Act.bind_apply, Act.ask, asked]
      exact .of_error ended

/-- Every action is a collection, changes listeners, or else makes moves. -/
theorem acted_run (tidy : space.Tidy) (action : SpaceAction α)
    (based : ∀ base, action.base? bases.stray = some base → bases.parents space base) :
    Acted bases action space := by
  cases action with
  | collect extra => exact .collect extra rfl rfl
  | addListener object event callback => exact acted_addListener tidy object event callback
  | removeListeners object event => exact acted_removeListeners tidy object event
  | allocateArray items => exact (moves_allocateArray items).acted rfl tidy
  | allocateObject data => exact (moves_allocateObject data).acted rfl tidy
  | allocateFunction closure =>
    have written : bases.stray closure.context = false → bases.parents space closure.context :=
      fun kept => based _ (by simp [SpaceAction.base?, kept])
    exact .move (moved_allocateFunction tidy written) fun _ _ => rfl
  | allocateNative callee => exact (moves_allocateNative callee).acted rfl tidy
  | updateArray array change => exact (moves_updateArray array change).acted rfl tidy
  | newGlobal path source separator =>
    exact (moves_newGlobal path source separator).acted rfl tidy
  | releaseGlobal context => exact .move (.single (move_unpin _ _)) fun _ _ => rfl
  | fork parent site => exact .move (moved_fork tidy (based _ rfl) site) fun _ _ => rfl
  | define context name value mutability =>
    exact (moves_define context name value mutability).acted rfl tidy
  | assign context name value => exact (moves_assign context name value).acted rfl tidy
  | addSourceLine context line => exact (moves_updateLines context _).acted rfl tidy
  | addSourceLines context lines => exact (moves_updateLines context _).acted rfl tidy
  | putProperty object key value => exact (moves_putProperty object key value).acted rfl tidy
  | assignProperty object key value =>
    exact (moves_assignProperty object key value).acted rfl tidy
  | removeProperty object key => exact (moves_removeProperty object key).acted rfl tidy
  | wrapObject object host setter captures =>
    exact (moves_wrapObject object host setter captures).acted rfl tidy
  | unlink object => exact (moves_unlink object).acted rfl tidy
  | unpin handle => exact .move (.single (move_unpin _ _)) fun _ _ => rfl
  | pin | addProvider | setProvider | dropProvider =>
    exact .move (.single (.rewire rfl rfl rfl rfl)) fun _ _ => rfl

end Space

end ScriptEngine
