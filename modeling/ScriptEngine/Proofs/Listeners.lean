import Mathlib.Data.List.DropRight
import ScriptEngine.Proofs.Hearing
import ScriptEngine.Proofs.CollectionSurvivors

set_option autoImplicit false

namespace ScriptEngine

namespace ListenerChange

/-- The change takes the callbacks of the event away. -/
def removes (object : Handle) (event : String) : ListenerChange → Bool
  | .added _ _ _ => false
  | .removed other event' => other = object && event' = event

/-- The callback that the change adds to the event, if it adds one to this. -/
def callback? (object : Handle) (event : String) : ListenerChange → Option Value
  | .added other event' callback =>
    if other = object ∧ event' = event then some callback else none
  | .removed _ _ => none

end ListenerChange

/-- The callbacks that were added since the last removal, the oldest first. Before any removal the
callbacks that were there from the beginning are among them. -/
def standing (object : Handle) (event : String) (initial : List Value)
    (log : List ListenerChange) : List Value :=
  (if log.any (·.removes object event) then [] else initial) ++
    (log.rtakeWhile fun change => !change.removes object event).filterMap
      (·.callback? object event)

section

variable {object : Handle} {event : String} {initial : List Value} {log : List ListenerChange}
  {change : ListenerChange}

@[simp] theorem standing_nil : standing object event initial [] = initial := by
  simp [standing]

theorem standing_removed (removes : change.removes object event = true) :
    standing object event initial (log ++ [change]) = [] := by
  simp [standing, removes, List.rtakeWhile_concat_neg]

theorem standing_kept (keeps : change.removes object event = false) :
    standing object event initial (log ++ [change]) =
      standing object event initial log ++ (change.callback? object event).toList := by
  rw [standing, List.rtakeWhile_concat_pos]
  · cases added : change.callback? object event <;>
      simp [standing, keeps, added, List.filterMap_append]
  · simp [keeps]

/-- What stands after a log is what stands at first for the log that follows. -/
theorem standing_append (more : List ListenerChange) :
    standing object event initial (log ++ more) =
      standing object event (standing object event initial log) more := by
  induction more using List.reverseRecOn with
  | nil => simp
  | append_singleton more change ih =>
    rw [← List.append_assoc]
    cases removes : change.removes object event with
    | true => rw [standing_removed removes, standing_removed removes]
    | false => rw [standing_kept removes, standing_kept removes, ih]

theorem standing_singleton :
    standing object event initial [change] =
      if change.removes object event then []
      else initial ++ (change.callback? object event).toList := by
  rw [← List.nil_append [change]]
  cases removes : change.removes object event with
  | true => rw [standing_removed removes, if_pos rfl]
  | false => rw [standing_kept removes, standing_nil, if_neg Bool.false_ne_true]

theorem ListenerChange.listeners_update (change : ListenerChange) (event : String)
    (data : ObjectData) :
    ((change.update data).listeners.get? event).getD [] =
      standing change.object event ((data.listeners.get? event).getD []) [change] := by
  rw [standing_singleton]
  cases change with
  | added object event' callback =>
    by_cases same : event = event'
    · subst same
      simp [update, removes, callback?, ListenerChange.object]
    · simp [update, removes, callback?, Table.get?_insert, same, Ne.symm same]
  | removed object event' =>
    by_cases same : event = event'
    · subst same
      simp [update, removes, ListenerChange.object, Table.get?_erase]
    · simp [update, removes, callback?, Table.get?_erase, same, Ne.symm same]

theorem standing_elsewhere (elsewhere : change.object ≠ object) :
    standing object event initial [change] = initial := by
  rw [standing_singleton]
  cases change with
  | added other _ _ | removed other _ =>
    have apart : other ≠ object := elsewhere
    simp [ListenerChange.removes, ListenerChange.callback?, apart]

end

namespace Space

variable {space start before after : Space} {object : Handle} {log : List ListenerChange}

/-- The object is there, and each of its events has these callbacks. -/
def Hears (space : Space) (object : Handle) (callbacks : String → List Value) : Prop :=
  ∃ data, space.get? object = some (.object data) ∧
    ∀ event, (data.listeners.get? event).getD [] = callbacks event

theorem Hears.listeners {callbacks : String → List Value} (hears : space.Hears object callbacks)
    (event : String) : space.listeners (.object object) event = .ok (callbacks event) := by
  obtain ⟨data, held, heard⟩ := hears
  rw [listeners_object, objectData_eq_ok_iff.mpr held, ← heard event]
  rfl

theorem Hears.move {bases : Bases} {callbacks : String → List Value}
    (hears : before.Hears object callbacks) (move : Move bases before after) :
    after.Hears object callbacks := by
  obtain ⟨data, held, heard⟩ := hears
  obtain ⟨now, held', revised⟩ := move.stays held
  cases revised with
  | same => exact ⟨data, held', heard⟩
  | properties => exact ⟨_, held', heard⟩

theorem Hears.listen {callbacks : String → List Value} {change : ListenerChange}
    (hears : before.Hears object callbacks) (listened : Listened change before after) :
    after.Hears object fun event => standing object event (callbacks event) [change] := by
  obtain ⟨data, held, heard⟩ := hears
  cases listened with
  | @intro old held' placed _ =>
    by_cases here : change.object = object
    · subst here
      rw [held, Option.some.injEq, Payload.object.injEq] at held'
      subst held'
      exact ⟨_, placed.here, fun event => by rw [change.listeners_update, heard]⟩
    · refine ⟨data, (placed.elsewhere _ (Ne.symm here)).trans held, fun event => ?_⟩
      exact (heard event).trans (standing_elsewhere here).symm

theorem Trail.hears {callbacks : String → List Value} (trail : Trail start log after)
    (hears : start.Hears object callbacks) :
    after.Hears object fun event => standing object event (callbacks event) log := by
  induction trail with
  | start => simpa using hears
  | move _ move ih => exact ih.move move
  | listen _ listened ih => simpa only [standing_append] using ih.listen listened
  | count _ _ ih => exact ih

/-- What has been done since an object was there, and the changes to listeners among it: actions
that leave the object there, and executions. -/
inductive Chronicle (object : Handle) (start : Space) : List ListenerChange → Space → Prop where
  | begin : Chronicle object start [] start
  | act {log : List ListenerChange} {space : Space} {α : Type}
      (past : Chronicle object start log space) (action : SpaceAction α)
      (stays : ∃ data, (action.run space).2.get? object = some (.object data)) :
      Chronicle object start (log ++ action.heard space) (action.run space).2
  | execute {σ τ α : Type} {log : List ListenerChange} {state : RunState σ τ}
      (past : Chronicle object start log state.space) (host : Host σ τ) (classes : ClassRegistry)
      (fuel : Nat) (execution : Execution α) :
      Chronicle object start (log ++ (execution.heard host classes fuel state).2.own.record)
        (execution.run host classes fuel state).2.space

/-- Among all actions only a collection can take the object away. -/
theorem Hears.act {callbacks : String → List Value} {α : Type} (tidy : before.Tidy)
    (hears : before.Hears object callbacks) (action : SpaceAction α)
    (stays : ∃ data, (action.run before).2.get? object = some (.object data)) :
    (action.run before).2.Hears object fun event =>
      standing object event (callbacks event) (action.heard before) := by
  rcases (acted_run tidy action fun _ _ => trivial).trail .start with ⟨extra, collects, silent⟩ | on
  · obtain ⟨data, held, heard⟩ := hears
    obtain ⟨left, found⟩ := stays
    have same := (remainder_collect tidy extra).1.kept (collects ▸ found)
    rw [held, Option.some.injEq, Payload.object.injEq] at same
    subst same
    refine ⟨data, found, fun event => (heard event).trans ?_⟩
    simp only [silent, standing_nil]
  · exact on.hears hears

theorem Chronicle.hears {callbacks : String → List Value}
    (chronicle : Chronicle object start log after) (tidy : start.Tidy)
    (hears : start.Hears object callbacks) :
    after.Tidy ∧ after.Hears object fun event => standing object event (callbacks event) log := by
  induction chronicle with
  | begin => exact ⟨tidy, by simpa using hears⟩
  | @act _ space _ _ action stays ih =>
    refine ⟨keeps_run action space ih.1, ?_⟩
    simpa only [standing_append] using ih.2.act ih.1 action stays
  | execute _ host classes fuel execution ih =>
    have trail := execution.trail ih.1 host classes fuel
    refine ⟨trail.tidy ih.1, ?_⟩
    simpa only [standing_append] using trail.hears ih.2

end Space

def Payload.arity? : Payload → Option Nat
  | .function closure => some closure.parameters.length
  | .native callee => callee.arity
  | .array _ | .object _ | .context _ => none

theorem Payload.Revised.arity? {old now : Payload} (revised : old.Revised now) :
    now.arity? = old.arity? := by
  cases revised <;> rfl

namespace Space

variable {space start before after : Space} {log : List ListenerChange} {callback : Value}
  {arity : Option Nat}

theorem arity?_callable (space : Space) (handle : Handle) :
    space.arity? (.callable handle) = (space.get handle).map Payload.arity? := by
  simp only [arity?, bind, Except.bind]
  cases space.get handle with
  | error fault => rfl
  | ok payload => cases payload <;> rfl

theorem arity?_eq_ok_iff {handle : Handle} : space.arity? (.callable handle) = .ok arity ↔
    ∃ payload, space.get? handle = some payload ∧ payload.arity? = arity := by
  rw [arity?_callable, Space.get]
  cases space.get? handle <;> simp [Except.map]

theorem Move.arity? {bases : Bases} (move : Move bases before after)
    (demands : before.arity? callback = .ok arity) : after.arity? callback = .ok arity := by
  cases callback with
  | undefined | null | bool | int | float | string | array | object => exact demands
  | callable handle =>
    obtain ⟨old, held, rfl⟩ := arity?_eq_ok_iff.mp demands
    obtain ⟨now, held', revised⟩ := move.stays held
    exact arity?_eq_ok_iff.mpr ⟨now, held', revised.arity?⟩

theorem Listened.arity? {change : ListenerChange} (listened : Listened change before after)
    (demands : before.arity? callback = .ok arity) : after.arity? callback = .ok arity := by
  cases callback with
  | undefined | null | bool | int | float | string | array | object => exact demands
  | callable handle =>
    obtain ⟨old, held, rfl⟩ := arity?_eq_ok_iff.mp demands
    cases listened with
    | @intro data held' placed _ =>
      by_cases here : handle = change.object
      · subst here
        rw [held, Option.some.injEq] at held'
        subst held'
        exact arity?_eq_ok_iff.mpr ⟨_, placed.here, rfl⟩
      · exact arity?_eq_ok_iff.mpr ⟨old, (placed.elsewhere _ here).trans held, rfl⟩

theorem Trail.arity? (trail : Trail start log after)
    (demands : start.arity? callback = .ok arity) : after.arity? callback = .ok arity := by
  induction trail with
  | start => exact demands
  | move _ move ih => exact move.arity? ih
  | listen _ listened ih => exact listened.arity? ih
  | count _ _ ih => exact ih

end Space

section

variable {σ τ : Type} (env : Environment σ τ) (data : Value) (site : SourceInfo)

/-- What a listener that demands so many arguments is called with. -/
def handed (arity : Option Nat) (data : Value) : List Value :=
  if arity = some 0 then [] else [data]

/-- What a callback demands when its turn comes. It has demanded the same since `begun`. -/
structure Demands (begun space : Space) (callback : Value) (arity : Option Nat) : Prop where
  now : space.arity? callback = .ok arity
  always : ∀ {earlier}, begun.arity? callback = .ok earlier → earlier = arity

/-- The callbacks have been called one after the other, each of them once, and have returned. -/
inductive Served (begun : Space) : RunState σ τ → List Value → RunState σ τ → Prop where
  | none (state : RunState σ τ) : Served begun state [] state
  | more {state middle last : RunState σ τ} {callback answer : Value} {rest : List Value}
      {arity : Option Nat} (demands : Demands begun state.space callback arity)
      (called : env.call callback (handed arity data) site state = (.ok answer, middle))
      (others : Served begun middle rest last) : Served begun state (callback :: rest) last

/-- How a dispatch to these callbacks ends. -/
inductive Dispatched (begun : Space) (state : RunState σ τ) (callbacks : List Value) :
    Except Halt Unit × RunState σ τ → Prop where
  | completed {last : RunState σ τ} (served : Served env data site begun state callbacks last) :
      Dispatched begun state callbacks (.ok (), last)
  | stopped {before rest : List Value} {callback : Value} {arity : Option Nat}
      {middle last : RunState σ τ} {halt : Halt} (listed : callbacks = before ++ callback :: rest)
      (served : Served env data site begun state before middle)
      (demands : Demands begun middle.space callback arity)
      (called : env.call callback (handed arity data) site middle = (.error halt, last)) :
      Dispatched begun state callbacks (.error halt, last)
  | stale {before rest : List Value} {callback : Value} {middle : RunState σ τ} {fault : Fault}
      (listed : callbacks = before ++ callback :: rest)
      (served : Served env data site begun state before middle)
      (lost : middle.space.arity? callback = .error fault)
      (always : ∃ fault, begun.arity? callback = .error fault) :
      Dispatched begun state callbacks (.error (.fault fault), middle)

variable {env data site} {begun : Space} {state middle : RunState σ τ} {callback answer : Value}
  {rest : List Value} {arity : Option Nat} {outcome : Except Halt Unit × RunState σ τ}

theorem Dispatched.cons (demands : Demands begun state.space callback arity)
    (called : env.call callback (handed arity data) site state = (.ok answer, middle))
    (others : Dispatched env data site begun middle rest outcome) :
    Dispatched env data site begun state (callback :: rest) outcome := by
  have put : ∀ {before others other}, rest = before ++ other :: others →
      callback :: rest = (callback :: before) ++ other :: others := by
    rintro before others other rfl
    rfl
  cases others with
  | completed served => exact .completed (.more demands called served)
  | stopped listed served demands' called' =>
    exact .stopped (put listed) (.more demands called served) demands' called'
  | stale listed served lost already =>
    exact .stale (put listed) (.more demands called served) lost already

variable {host : Host σ τ} {classes : ClassRegistry} {fuel : Nat}

end

end ScriptEngine
