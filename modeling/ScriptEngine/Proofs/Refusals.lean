import ScriptEngine.Proofs.LockstepOperations
import ScriptEngine.Proofs.RaisedErrors

set_option autoImplicit false

namespace ScriptEngine

/-- What a closure is named after when it is written to the place. -/
def Place.label? : Place → Option String
  | .binding _ name _ => some name
  | .property _ key => some key
  | .element _ _ | .range _ _ _ => none

/-- The value is a closure without a name, and the place has one for it. -/
structure Space.Christens (space : Space) (place : Place) (value : Value) (handle : Handle)
    (closure : Closure) (name : String) : Prop where
  points : value = .callable handle
  held : space.get? handle = some (.function closure)
  nameless : closure.name = none
  label : place.label? = some name

/-- The space once the value was offered the label of the place as its name. -/
def Space.offered (space : Space) (place : Place) (value : Value) : Space :=
  match place.label? with
  | some name => (Space.nameFunction value name space).2
  | none => space

section Runs

variable {σ τ α β : Type}

/-- An error leaves the space as the run has found it. -/
def Run.SparesSpace (run : Run σ τ Halt α) : Prop :=
  ∀ state, RaisesAt (fun last _ => last.space = state.space) (run state)

/-- However the run ends, the space stays as it was. -/
def Run.KeepsSpace (run : Run σ τ Halt α) : Prop := ∀ state, (run state).2.space = state.space

namespace Run.KeepsSpace

theorem askSpace (question : Space → Except Fault α) :
    KeepsSpace (Run.askSpace question : Run σ τ Halt α) :=
  fun _ => rfl

theorem consult (host : Host σ τ) (number : Nat) (write : HostWrite) :
    KeepsSpace (Eval.consult host number write) :=
  fun _ => rfl

end Run.KeepsSpace

namespace Run.SparesSpace

theorem pure (value : α) : SparesSpace (pure value : Run σ τ Halt α) := fun _ => trivial

theorem raise (error : ScriptError) : SparesSpace (Run.raise error : Run σ τ Halt α) :=
  fun _ _ _ => rfl

theorem fault (fault : Fault) : SparesSpace (throw (.fault fault) : Run σ τ Halt α) :=
  fun _ => .silent rfl

theorem ofSpace (operation : SpaceM α) : SparesSpace (Run.ofSpace operation : Run σ τ Halt α) :=
  fun state => Raises.ofSpace operation state

theorem bind {first : Run σ τ Halt α} {next : α → Run σ τ Halt β} (before : SparesSpace first)
    (keeps : Run.KeepsSpace first) (after : ∀ value, SparesSpace (next value)) :
    SparesSpace (first >>= next) := by
  intro state
  have raised := before state
  have same := keeps state
  rw [Act.bind_apply]
  generalize first state = ended at raised same
  rcases ended with ⟨reason | value, middle⟩
  · exact raised
  · have later := after value middle
    rwa [show middle.space = state.space from same] at later

theorem askSpace_bind {question : Space → Except Fault α} {next : α → Run σ τ Halt β}
    (after : ∀ value, SparesSpace (next value)) :
    SparesSpace (Run.askSpace question >>= next) :=
  bind (fun state => Raises.askSpace question state) (.askSpace question) after

end Run.SparesSpace

end Runs

namespace Eval

variable {σ τ : Type}

theorem sparesSpace_setProperty (host : Host σ τ) (object : Value) (key : String) (value : Value)
    (site : SourceInfo) : Run.SparesSpace (setProperty host object key value site) := by
  refine .askSpace_bind fun handle => .askSpace_bind fun wrapping => ?_
  rcases wrapping with _ | ⟨number, _ | setter, captures⟩
  · exact .ofSpace _
  · exact .ofSpace _
  · refine .bind (fun _ => trivial) (.consult host setter _) fun answer => ?_
    cases answer with
    | store stored => exact .ofSpace _
    | absorb => exact .pure ()
    | reject error => exact .raise _
    | abort fault => exact .fault fault

theorem sparesSpace_writeElement (array : Handle) (index : Nat) (value : Value) :
    Run.SparesSpace (writeElement array index value : Run σ τ Halt Unit) := by
  refine .askSpace_bind fun items => ?_
  split
  · exact .ofSpace _
  · exact .raise _

theorem sparesSpace_writeRange (array : Handle) (lower upper : Nat) (value : Value) :
    Run.SparesSpace (writeRange array lower upper value : Run σ τ Halt Unit) := by
  cases value with
  | array source =>
    refine .askSpace_bind fun replacement => .askSpace_bind fun items => ?_
    split
    · exact .ofSpace _
    · exact .raise _
  | undefined | null | bool | int | float | string | object | callable => exact .raise _

/-- Whether a constant may change is seen before anything is stored. -/
theorem assign_of_immutable {context : ContextRef} {name : String} {value : Value}
    {space after : Space}
    (refused : Space.assign context name value space = (.ok .immutable, after)) :
    after = space := by
  obtain ⟨owner, middle, asked, ended⟩ := Act.bind_eq_ok refused
  obtain rfl : space = middle := congrArg Prod.snd asked
  cases owner with
  | none => cases ended
  | some owner =>
    obtain ⟨binding, middle, asked', ended⟩ := Act.bind_eq_ok ended
    obtain rfl : space = middle := congrArg Prod.snd asked'
    rcases binding with _ | ⟨old, _ | _⟩
    · cases ended
    · obtain ⟨_, _, -, stored⟩ := Act.bind_eq_ok ended
      cases stored
    · cases ended
      rfl

theorem sparesSpace_assign (context : ContextRef) (name : String) (value : Value) :
    Run.SparesSpace (do
      match ← Run.ofSpace (Space.assign context name value) with
      | .stored => return
      | .undefined => Run.ofSpace (Space.define context name value .mutable)
      | .immutable => Run.raise (.ofKind (.immutableBinding name)) :
        Run σ τ Halt Unit) := by
  intro state
  simp only [Act.bind_apply, Run.ofSpace]
  rcases assigned : Space.assign context name value state.space with ⟨fault | answer, after⟩
  · exact .silent rfl
  · cases answer with
    | stored => trivial
    | undefined => exact Raises.ofSpace (Space.define context name value .mutable) _
    | immutable =>
      obtain rfl := assign_of_immutable assigned
      exact fun _ _ => rfl

/-- The name is offered first, and stays whatever happens to the write. -/
theorem space_of_offer {rest : Run σ τ Halt Unit} (spares : Run.SparesSpace rest) {value : Value}
    {name : String} {state after : RunState σ τ} {error : ScriptError}
    (refused : (Run.ofSpace (Space.nameFunction value name) >>= fun _ => rest) state =
      (.error (.raised error), after)) :
    after.space = (Space.nameFunction value name state.space).2 := by
  simp only [Act.bind_apply, Run.ofSpace] at refused
  cases offered : Space.nameFunction value name state.space with
  | mk result named =>
    rw [offered] at refused
    cases result with
    | error fault => cases refused
    | ok done =>
      -- What refuses the write starts from the space with the name in it.
      have spared := spares ⟨named, state.stack, state.own, state.queue⟩
      rw [show rest _ = _ from refused] at spared
      exact spared error rfl

theorem space_of_refused {host : Host σ τ} {place : Place} {value : Value} {site : SourceInfo}
    {state after : RunState σ τ} {error : ScriptError}
    (refused : writePlace host place value site state = (.error (.raised error), after)) :
    after.space = state.space.offered place value := by
  cases place with
  | binding context name declared =>
    exact space_of_offer (sparesSpace_assign context name value) refused
  | property object key =>
    exact space_of_offer (sparesSpace_setProperty host object key value site) refused
  | element array index =>
    have spared := sparesSpace_writeElement array index value state
    rw [show writeElement array index value state = _ from refused] at spared
    exact spared error rfl
  | range array lower upper =>
    have spared := sparesSpace_writeRange array lower upper value state
    rw [show writeRange array lower upper value state = _ from refused] at spared
    exact spared error rfl

end Eval

namespace Space

variable {space : Space} {place : Place} {value : Value}

theorem Christens.store_offered {handle : Handle} {closure : Closure} {name : String}
    (christens : space.Christens place value handle closure name) :
    Space.store handle (.function { closure with name := some name }) space =
      (.ok (), space.offered place value) := by
  obtain ⟨rfl, held, nameless, label⟩ := christens
  have live := contains_of_get? held
  have named : nameFunction (.callable handle) name space =
      Space.store handle (.function { closure with name := some name }) space := by
    simp [nameFunction_function held, nameless]
  simp only [offered, label, named]
  simp [Space.store, live]

theorem offered_of_not_christens
    (named : ∀ handle closure name, ¬ space.Christens place value handle closure name) :
    space.offered place value = space := by
  unfold offered
  split
  · rename_i name label
    cases value with
    | callable handle =>
      cases held : space.get? handle with
      | none => simp [nameFunction, Act.bind_apply, Act.ask, Space.get, held]
      | some payload =>
        cases payload with
        | function closure =>
          have present : closure.name ≠ none := fun nameless =>
            named handle closure name ⟨rfl, held, nameless, label⟩
          simp [nameFunction_function held, present]
        | array | object | native | context =>
          simp only [nameFunction, Act.bind_apply, Act.ask, Space.get, held]
          rfl
    | undefined | null | bool | int | float | string | array | object => rfl
  · rfl

end Space

namespace Eval

/-- A write that is refused with an error leaves the space exactly as it was, unless the value is a
closure without a name and the place is a binding or a property. Then the closure has its name, and
that is all that has changed. -/
theorem refused_write_changes_only_a_name {σ τ : Type} {host : Host σ τ} {place : Place}
    {value : Value} {site : SourceInfo} {state after : RunState σ τ} {error : ScriptError}
    (refused : writePlace host place value site state = (.error (.raised error), after)) :
    ((∀ handle closure name, ¬ state.space.Christens place value handle closure name) →
      after.space = state.space) ∧
    ∀ handle closure name, state.space.Christens place value handle closure name →
      Space.store handle (.function { closure with name := some name }) state.space =
        (.ok (), after.space) := by
  rw [space_of_refused refused]
  exact ⟨Space.offered_of_not_christens, fun _ _ _ christens => christens.store_offered⟩

/-- A closure without a name, and a constant. -/
private def fixed : RunState Unit Empty :=
  let opened := ((SpaceAction.newGlobal "main.js" "" '/').run {}).2
  let body : Program := .mk .empty (.mk .empty [])
  let stored := ((SpaceAction.allocateFunction ⟨⟨⟨0, 0⟩⟩, [], body, none⟩).run opened).2
  ⟨((SpaceAction.define ⟨⟨0, 0⟩⟩ "limit" (.int 1) .immutable).run stored).2, .empty none, (), []⟩

private def constant : Place := .binding ⟨⟨0, 0⟩⟩ "limit" true

/-- A number is refused without a trace. -/
theorem refused_number_changes_nothing :
    ∃ after, writePlace .storing constant (.int 2) .empty fixed =
      (.error (.raised (.ofKind (.immutableBinding "limit"))), after) ∧
      after.space = fixed.space := by
  have refused : writePlace .storing constant (.int 2) .empty fixed =
      (.error (.raised (.ofKind (.immutableBinding "limit"))), fixed) := rfl
  refine ⟨fixed, refused, (refused_write_changes_only_a_name refused).1 ?_⟩
  rintro handle closure name christens
  cases christens.points

/-- The constant refuses the closure, which is called by its name from then on. -/
theorem refused_closure_is_named :
    ∃ after, writePlace .storing constant (.callable ⟨1, 0⟩) .empty fixed =
      (.error (.raised (.ofKind (.immutableBinding "limit"))), after) ∧
      fixed.space.callableText ⟨1, 0⟩ = .ok "<function <anonymous>>" ∧
      after.space.callableText ⟨1, 0⟩ = .ok "<function limit>" ∧ after.space ≠ fixed.space := by
  refine ⟨_, rfl, rfl, rfl, fun same => ?_⟩
  have texts : Except.ok "<function limit>" = Except.ok "<function <anonymous>>" :=
    congrArg (fun space : Space => space.callableText ⟨1, 0⟩) same
  exact absurd (Except.ok.inj texts) (by decide)

end Eval

end ScriptEngine
