import ScriptEngine.Proofs.PermittedOperations

set_option autoImplicit false

namespace ScriptEngine

section Runs

def Halt.error? : Halt → Option ScriptError
  | .raised error => some error
  | .fault _ | .outOfFuel => none

def Exit.error? : Exit → Option ScriptError
  | .halted halt => halt.error?
  | .jumped _ | .returned _ => none

/-- Early ends, with the errors among them. -/
class Raising (ε : Type) where
  error? : ε → Option ScriptError

instance : Raising Halt := ⟨Halt.error?⟩

instance : Raising Exit := ⟨Exit.error?⟩

variable {σ τ ε α β : Type}

/-- The error that a run has ended with, if it is one, is among the errors for its last state. -/
def RaisesAt [Raising ε] (errors : RunState σ τ → ScriptError → Prop) :
    Except ε α × RunState σ τ → Prop
  | (.ok _, _) => True
  | (.error reason, last) => ∀ error, Raising.error? reason = some error → errors last error

/-- Every error that the run can end with is among these. -/
def Raises [Raising ε] (errors : RunState σ τ → ScriptError → Prop) (run : Run σ τ ε α) : Prop :=
  ∀ state, RaisesAt errors (run state)

/-- The errors of a node, with its place for those that have none. -/
def Located (site : SourceInfo) (errors : RunState σ τ → ScriptError → Prop) (last : RunState σ τ)
    (error : ScriptError) : Prop :=
  ∃ arrived, errors last arrived ∧ error = arrived.locate site

/-- All errors of which nothing is known but the cause are among these. -/
def Fresh (errors : RunState σ τ → ScriptError → Prop) : Prop :=
  ∀ last kind, errors last (.ofKind kind)

/-- The result is a value, or an error of which nothing is known but the cause. -/
def Plain (result : Except ScriptError α) : Prop :=
  ∀ error, result = .error error → ∃ kind, error = .ofKind kind

theorem Halt.eq_of_error? {halt : Halt} {error : ScriptError} (raised : halt.error? = some error) :
    halt = .raised error := by
  cases halt with
  | raised other =>
    cases raised
    rfl
  | fault | outOfFuel => cases raised

theorem Exit.eq_of_error? {exit : Exit} {error : ScriptError} (raised : exit.error? = some error) :
    exit = .raised error := by
  cases exit with
  | halted halt =>
    cases Halt.eq_of_error? raised
    rfl
  | jumped | returned => cases raised

theorem Halt.error?_locate (halt : Halt) (site : SourceInfo) :
    (halt.locate site).error? = halt.error?.map (·.locate site) := by
  cases halt <;> rfl

variable {errors : RunState σ τ → ScriptError → Prop}

theorem RaisesAt.silent [Raising ε] {reason : ε} {last : RunState σ τ}
    (silent : Raising.error? reason = none) :
    RaisesAt errors ((.error reason, last) : Except ε α × RunState σ τ) := by
  intro error raised
  rw [silent] at raised
  cases raised

namespace Raises

theorem pure [Raising ε] (value : α) : Raises errors (pure value : Run σ τ ε α) :=
  fun _ => trivial

theorem throw [Raising ε] {reason : ε}
    (among : ∀ last error, Raising.error? reason = some error → errors last error) :
    Raises errors (throw reason : Run σ τ ε α) :=
  fun state => among state

theorem stop [Raising ε] {reason : ε} (silent : Raising.error? reason = none) :
    Raises errors (MonadExcept.throw reason : Run σ τ ε α) :=
  fun _ => .silent silent

theorem bind [Raising ε] {first : Run σ τ ε α} {next : α → Run σ τ ε β}
    (before : Raises errors first) (after : ∀ value, Raises errors (next value)) :
    Raises errors (first >>= next) := by
  intro state
  have raised := before state
  rw [Act.bind_apply]
  generalize first state = ended at raised
  rcases ended with ⟨reason | value, last⟩
  · exact raised
  · exact after value last

theorem map [Raising ε] {first : Run σ τ ε α} (change : α → β) (before : Raises errors first) :
    Raises errors (change <$> first) := by
  rw [map_eq_pure_bind]
  exact before.bind fun value => pure (change value)

theorem of_ends [Raising ε] {run : Run σ τ ε α}
    (among : ∀ start reason last error, run start = (.error reason, last) →
      Raising.error? reason = some error → errors last error) : Raises errors run := by
  intro state
  cases ended : run state with
  | mk result last =>
    cases result with
    | ok value => trivial
    | error reason => exact fun error raised => among state reason last error ended raised

theorem mono [Raising ε] {errors' : RunState σ τ → ScriptError → Prop} {run : Run σ τ ε α}
    (raises : Raises errors run) (more : ∀ {last error}, errors last error → errors' last error) :
    Raises errors' run := by
  intro state
  have raised := raises state
  generalize run state = ended at raised
  rcases ended with ⟨reason | value, last⟩
  · exact fun error leaves => more (raised error leaves)
  · trivial

theorem elim [Raising ε] {run : Run σ τ ε α} (raises : Raises errors run)
    {state last : RunState σ τ} {reason : ε} {error : ScriptError}
    (ended : run state = (.error reason, last)) (raised : Raising.error? reason = some error) :
    errors last error := by
  have among := raises state
  rw [ended] at among
  exact among error raised

theorem of_map [Raising ε] {run : Run σ τ ε α} {change : α → β}
    (raises : Raises errors (change <$> run)) : Raises errors run := by
  intro state
  have raised := raises state
  rw [Act.map_apply] at raised
  generalize run state = ended at raised
  rcases ended with ⟨reason | value, last⟩
  · exact raised
  · trivial

theorem askSpace (question : Space → Except Fault α) :
    Raises errors (Run.askSpace question : Run σ τ Halt α) := by
  intro state
  simp only [Run.askSpace]
  rcases question state.space with fault | answer
  · exact .silent rfl
  · trivial

theorem ofSpace (operation : SpaceM α) :
    Raises errors (Run.ofSpace operation : Run σ τ Halt α) := by
  intro state
  simp only [Run.ofSpace]
  rcases operation state.space with ⟨fault | answer, space⟩
  · exact .silent rfl
  · trivial

theorem askSpace_bind {question : Space → Except Fault α} {next : α → Run σ τ Halt β}
    (after : ∀ space answer, question space = .ok answer → Raises errors (next answer)) :
    Raises errors (Run.askSpace question >>= next) := by
  intro state
  simp only [Act.bind_apply, Run.askSpace]
  cases asked : question state.space with
  | error fault => exact .silent rfl
  | ok answer => exact after _ answer asked state

theorem lift {run : Run σ τ Halt α} (raises : Raises errors run) :
    Raises errors (Run.lift run) := by
  intro state
  have raised := raises state
  simp only [Run.lift, Act.mapError]
  generalize run state = ended at raised
  rcases ended with ⟨halt | value, last⟩
  · exact raised
  · trivial

theorem lift_askSpace_bind {question : Space → Except Fault α} {next : α → Run σ τ Exit β}
    (after : ∀ space answer, question space = .ok answer → Raises errors (next answer)) :
    Raises errors (Run.lift (Run.askSpace question) >>= next) := by
  intro state
  simp only [Act.bind_apply, Run.lift, Act.mapError, Run.askSpace]
  cases asked : question state.space with
  | error fault => exact .silent rfl
  | ok answer => exact after _ answer asked state

theorem onSpace (operation : SpaceM α) :
    Raises errors (Eval.onSpace operation : Run σ τ Exit α) :=
  lift (ofSpace operation)

theorem raise {error : ScriptError} (among : ∀ last, errors last error) :
    Raises errors (Run.raise error : Run σ τ Halt α) := by
  refine throw fun last other same => ?_
  cases same
  exact among last

theorem raised (fresh : Fresh errors) (kind : ErrorKind) :
    Raises errors (MonadExcept.throw (.raised (.ofKind kind)) : Run σ τ Exit α) := by
  refine throw fun last other same => ?_
  cases same
  exact fresh last kind

theorem orRaise {result : Except ScriptError α} (fresh : Fresh errors) (plain : Plain result) :
    Raises errors (Run.orRaise result : Run σ τ Halt α) := by
  cases result with
  | ok value => exact pure value
  | error error =>
    obtain ⟨kind, rfl⟩ := plain error rfl
    exact raise fun last => fresh last kind

theorem located (site : SourceInfo) {node : Run σ τ Exit α} (raises : Raises errors node) :
    Raises (Located site errors) (Run.located site node) := by
  intro state
  have raised := raises state
  simp only [Run.located, Act.mapError]
  generalize node state = ended at raised
  rcases ended with ⟨exit | value, last⟩
  · intro error leaves
    cases exit with
    | jumped | returned => cases leaves
    | halted halt =>
      obtain ⟨arrived, reaches, same⟩ :=
        Option.map_eq_some_iff.mp ((halt.error?_locate site).symm.trans leaves)
      exact ⟨arrived, raised arrived reaches, same.symm⟩
  · trivial

/-- A handler may rely on it that the error which it gets is among those of the body. -/
theorem rescuing {body : Run σ τ Exit Unit} {handler : ScriptError → Run σ τ Exit Unit}
    (bodies : Raises errors body)
    (handlers : ∀ error state, errors state error → RaisesAt errors (handler error state)) :
    Raises errors (Run.rescuing body handler) := by
  intro state
  have raised := bodies state
  simp only [Run.rescuing]
  generalize body state = ended at raised
  split
  · exact handlers _ _ (raised _ rfl)
  · exact raised

/-- After a pass a loop stops with what the pass has ended with, or it goes on. -/
private theorem pass {ended : Except Exit Unit × RunState σ τ} (raised : RaisesAt errors ended)
    {next : Run σ τ Exit Unit} (rest : Raises errors next) :
    RaisesAt errors
      (match ended with
        | (result, state) =>
          match Eval.loopEnd? result with
          | some result => (result, state)
          | none => next state) := by
  rcases ended with ⟨(direction | value | halt) | _, last⟩
  · cases direction with
    | leave => trivial
    | next => exact rest last
  · exact .silent rfl
  · exact raised
  · exact rest last

theorem repeatWhile {condition : Run σ τ Exit Bool} {body : Run σ τ Exit Unit}
    (conditions : Raises errors condition) (bodies : Raises errors body) (bound : Nat) :
    Raises errors (Eval.repeatWhile condition body bound) := by
  induction bound with
  | zero => exact fun _ => .silent rfl
  | succ bound ih =>
    intro state
    have raised := conditions state
    simp only [Eval.repeatWhile]
    generalize condition state = ended at raised
    rcases ended with ⟨exit | _ | _, last⟩
    · exact raised
    · trivial
    · exact pass (bodies last) ih

theorem forEach {body : Value → Run σ τ Exit Unit} (bodies : ∀ item, Raises errors (body item))
    (items : List Value) : Raises errors (Eval.forEach body items) := by
  induction items with
  | nil => exact fun _ => trivial
  | cons item rest ih => exact fun state => pass (bodies item state) ih

end Raises

end Runs

section Operators

theorem plain_ok {α : Type} (value : α) : Plain (.ok value) := by
  intro error same
  cases same

theorem plain_error {α : Type} (kind : ErrorKind) :
    Plain (.error (.ofKind kind) : Except ScriptError α) := by
  rintro error same
  cases same
  exact ⟨kind, rfl⟩

theorem Plain.map {α β : Type} {result : Except ScriptError α} (plain : Plain result)
    (change : α → β) : Plain (result.map change) := by
  cases result with
  | ok value => exact plain_ok _
  | error error =>
    obtain ⟨kind, rfl⟩ := plain error rfl
    exact plain_error kind

theorem plain_compareValues (comparison : Comparison) (left right : Value) :
    Plain (Eval.compareValues comparison left right) := by
  unfold Eval.compareValues
  split
  · exact plain_ok _
  · exact plain_ok _
  · split
    · exact plain_ok _
    · exact plain_error _

theorem plain_checked (operation : String) (exact : Int) :
    Plain (Eval.checked operation exact) := by
  unfold Eval.checked
  split
  · exact plain_ok _
  · exact plain_error _

theorem plain_intArithmetic (op : Arithmetic) (a b : Int64) :
    Plain (Eval.intArithmetic op a b) := by
  cases op with
  | add | sub | mul => exact plain_checked _ _
  | div =>
    simp only [Eval.intArithmetic]
    split
    · exact plain_error _
    · exact plain_checked _ _
  | rem =>
    simp only [Eval.intArithmetic]
    split
    · exact plain_error _
    · split
      · exact plain_ok _
      · rename_i error failed
        obtain ⟨kind, rfl⟩ := plain_checked _ _ error failed
        exact plain_error kind

theorem plain_arithmetic (op : Arithmetic) (left right : Value) :
    Plain (Eval.arithmetic op left right) := by
  unfold Eval.arithmetic
  split
  · exact (plain_intArithmetic _ _ _).map _
  · split
    · exact plain_ok _
    · exact plain_error _

theorem plain_validateIndex (length : Nat) (index : Int64) :
    Plain (validateIndex length index) := by
  unfold validateIndex
  split
  · exact plain_ok _
  · exact plain_error _

theorem plain_validateRange (length : Nat) (lower upper : Int64) :
    Plain (validateRange length lower upper) := by
  unfold validateRange
  split
  · exact plain_ok _
  · exact plain_error _

theorem plain_expectInt (value : Value) : Plain (Eval.expectInt value) := by
  cases value with
  | int value => exact plain_ok value
  | undefined | null | bool | float | string | array | object | callable => exact plain_error _

theorem plain_propertyPlace (object : Value) (key : String) :
    Plain (Eval.propertyPlace object key) := by
  cases object with
  | object handle => exact plain_ok _
  | undefined | null | bool | int | float | string | array | callable => exact plain_error _

theorem plain_resolve {space : Space} {context : ContextRef} {name : String}
    {found : Except ScriptError Value} (resolved : space.resolve context name = .ok found) :
    Plain found := by
  obtain ⟨looked, -, same⟩ := ok_of_bind resolved
  cases looked with
  | none =>
    cases same
    exact plain_error _
  | some value =>
    cases same
    exact plain_ok value

theorem plain_thrownError {value : Value} {space : Space} {error : ScriptError}
    (thrown : Eval.thrownError value space = .ok error) : ∃ kind, error = .ofKind kind := by
  unfold Eval.thrownError at thrown
  split at thrown
  · obtain ⟨code, -, thrown⟩ := ok_of_bind thrown
    obtain ⟨reason, -, thrown⟩ := ok_of_bind thrown
    obtain ⟨text, -, thrown⟩ := ok_of_bind thrown
    cases thrown
    exact ⟨_, rfl⟩
  · obtain ⟨text, -, thrown⟩ := ok_of_bind thrown
    cases thrown
    exact ⟨_, rfl⟩

namespace Raises

variable {σ τ : Type} {errors : RunState σ τ → ScriptError → Prop}

theorem addition (fresh : Fresh errors) (left right : Value) :
    Raises errors (Eval.add left right : Run σ τ Halt Value) := by
  unfold Eval.add
  split
  · exact askSpace _
  · exact askSpace _
  · exact (askSpace _).bind fun _ => (askSpace _).bind fun _ => ofSpace _
  · exact orRaise fresh (plain_arithmetic _ _ _)

theorem binary (fresh : Fresh errors) (op : BinaryOperator) (left right : Value) :
    Raises errors (Eval.binary op left right : Run σ τ Halt Value) := by
  unfold Eval.binary
  split
  · exact askSpace _
  · exact askSpace _
  · exact orRaise fresh ((plain_compareValues _ _ _).map _)
  · exact addition fresh _ _
  · exact orRaise fresh (plain_arithmetic _ _ _)

theorem keyPlace (fresh : Fresh errors) (target key : Value) :
    Raises errors (Eval.keyPlace target key : Run σ τ Halt Place) := by
  unfold Eval.keyPlace
  split
  · exact (askSpace _).bind fun _ => (orRaise fresh (plain_validateIndex _ _)).bind fun _ => pure _
  · exact pure _
  · exact raise fun last => fresh last _

theorem rangePlace (fresh : Fresh errors) (array : Handle) (lower upper : Option Int64) :
    Raises errors (Eval.rangePlace array lower upper : Run σ τ Halt Place) :=
  (askSpace _).bind fun _ => (orRaise fresh (plain_validateRange _ _ _)).bind fun _ => pure _

theorem readPlace (fresh : Fresh errors) (place : Place) :
    Raises errors (Eval.readPlace place : Run σ τ Halt Value) := by
  cases place with
  | binding context name declared =>
    cases declared with
    | true => exact askSpace_bind fun _ _ found => orRaise fresh (plain_resolve found)
    | false => exact raise fun last => fresh last _
  | property object key =>
    simp only [Eval.readPlace]
    exact askSpace _
  | element array index =>
    refine (askSpace _).bind fun items => ?_
    cases items[index]? with
    | some value => exact pure value
    | none => exact raise fun last => fresh last _
  | range array lower upper =>
    refine (askSpace _).bind fun items => ?_
    split
    · exact ofSpace _
    · exact raise fun last => fresh last _

theorem readProperty (fresh : Fresh errors) (value : Value) (key : String) :
    Raises errors (Eval.readProperty value key : Run σ τ Halt Value) := by
  cases value with
  | undefined | null | bool | int | float | callable => exact raise fun last => fresh last _
  | object handle =>
    simp only [Eval.readProperty]
    exact askSpace _
  | array handle =>
    simp only [Eval.readProperty]
    split
    · exact askSpace _
    · exact raise fun last => fresh last _
  | string text =>
    simp only [Eval.readProperty]
    split
    · exact pure _
    · exact raise fun last => fresh last _

theorem variableValue {named : Variable}
    (among : ∀ last kind, errors last ((ScriptError.ofKind kind).locate named.site))
    (context : ContextRef) :
    Raises errors (Eval.variableValue context named : Run σ τ Halt Value) := by
  unfold Eval.variableValue
  cases Eval.declared? named.hint with
  | some mutability => exact (ofSpace _).bind fun _ => pure _
  | none =>
    refine askSpace_bind fun space found resolved => ?_
    cases found with
    | ok value => exact pure value
    | error error =>
      obtain ⟨kind, rfl⟩ := plain_resolve resolved error rfl
      exact raise fun last => among last kind

theorem appendTo (fresh : Fresh errors) (target value : Value) :
    Raises errors (Eval.appendTo target value : Run σ τ Halt Value) := by
  cases target with
  | array handle => exact (ofSpace _).bind fun _ => pure _
  | undefined | null | bool | int | float | string | object | callable =>
    exact raise fun last => fresh last _

theorem loopItems (fresh : Fresh errors) (value : Value) :
    Raises errors (Eval.loopItems value : Run σ τ Halt (List Value)) := by
  cases value with
  | array handle | object handle =>
    simp only [Eval.loopItems]
    exact askSpace _
  | undefined | null | bool | int | float | string | callable =>
    exact raise fun last => fresh last _

end Raises

end Operators

end ScriptEngine
