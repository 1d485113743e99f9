import ScriptEngine.Proofs.PairedRuns
import ScriptEngine.Proofs.PermittedOperations

set_option autoImplicit false

namespace ScriptEngine

open Relation (ReflTransGen)

/-- Whether the error is that of a jump that no loop has caught. -/
def ErrorKind.isLoopControl : ErrorKind → Bool
  | .loopControlOutsideLoop _ => true
  | _ => false

@[simp] theorem ScriptError.kind_locate (error : ScriptError) (site : SourceInfo) :
    (error.locate site).kind = error.kind := by
  unfold ScriptError.locate
  split <;> rfl

@[simp] theorem ScriptError.code_locate (error : ScriptError) (site : SourceInfo) :
    (error.locate site).code = error.code :=
  congrArg ErrorKind.code (error.kind_locate site)

@[simp] theorem ScriptError.message_locate (error : ScriptError) (site : SourceInfo) :
    (error.locate site).message = error.message :=
  congrArg ErrorKind.message (error.kind_locate site)

@[simp] theorem CallStack.kind_attach (stack : CallStack) (error : ScriptError) :
    (stack.attach error).kind = error.kind := by
  unfold CallStack.attach
  split <;> rfl

/-- A charter with a law that ties the state of the host to the space, and the errors that may be
raised. Admitted changes keep the law, and a fault may leave it torn. -/
structure Regime (σ : Type) where
  charter : Charter
  free : Handle → Prop
  errors : σ → ErrorKind → Prop
  law : σ → Space → Prop
  torn : Fault → σ → Space → Prop
  new_free : ∀ {handle}, charter.New handle → free handle
  change : ∀ {own space after}, charter.Upheld space → charter.Change free space after →
    law own space → law own after
  tear : ∀ {own space} fault, law own space → torn fault own space
  ordinary : ∀ own {kind}, kind.isLoopControl = false → errors own kind
  lax : ¬ charter.looped → ∀ own kind, errors own kind

namespace Regime

variable {σ τ : Type} (regime : Regime σ)

/-- The charter is upheld and the law holds. -/
structure Level (state : RunState σ τ) : Prop where
  upheld : regime.charter.Upheld state.space
  law : regime.law state.own state.space

/-- How a call may end without a value. -/
inductive Halts (state : RunState σ τ) : Halt → Prop where
  | raised {error : ScriptError} (level : regime.Level state)
      (fitting : regime.errors state.own error.kind) : Halts state (.raised error)
  | outOfFuel (level : regime.Level state) : Halts state .outOfFuel
  | fault {fault : Fault} (upheld : regime.charter.Upheld state.space)
      (torn : regime.torn fault state.own state.space) : Halts state (.fault fault)

/-- How a node may end without a value. If all jumps have loops to end in, one leaves a node only
inside of a loop. -/
inductive Exits (loop : Bool) (state : RunState σ τ) : Exit → Prop where
  | jumped (direction : Jump) (level : regime.Level state)
      (around : regime.charter.looped → loop = true) : Exits loop state (.jumped direction)
  | returned {value : Value} (level : regime.Level state)
      (within : value.Within regime.charter.inside) : Exits loop state (.returned value)
  | halted {halt : Halt} (halts : regime.Halts state halt) : Exits loop state (.halted halt)

variable {ε α : Type}

/-- An end that the regime allows. -/
inductive Allows (ends : RunState σ τ → ε → Prop) (values : α → Prop) :
    Except ε α × RunState σ τ → Prop where
  | value {value : α} {state : RunState σ τ} (level : regime.Level state)
      (fitting : values value) : Allows ends values (.ok value, state)
  | early {reason : ε} {state : RunState σ τ} (fitting : ends state reason) :
      Allows ends values (.error reason, state)

end Regime

/-- Wherever it is level with the regime, the run comes to an end that the regime allows. -/
def Abides {σ τ ε α : Type} (regime : Regime σ) (ends : RunState σ τ → ε → Prop)
    (values : α → Prop) (run : Run σ τ ε α) : Prop :=
  ∀ state, regime.Level state → regime.Allows ends values (run state)

namespace Regime.Level

variable {σ τ : Type} {regime : Regime σ} {state : RunState σ τ}

theorem changes (level : regime.Level state) {space : Space}
    (path : ReflTransGen (regime.charter.Change regime.free) state.space space) :
    regime.Level { state with space } := by
  induction path with
  | refl => exact level
  | tail _ last ih => exact ⟨ih.upheld.change last, regime.change ih.upheld last ih.law⟩

theorem count (level : regime.Level state) (executions : Nat) :
    regime.Level { state with space := { state.space with executions } } :=
  level.changes (.single (.count executions state.space))

theorem restack (level : regime.Level state) (stack : CallStack) :
    regime.Level { state with stack } :=
  ⟨level.upheld, level.law⟩

theorem halts_fault (level : regime.Level state) (fault : Fault) :
    regime.Halts state (.fault fault) :=
  .fault level.upheld (regime.tear fault level.law)

end Regime.Level

namespace Regime.Halts

variable {σ τ : Type} {regime : Regime σ} {state : RunState σ τ} {halt : Halt}

theorem locate (halts : regime.Halts state halt) (site : SourceInfo) :
    regime.Halts state (halt.locate site) := by
  cases halts with
  | raised level fitting => exact .raised level (by rwa [ScriptError.kind_locate])
  | outOfFuel level => exact .outOfFuel level
  | fault upheld torn => exact .fault upheld torn

theorem attached (halts : regime.Halts state halt) (stack : CallStack) :
    regime.Halts state (Run.attached stack halt) := by
  cases halts with
  | raised level fitting => exact .raised level (by rwa [CallStack.kind_attach])
  | outOfFuel level => exact .outOfFuel level
  | fault upheld torn => exact .fault upheld torn

theorem restack (halts : regime.Halts state halt) (stack : CallStack) :
    regime.Halts { state with stack } halt := by
  cases halts with
  | raised level fitting => exact .raised (level.restack stack) fitting
  | outOfFuel level => exact .outOfFuel (level.restack stack)
  | fault upheld torn => exact .fault upheld torn

/-- The state of the host may change by itself as far as the regime does not notice. -/
theorem update (halts : regime.Halts state halt) {own : σ}
    (errors : ∀ {kind}, regime.errors state.own kind → regime.errors own kind)
    (law : regime.law state.own state.space → regime.law own state.space)
    (torn : ∀ {fault}, regime.torn fault state.own state.space →
      regime.torn fault own state.space) : regime.Halts { state with own } halt := by
  cases halts with
  | raised level fitting => exact .raised ⟨level.upheld, law level.law⟩ (errors fitting)
  | outOfFuel level => exact .outOfFuel ⟨level.upheld, law level.law⟩
  | fault upheld broken => exact .fault upheld (torn broken)

end Regime.Halts

namespace Abides

variable {σ τ ε ε' α β : Type} {regime : Regime σ} {ends : RunState σ τ → ε → Prop}
  {ends' : RunState σ τ → ε' → Prop} {values : α → Prop} {values' : β → Prop} {loop : Bool}

theorem pure {value : α} (fitting : values value) :
    Abides regime ends values (pure value : Run σ τ ε α) :=
  fun _ level => .value level fitting

theorem throw {reason : ε} (fitting : ∀ state, regime.Level state → ends state reason) :
    Abides regime ends values (throw reason : Run σ τ ε α) :=
  fun state level => .early (fitting state level)

theorem bind {first : Run σ τ ε α} {next : α → Run σ τ ε β}
    (before : Abides regime ends values first)
    (after : ∀ value, values value → Abides regime ends values' (next value)) :
    Abides regime ends values' (first >>= next) := by
  intro state level
  have allowed := before state level
  rw [Act.bind_apply]
  generalize first state = ended at allowed
  cases allowed with
  | value level' fitting => exact after _ fitting _ level'
  | early fitting => exact .early fitting

theorem weaken {values' : α → Prop} {run : Run σ τ ε α} (abides : Abides regime ends values run)
    (weaker : ∀ value, values value → values' value) : Abides regime ends values' run := by
  intro state level
  have allowed := abides state level
  generalize run state = ended at allowed
  cases allowed with
  | value level' fitting => exact .value level' (weaker _ fitting)
  | early fitting => exact .early fitting

theorem map {first : Run σ τ ε α} {change : α → β} (before : Abides regime ends values first)
    (fitting : ∀ value, values value → values' (change value)) :
    Abides regime ends values' (change <$> first) := by
  rw [map_eq_pure_bind]
  exact before.bind fun value holds => pure (fitting value holds)

theorem mapError {change : ε → ε'} {first : Run σ τ ε α} (before : Abides regime ends values first)
    (restated : ∀ state reason, ends state reason → ends' state (change reason)) :
    Abides regime ends' values (Act.mapError change first) := by
  intro state level
  have allowed := before state level
  simp only [Act.mapError]
  generalize first state = ended at allowed
  cases allowed with
  | value level' fitting => exact .value level' fitting
  | early fitting => exact .early (restated _ _ fitting)

theorem askSpace {question : Space → Except Fault α}
    (answers : ∀ space, regime.charter.Upheld space → ∀ answer, question space = .ok answer →
      values answer) :
    Abides regime regime.Halts values (Run.askSpace question : Run σ τ Halt α) := by
  intro state level
  simp only [Run.askSpace]
  cases asked : question state.space with
  | error fault => exact .early (level.halts_fault fault)
  | ok answer => exact .value level (answers _ level.upheld answer asked)

theorem asking (question : Space → Except Fault α) :
    Abides regime regime.Halts (fun _ => True) (Run.askSpace question : Run σ τ Halt α) :=
  askSpace fun _ _ _ _ => trivial

theorem ofSpace {operation : SpaceM α}
    (obeys : Obeys regime.charter regime.free values operation) :
    Abides regime regime.Halts values (Run.ofSpace operation : Run σ τ Halt α) := by
  intro state level
  obtain ⟨path, answers⟩ := obeys state.space level.upheld
  simp only [Run.ofSpace]
  generalize operation state.space = ended at path answers
  obtain ⟨result, space⟩ := ended
  have after := level.changes path
  cases result with
  | error fault => exact .early (after.halts_fault fault)
  | ok answer => exact .value after (answers answer rfl)

theorem lift {first : Run σ τ Halt α} (before : Abides regime regime.Halts values first) :
    Abides regime (regime.Exits loop) values (Run.lift first) :=
  before.mapError fun _ _ halts => .halted halts

theorem onSpace {operation : SpaceM α}
    (obeys : Obeys regime.charter regime.free values operation) :
    Abides regime (regime.Exits loop) values (Eval.onSpace operation : Run σ τ Exit α) :=
  lift (ofSpace obeys)

theorem raise {error : ScriptError} (ordinary : error.kind.isLoopControl = false) :
    Abides regime regime.Halts values (Run.raise error : Run σ τ Halt α) :=
  throw fun state level => .raised level (regime.ordinary state.own ordinary)

theorem orRaise {result : Except ScriptError α}
    (fitting : ∀ value, result = .ok value → values value)
    (ordinary : ∀ error, result = .error error → error.kind.isLoopControl = false) :
    Abides regime regime.Halts values (Run.orRaise result : Run σ τ Halt α) := by
  cases result with
  | ok value => exact pure (fitting value rfl)
  | error error => exact raise (ordinary error rfl)

theorem fault (fault : Fault) : Abides regime (regime.Exits loop) values
    (MonadExcept.throw (.fault fault) : Run σ τ Exit α) :=
  throw fun _ level => .halted (level.halts_fault fault)

theorem raised {error : ScriptError} (ordinary : error.kind.isLoopControl = false) :
    Abides regime (regime.Exits loop) values
      (MonadExcept.throw (.raised error) : Run σ τ Exit α) :=
  throw fun state level => .halted (.raised level (regime.ordinary state.own ordinary))

theorem located (site : SourceInfo) {node : Run σ τ Exit α}
    (before : Abides regime (regime.Exits loop) values node) :
    Abides regime (regime.Exits loop) values (Run.located site node) := by
  refine before.mapError fun state exit exits => ?_
  cases exits with
  | jumped direction level around => exact .jumped direction level around
  | returned level within => exact .returned level within
  | halted halts => exact .halted (halts.locate site)

theorem executing {body : Run σ τ Halt α} (before : Abides regime regime.Halts values body) :
    Abides regime regime.Halts values (Run.executing body) := by
  intro state level
  have allowed := before _ (level.count (state.space.executions + 1))
  simp only [Run.executing, Space.enterExecution, Space.leaveExecution]
  generalize body _ = ended at allowed
  cases allowed with
  | value level' fitting => exact .value (level'.count _) fitting
  | early halts =>
    cases halts with
    | raised level' fitting => exact .early (.raised (level'.count _) fitting)
    | outOfFuel level' => exact .early (.outOfFuel (level'.count _))
    -- A fault leaves the count as it is inside, which no charter cares about.
    | fault upheld torn => exact .early (.fault upheld torn)

theorem framed (frame : Frame) {body : Run σ τ Halt Value} {values : Value → Prop}
    (before : Abides regime regime.Halts values body) :
    Abides regime regime.Halts values (Run.framed frame body) := by
  intro state level
  simp only [Run.framed]
  cases entered : state.stack.push frame with
  | error error =>
    refine .early (.raised level (regime.ordinary state.own ?_))
    rw [ScriptError.kind_locate]
    unfold CallStack.push at entered
    split at entered
    · split at entered
      · cases entered
        rfl
      · cases entered
    · cases entered
  | ok pushed =>
    have allowed := before _ (level.restack pushed)
    dsimp only
    generalize body _ = ended at allowed
    cases allowed with
    | value level' fitting => exact .value (level'.restack _) fitting
    | early halts => exact .early (halts.restack _)

/-- The end of a body outside of all loops, as the end of its call. -/
theorem finishing {body : Run σ τ Exit Unit} {values : Unit → Prop}
    (before : Abides regime (regime.Exits false) values body) :
    Abides regime regime.Halts (Value.Within regime.charter.inside) (Run.finishing body) := by
  intro state level
  have allowed := before state level
  simp only [Run.finishing]
  generalize body state = ended at allowed
  cases allowed with
  | value level' fitting => exact .value level' (Value.within_of_scalar rfl)
  | early exits =>
    cases exits with
    | returned level' within => exact .value level' within
    | halted halts => exact .early (halts.attached _)
    | jumped direction level' around =>
      have lax := regime.lax fun looped => Bool.false_ne_true (around looped)
      cases direction with
      | leave => exact .early (.raised level' (lax _ _))
      | next => exact .early (.raised level' (lax _ _))

theorem rescuing {body : Run σ τ Exit Unit} {values : Unit → Prop}
    {handler : ScriptError → Run σ τ Exit Unit}
    (before : Abides regime (regime.Exits loop) values body)
    (handlers : ∀ error state, regime.Level state → regime.errors state.own error.kind →
      regime.Allows (regime.Exits loop) values (handler error state)) :
    Abides regime (regime.Exits loop) values (Run.rescuing body handler) := by
  intro state level
  have allowed := before state level
  simp only [Run.rescuing]
  generalize body state = ended at allowed
  cases allowed with
  | value level' fitting => exact .value level' fitting
  | early exits =>
    cases exits with
    | jumped direction level' around => exact .early (.jumped direction level' around)
    | returned level' within => exact .early (.returned level' within)
    | halted halts =>
      cases halts with
      | raised level' fitting => exact handlers _ _ level' fitting
      | outOfFuel level' => exact .early (.halted (.outOfFuel level'))
      | fault upheld torn => exact .early (.halted (.fault upheld torn))

theorem answered {first : Run σ τ Halt α} (before : Abides regime regime.Halts values first)
    {next : Except ScriptError α → Run σ τ Halt β}
    (rest : ∀ value, values value → Abides regime regime.Halts values' (next (.ok value)))
    (failed : ∀ error state, regime.Level state → regime.errors state.own error.kind →
      regime.Allows regime.Halts values' (next (.error error) state)) :
    Abides regime regime.Halts values' (Eval.answered first next) := by
  intro state level
  have allowed := before state level
  unfold Eval.answered
  generalize first state = ended at allowed
  cases allowed with
  | value level' fitting => exact rest _ fitting _ level'
  | early halts =>
    cases halts with
    | raised level' fitting => exact failed _ _ level' fitting
    | outOfFuel level' => exact .early (.outOfFuel level')
    | fault upheld torn => exact .early (.fault upheld torn)

private theorem pass {ended : Except Exit Unit × RunState σ τ} {values : Unit → Prop}
    (fitting : values ())
    (allowed : regime.Allows (regime.Exits true) values ended) {next : Run σ τ Exit Unit}
    (rest : Abides regime (regime.Exits loop) values next) :
    regime.Allows (regime.Exits loop) values
      (match ended with
        | (result, state) =>
          match Eval.loopEnd? result with
          | some result => (result, state)
          | none => next state) := by
  cases allowed with
  | value level _ => exact rest _ level
  | early exits =>
    cases exits with
    | returned level within => exact .early (.returned level within)
    | halted halts => exact .early (.halted halts)
    | jumped direction level _ =>
      cases direction with
      | leave => exact .value level fitting
      | next => exact rest _ level

theorem repeatWhile {condition : Run σ τ Exit Bool} {body : Run σ τ Exit Unit}
    (conditions : Abides regime (regime.Exits loop) (fun _ => True) condition)
    (bodies : Abides regime (regime.Exits true) (fun _ => True) body) (bound : Nat) :
    Abides regime (regime.Exits loop) (fun _ => True) (Eval.repeatWhile condition body bound) := by
  induction bound with
  | zero => exact fun _ level => .early (.halted (.outOfFuel level))
  | succ bound ih =>
    intro state level
    have allowed := conditions state level
    simp only [Eval.repeatWhile]
    generalize condition state = ended at allowed
    cases allowed with
    | early exits => exact .early exits
    | @value holds _ level' _ =>
      cases holds with
      | false => exact .value level' trivial
      | true => exact pass trivial (bodies _ level') ih

theorem forEach {body : Value → Run σ τ Exit Unit} {items : List Value}
    (bodies : ∀ item ∈ items, Abides regime (regime.Exits true) (fun _ => True) (body item)) :
    Abides regime (regime.Exits loop) (fun _ => True) (Eval.forEach body items) := by
  induction items with
  | nil => exact fun _ level => .value level trivial
  | cons item rest ih =>
    have others := ih fun other member => bodies other (List.mem_cons_of_mem _ member)
    exact fun state level =>
      pass trivial (bodies item (List.mem_cons_self ..) state level) others

end Abides

end ScriptEngine
