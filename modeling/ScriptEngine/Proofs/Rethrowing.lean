import ScriptEngine.Proofs.Properties
import ScriptEngine.Proofs.PermittedRuns
import ScriptEngine.Proofs.Shadowing
import ScriptEngine.Proofs.Unfoldings
import ScriptEngine.Tree.Build

set_option autoImplicit false

namespace ScriptEngine

/-- The code of an error is the one that its name stands for, also where the name is that of a
built-in code. -/
theorem ErrorKind.ofName_code (kind : ErrorKind) : ErrorCode.ofName kind.code.name = kind.code := by
  cases kind with
  | thrown named reason => simp only [code, ErrorCode.name_ofName]
  | unresolvedVariable | classAlreadyExists | unknownClass | immutableBinding
  | invalidAssignmentTarget | writeRejected | typeMismatch | invalidOperands | notCallable
  | arityMismatch | invalidRange | indexOutOfBounds | divisionByZero | integerOverflow
  | loopControlOutsideLoop | stackOverflow | engineBusy => rfl

namespace Handler

def code : Handler → Option String
  | .mk _ code _ _ => code

/-- Without a code a handler takes every error. -/
def Takes (error : ScriptError) (handler : Handler) : Prop :=
  handler.code = none ∨ handler.code = some error.code.name

instance (error : ScriptError) (handler : Handler) : Decidable (handler.Takes error) :=
  inferInstanceAs (Decidable (_ ∨ _))

/-- The first handler that takes the error. -/
def find? (error : ScriptError) (handlers : List Handler) : Option Handler :=
  handlers.find? fun handler => decide (handler.Takes error)

theorem find?_congr {error other : ScriptError} (same : error.code = other.code) :
    find? error = find? other := by
  funext handlers
  refine congrArg (List.find? · handlers) (funext fun handler => decide_eq_decide.mpr ?_)
  rw [Takes, Takes, same]

end Handler

namespace Eval

theorem handles_eq (error : ScriptError) (site : SourceInfo) (code parameter : Option String)
    (body : Scope) :
    handles code error = decide ((Handler.mk site code parameter body).Takes error) := by
  cases code with
  | none => simp [handles, Handler.Takes, Handler.code]
  | some code => simp [handles, Handler.Takes, Handler.code, Bool.beq_eq_decide_eq]

variable {σ τ : Type} (env : Environment σ τ) (context : ContextRef) (error : ScriptError)

/-- Runs a handler in a context of its own, which knows the error by the name that the handler
gives it. -/
def handle : Handler → Run σ τ Exit Unit
  | .mk site _ parameter (.mk _ body) => do
    let inner ← onSpace (Space.fork context site)
    match parameter with
    | some name =>
      let object ← onSpace (errorObject error)
      onSpace (Space.define inner name object .mutable)
      Eval.controls env inner body
    | none => Eval.controls env inner body

theorem handlers_eq (list : List Handler) : Eval.handlers env context error list =
    match Handler.find? error list with
    | some handler => handle env context error handler
    | none => throw (.raised error) := by
  induction list with
  | nil => rfl
  | cons first rest ih =>
    obtain ⟨site, code, parameter, bodySite, body⟩ := first
    rw [Handler.find?, List.find?_cons, ← handles_eq]
    cases taken : handles code error with
    | true =>
      simp only [Eval.handlers, taken, if_true]
      rfl
    | false =>
      simp only [Eval.handlers, taken]
      exact ih

def errorData (error : ScriptError) : ObjectData :=
  { properties := .ofList
      [("type", .string error.code.name), ("reason", .string error.message),
        ("line", .int (Int64.ofNat error.line))] }

theorem display_string (space : Space) (text : String) :
    space.display (.string text) = .ok text := by
  have shown : space.display (.string text) = _ := Space.display_of_unfolds (.scalar rfl)
  simpa [Unfolding.text] using shown

/-- Thrown again, it stands for an error of the same code and with the same message. -/
theorem thrownError_errorData {space : Space} {handle : Handle}
    (held : space.objectData handle = .ok (errorData error)) :
    thrownError (.object handle) space =
      .ok (.ofKind (.thrown error.code.name error.message)) := by
  have type : space.property? (.object handle) "type" = .ok (some (.string error.code.name)) := by
    rw [Space.property?_of_held held]
    simp [errorData, Table.ofList, Table.insertAll, Table.get?_insert]
  have reason : space.property? (.object handle) "reason" = .ok (some (.string error.message)) := by
    rw [Space.property?_of_held held]
    simp [errorData, Table.ofList, Table.insertAll, Table.get?_insert]
  simp only [thrownError, type, reason]
  simp [bind, Except.bind, pure, Except.pure, display_string]

/-- The context of a handler: the name stands for the object by which the handler knows the
error. -/
structure Knows (space : Space) (context : ContextRef) (name : String) (error : ScriptError)
    (object : Handle) : Prop where
  named : space.resolve context name = .ok (.ok (.object object))
  held : space.objectData object = .ok (errorData error)

section Steps

variable {α β : Type} {operation : SpaceM α} {state : RunState σ τ} {after : Space}

theorem onSpace_bind_of_ok {value : α} (done : operation state.space = (.ok value, after))
    (next : α → Run σ τ Exit β) :
    (onSpace operation >>= next) state = next value { state with space := after } := by
  simp only [Act.bind_apply, onSpace, Run.lift, Run.ofSpace, Act.mapError, done]
  rfl

theorem onSpace_bind_of_error {fault : Fault}
    (failed : operation state.space = (.error fault, after)) (next : α → Run σ τ Exit β) :
    (onSpace operation >>= next) state =
      (.error (.fault fault), { state with space := after }) := by
  simp only [Act.bind_apply, onSpace, Run.lift, Run.ofSpace, Act.mapError, failed]
  rfl

end Steps

/-- A handler that names the error comes to run its body, unless there is no slot left for its
context or the object. -/
theorem handle_named {state : RunState σ τ} (tidy : state.space.Tidy) (site : SourceInfo)
    (code : Option String) (name : String) (bodySite : SourceInfo) (body : List Control) :
    (∃ inner object space, Knows space inner name error object ∧
      handle env context error (.mk site code (some name) (.mk bodySite body)) state =
        Eval.controls env inner body { state with space }) ∨
    ∃ last, handle env context error (.mk site code (some name) (.mk bodySite body)) state =
        (.error (.fault .spaceExhausted), last) ∧ Space.capacity ≤ last.space.slots.size := by
  simp only [handle]
  rcases tidy.fork context site with ⟨inner, opened, forked, tidy', -, placed⟩ | ⟨full, bound⟩
  · rw [onSpace_bind_of_ok forked]
    rcases tidy'.allocateObject (errorData error) with
      ⟨object, stored, allocated, -, absent, placed'⟩ | ⟨full, bound⟩
    · have allocated' : errorObject error opened = _ := allocated
      rw [onSpace_bind_of_ok allocated']
      -- The object is a new slot, so the context is still there.
      have apart : inner.handle ≠ object := by
        intro same
        rw [← same, placed.here] at absent
        cases absent
      have held : stored.context inner = .ok _ := Space.context_eq_ok_iff.mpr
        ((placed'.elsewhere _ apart).trans placed.here)
      obtain ⟨after, defined, bound⟩ := Space.updateContext_held
        (fun data => { data with
          bindings := data.bindings.insert name ⟨.object object, .mutable⟩ })
        (Space.context_eq_ok_iff.mp held)
      have defined' : Space.define inner name (.object object) .mutable stored = _ := defined
      rw [onSpace_bind_of_ok defined']
      refine Or.inl ⟨inner, object, after, ⟨?_, ?_⟩, rfl⟩
      · exact Space.resolve_of_binding (bound.defined held).here
      · exact Space.objectData_eq_ok_iff.mpr
          ((bound.elsewhere _ apart.symm).trans placed'.here)
    · have full' : errorObject error opened = _ := full
      rw [onSpace_bind_of_error full']
      exact Or.inr ⟨_, rfl, bound⟩
  · rw [onSpace_bind_of_error full]
    exact Or.inr ⟨_, rfl, bound⟩

/-- The statement that throws what the name stands for. -/
def rethrowing (outer inner atVariable atName : SourceInfo) (left : Option Operand)
    (name : String) : Control :=
  .statement outer (.node inner .raise left (some (.var atVariable ⟨atName, name, .none⟩)))

/-- Where the name stands for the error, throwing it raises an error of the same code and with the
same message. What comes after it is not run. -/
theorem controls_rethrowing (state : RunState σ τ) {name : String} {object : Handle}
    (knows : Knows state.space context name error object)
    (outer inner atVariable atName : SourceInfo) (left : Option Operand) (rest : List Control) :
    ∃ again : ScriptError,
      Eval.controls env context (rethrowing outer inner atVariable atName left name :: rest) state =
        (.error (.raised again), state) ∧
      again.code = error.code ∧ again.message = error.message := by
  have valued : Eval.operand env context (.var atVariable ⟨atName, name, .none⟩) state =
      (.ok (.object object), state) := by
    simp only [Eval.operand, variableValue, declared?, Run.located, Run.lift, Act.mapError,
      Act.bind_apply, Run.askSpace, knows.named]
    rfl
  have thrown : Run.lift (Run.askSpace (thrownError (.object object))) state =
      (.ok (.ofKind (.thrown error.code.name error.message)), state) := by
    simp only [Run.lift, Run.askSpace, Act.mapError, thrownError_errorData error knows.held]
    rfl
  refine ⟨((ScriptError.ofKind (.thrown error.code.name error.message)).locate inner).locate outer,
    ?_, ?_, ?_⟩
  · simp only [rethrowing, Eval.controls, Eval.expression, required, Act.bind_apply, Run.located,
      Act.mapError, valued, thrown]
    rfl
  · simp only [ScriptError.code_locate]
    exact error.kind.ofName_code
  · simp only [ScriptError.message_locate]
    rfl

/-- The error of a tried body as it leaves the `try`, if no handler takes it: it still has its
cause, the calls and the place that it had. -/
structure PassesOn (error passed : ScriptError) : Prop where
  kind : passed.kind = error.kind
  message : passed.message = error.message
  backtrace : passed.backtrace = error.backtrace
  site : ∀ {place}, error.site = some place → passed.site = some place

theorem passesOn_locate (site : SourceInfo) : PassesOn error (error.locate site) := by
  refine ⟨error.kind_locate site, error.message_locate site, ?_, fun placed => ?_⟩
  · rw [ScriptError.locate]
    split <;> rfl
  · simp [ScriptError.locate, placed]

/-- An error that a tried body raises is handed to the handlers, in the state in which it was
raised. -/
theorem conditional_attempt (host : Host σ τ) (classes : ClassRegistry) (fuel : Nat)
    {context : ContextRef} {body : Scope} {error : ScriptError} {state middle : RunState σ τ}
    (raised : Eval.scope (environment host classes fuel) context body state =
      (.error (.raised error), middle))
    (site : SourceInfo) (handlers : List Handler) :
    Eval.conditional (environment host classes fuel) context (.attempt site body handlers) state =
      Run.located site (Eval.handlers (environment host classes fuel) context error handlers)
        middle := by
  have rescued : Run.rescuing (Eval.scope (environment host classes fuel) context body)
      (Eval.handlers (environment host classes fuel) context · handlers) state =
        Eval.handlers (environment host classes fuel) context error handlers middle := by
    rw [Run.rescuing, raised]
    rfl
  simp only [Eval.conditional, Run.located, Act.mapError]
  rw [← rescued]
  rfl

/-- An error that a tried body raises runs the first handler that has no code or names the code of
the error, and without such a handler it passes on unchanged. If that handler throws the object by
which it knows the error, the error that it raises has the same code and message and so the same
handlers, unless there is no slot left for the object. -/
theorem rethrown_error_selects_alike (host : Host σ τ) (classes : ClassRegistry) (fuel : Nat)
    {body : Scope} {error : ScriptError} {state middle : RunState σ τ}
    (raised : Eval.scope (environment host classes fuel) context body state =
      (.error (.raised error), middle))
    (site : SourceInfo) (handlers : List Handler) :
    (∀ handler, Handler.find? error handlers = some handler →
      Eval.conditional (environment host classes fuel) context (.attempt site body handlers) state =
        Run.located site (handle (environment host classes fuel) context error handler) middle) ∧
    (Handler.find? error handlers = none → ∃ passed,
      Eval.conditional (environment host classes fuel) context (.attempt site body handlers) state =
        (.error (.raised passed), middle) ∧ PassesOn error passed) ∧
    (middle.space.Tidy → ∀ at' code name bodySite outer inner atVariable atName left rest,
      Handler.find? error handlers = some (.mk at' code (some name)
        (.mk bodySite (rethrowing outer inner atVariable atName left name :: rest))) →
      (∃ again last, Eval.conditional (environment host classes fuel) context
            (.attempt site body handlers) state = (.error (.raised again), last) ∧
          again.code = error.code ∧ again.message = error.message ∧
          Handler.find? again = Handler.find? error) ∨
        ∃ last, Eval.conditional (environment host classes fuel) context
            (.attempt site body handlers) state = (.error (.fault .spaceExhausted), last) ∧
          Space.capacity ≤ last.space.slots.size) := by
  have tried := conditional_attempt host classes fuel raised site handlers
  rw [handlers_eq] at tried
  have selected : ∀ handler, Handler.find? error handlers = some handler →
      Eval.conditional (environment host classes fuel) context (.attempt site body handlers) state =
        Run.located site (handle (environment host classes fuel) context error handler) middle :=
    fun handler found => by rw [tried, found]
  refine ⟨selected, fun missing => ?_, fun tidy at' code name bodySite outer inner atVariable atName
    left rest found => ?_⟩
  · rw [missing] at tried
    exact ⟨error.locate site, tried, passesOn_locate error site⟩
  · rw [selected _ found, Run.located, Act.mapError]
    rcases handle_named (environment host classes fuel) context error tidy at' code name bodySite
      (rethrowing outer inner atVariable atName left name :: rest) with
      ⟨handling, object, space, knows, handled⟩ | ⟨last, full, bound⟩
    · obtain ⟨again, ended, coded, worded⟩ := controls_rethrowing (environment host classes fuel)
        handling error { middle with space } knows outer inner atVariable atName left rest
      have coded' := (again.code_locate site).trans coded
      have worded' := (again.message_locate site).trans worded
      rw [handled, ended]
      exact Or.inl ⟨again.locate site, _, rfl, coded', worded', Handler.find?_congr coded'⟩
    · rw [full]
      exact Or.inr ⟨last, rfl, bound⟩

/-- A global context without bindings. -/
private def entered : RunState Unit Empty :=
  ⟨((SpaceAction.newGlobal "main.js" "" '/').run {}).2, .empty none, (), []⟩

/-- A scope that asks for a variable that is not there. -/
private def faulty : Scope := .ofControls [.ofExpression (.var "absent")]

private def catchers : List Handler :=
  [.mk .empty (some "TypeError") none (.ofControls []),
    .mk .empty none (some "error")
      (.mk .empty [rethrowing .empty .empty .empty .empty none "error"])]

/-- The handler for another code is passed over, and the one that throws the error again keeps its
code and message. -/
theorem unresolved_variable_thrown_again :
    ∃ again last, Eval.conditional (environment .storing {} 1) ⟨⟨0, 0⟩⟩
        (.attempt .empty faulty catchers) entered = (.error (.raised again), last) ∧
      again.code = .referenceError ∧ again.message = "unresolved variable: absent" := by
  have raised : Eval.scope (environment .storing {} 1) ⟨⟨0, 0⟩⟩ faulty entered =
      (.error (.raised (.ofKind (.unresolvedVariable "absent"))),
        { entered with space := ((SpaceAction.fork ⟨⟨0, 0⟩⟩ .empty).run entered.space).2 }) := rfl
  have tidy := Space.keeps_run (.fork ⟨⟨0, 0⟩⟩ .empty) _
    (Space.keeps_run (.newGlobal "main.js" "" '/') _ Space.tidy_empty)
  rcases (rethrown_error_selects_alike _ .storing {} 1 raised .empty catchers).2.2 tidy _ _ _ _ _ _
    _ _ _ _ rfl with ⟨again, last, ended, coded, worded, -⟩ | ⟨last, full, -⟩
  · exact ⟨again, last, ended, coded, worded⟩
  · cases full

end Eval

end ScriptEngine
