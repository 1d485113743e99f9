import ScriptEngine.Proofs.PairedRuns
import ScriptEngine.Realm

set_option autoImplicit false

namespace ScriptEngine

/-- Two environments whose hooks, writes, bodies, handlers and calls are in accord. -/
structure Environment.Accords {σ τ σ' τ' : Type} (ties : Ties σ τ σ' τ') (depth : Nat)
    (env : Environment σ τ) (env' : Environment σ' τ') : Prop where
  bound : env.bound = env'.bound
  hook : ∀ number write, Accord ties depth (Eval.consult env.host number write)
    (Eval.consult env'.host number write)
  write : ∀ place value site, Accord ties depth (env.write place value site)
    (env'.write place value site)
  finish : ∀ {first : Run σ τ Exit Unit} {second : Run σ' τ' Exit Unit},
    Accord ties depth first second → Accord ties depth (env.finish first) (env'.finish second)
  rescue : ∀ {first : Run σ τ Exit Unit} {second : Run σ' τ' Exit Unit}
    {handler : ScriptError → Run σ τ Exit Unit} {handler' : ScriptError → Run σ' τ' Exit Unit},
    Accord ties depth first second →
    (∀ error, Accord ties depth (handler error) (handler' error)) →
    Accord ties depth (env.rescue first handler) (env'.rescue second handler')
  call : ∀ callee arguments site, Accord ties depth (env.call callee arguments site)
    (env'.call callee arguments site)

namespace Accord

variable {σ τ σ' τ' : Type} {ties : Ties σ τ σ' τ'} {depth : Nat}

theorem addition (left right : Value) :
    Accord ties depth (Eval.add left right : Run σ τ Halt Value)
      (Eval.add left right : Run σ' τ' Halt Value) := by
  unfold Eval.add
  split
  · exact askSpace _
  · exact askSpace _
  · exact (askSpace _).bind fun _ => (askSpace _).bind fun _ =>
      ofSpace (Space.edits_allocateArray _)
  · exact orRaise _

theorem binary (op : BinaryOperator) (left right : Value) :
    Accord ties depth (Eval.binary op left right : Run σ τ Halt Value)
      (Eval.binary op left right : Run σ' τ' Halt Value) := by
  unfold Eval.binary
  split
  · exact askSpace _
  · exact askSpace _
  · exact orRaise _
  · exact addition _ _
  · exact orRaise _

theorem keyPlace (target key : Value) :
    Accord ties depth (Eval.keyPlace target key : Run σ τ Halt Place)
      (Eval.keyPlace target key : Run σ' τ' Halt Place) := by
  unfold Eval.keyPlace
  split
  · exact (askSpace _).bind fun _ => (orRaise _).bind fun _ => pure _
  · exact pure _
  · exact raise _

theorem rangePlace (array : Handle) (lower upper : Option Int64) :
    Accord ties depth (Eval.rangePlace array lower upper : Run σ τ Halt Place)
      (Eval.rangePlace array lower upper : Run σ' τ' Halt Place) :=
  (askSpace _).bind fun _ => (orRaise _).bind fun _ => pure _

theorem readPlace (place : Place) :
    Accord ties depth (Eval.readPlace place : Run σ τ Halt Value)
      (Eval.readPlace place : Run σ' τ' Halt Value) := by
  cases place with
  | binding context name declared =>
    cases declared with
    | true => exact (askSpace _).bind fun _ => orRaise _
    | false => exact raise _
  | property object key =>
    simp only [Eval.readPlace]
    exact askSpace _
  | element array index =>
    refine (askSpace _).bind fun items => ?_
    cases items[index]? with
    | some value => exact pure value
    | none => exact raise _
  | range array lower upper =>
    refine (askSpace _).bind fun items => ?_
    split
    · exact ofSpace (Space.edits_allocateArray _)
    · exact raise _

/-- The hook of a wrapped object is asked on both sides, and both follow its answer. -/
theorem setProperty {host : Host σ τ} {host' : Host σ' τ'}
    (hooks : ∀ number write, Accord ties depth (Eval.consult host number write)
      (Eval.consult host' number write))
    (object : Value) (key : String) (value : Value) (site : SourceInfo) :
    Accord ties depth (Eval.setProperty host object key value site)
      (Eval.setProperty host' object key value site) := by
  refine (askSpace _).bind fun handle => (askSpace _).bind fun wrapping => ?_
  rcases wrapping with _ | ⟨number, _ | setter, captures⟩
  · exact ofSpace (Space.edits_putProperty _ _ _)
  · exact ofSpace (Space.edits_putProperty _ _ _)
  · refine (hooks setter _).bind fun answer => ?_
    cases answer with
    | store stored => exact ofSpace (Space.edits_putProperty _ _ _)
    | absorb => exact pure ()
    | reject error => exact raise _
    | abort fault => exact throw _

theorem writeBinding (context : ContextRef) (name : String) (value : Value) :
    Accord ties depth (Eval.writeBinding context name value : Run σ τ Halt Unit)
      (Eval.writeBinding context name value : Run σ' τ' Halt Unit) := by
  refine (ofSpace (Space.edits_nameFunction _ _)).bind fun _ => ?_
  refine (ofSpace (Space.edits_assign _ _ _)).bind fun assigned => ?_
  cases assigned with
  | stored => exact pure ()
  | undefined => exact ofSpace (Space.edits_define _ _ _ _)
  | immutable => exact raise _

theorem writeElement (array : Handle) (index : Nat) (value : Value) :
    Accord ties depth (Eval.writeElement array index value : Run σ τ Halt Unit)
      (Eval.writeElement array index value : Run σ' τ' Halt Unit) := by
  refine (askSpace _).bind fun items => ?_
  split
  · exact ofSpace (Space.edits_updateArray _ _)
  · exact raise _

theorem writeRange (array : Handle) (lower upper : Nat) (value : Value) :
    Accord ties depth (Eval.writeRange array lower upper value : Run σ τ Halt Unit)
      (Eval.writeRange array lower upper value : Run σ' τ' Halt Unit) := by
  cases value with
  | undefined | null | bool | int | float | string | object | callable => exact raise _
  | array source =>
    refine (askSpace _).bind fun replacement => (askSpace _).bind fun items => ?_
    split
    · exact ofSpace (Space.edits_updateArray _ _)
    · exact raise _

theorem writePlace {host : Host σ τ} {host' : Host σ' τ'}
    (hooks : ∀ number write, Accord ties depth (Eval.consult host number write)
      (Eval.consult host' number write)) (place : Place) (value : Value) (site : SourceInfo) :
    Accord ties depth (Eval.writePlace host place value site)
      (Eval.writePlace host' place value site) := by
  cases place with
  | binding context name _ => exact writeBinding context name value
  | property object key =>
    exact (ofSpace (Space.edits_nameFunction _ _)).bind fun _ =>
      setProperty hooks object key value site
  | element array index => exact writeElement array index value
  | range array lower upper => exact writeRange array lower upper value

theorem readProperty (value : Value) (key : String) :
    Accord ties depth (Eval.readProperty value key : Run σ τ Halt Value)
      (Eval.readProperty value key : Run σ' τ' Halt Value) := by
  cases value with
  | undefined | null | bool | int | float | callable => exact raise _
  | object handle =>
    simp only [Eval.readProperty]
    exact askSpace _
  | array handle =>
    simp only [Eval.readProperty]
    split
    · exact askSpace _
    · exact raise _
  | string text =>
    simp only [Eval.readProperty]
    split
    · exact pure _
    · exact raise _

theorem variableValue (context : ContextRef) (named : Variable) :
    Accord ties depth (Eval.variableValue context named : Run σ τ Halt Value)
      (Eval.variableValue context named : Run σ' τ' Halt Value) := by
  unfold Eval.variableValue
  cases Eval.declared? named.hint with
  | none =>
    refine (askSpace _).bind fun found => ?_
    cases found with
    | ok value => exact pure value
    | error error => exact raise _
  | some mutability => exact (ofSpace (Space.edits_define _ _ _ _)).bind fun _ => pure _

theorem appendTo (target value : Value) :
    Accord ties depth (Eval.appendTo target value : Run σ τ Halt Value)
      (Eval.appendTo target value : Run σ' τ' Halt Value) := by
  cases target with
  | undefined | null | bool | int | float | string | object | callable => exact raise _
  | array handle => exact (ofSpace (Space.edits_updateArray _ _)).bind fun _ => pure _

theorem loopItems (value : Value) :
    Accord ties depth (Eval.loopItems value : Run σ τ Halt (List Value))
      (Eval.loopItems value : Run σ' τ' Halt (List Value)) := by
  cases value with
  | undefined | null | bool | int | float | string | callable => exact raise _
  | array handle | object handle =>
    simp only [Eval.loopItems]
    exact askSpace _

/-- Right sides of index expressions that are in accord. -/
inductive Selects (ties : Ties σ τ σ' τ') (depth : Nat) :
    Eval.Selector σ τ → Eval.Selector σ' τ' → Prop where
  | missing : Selects ties depth .missing .missing
  | range {lower upper : Run σ τ Exit (Option Int64)}
      {lower' upper' : Run σ' τ' Exit (Option Int64)}
      (lowers : Accord ties depth lower lower') (uppers : Accord ties depth upper upper') :
      Selects ties depth (.range lower upper) (.range lower' upper')
  | key {key : Run σ τ Exit Value} {key' : Run σ' τ' Exit Value}
      (keys : Accord ties depth key key') : Selects ties depth (.key key) (.key key')

theorem indexPlace {target : Run σ τ Exit Value} {target' : Run σ' τ' Exit Value}
    (targets : Accord ties depth target target') {selector : Eval.Selector σ τ}
    {selector' : Eval.Selector σ' τ'} (selectors : Selects ties depth selector selector') :
    Accord ties depth (Eval.indexPlace target selector) (Eval.indexPlace target' selector') := by
  refine targets.bind fun value => ?_
  cases selectors with
  | missing => exact throw _
  | key keys => exact keys.bind fun _ => lift (keyPlace _ _)
  | range lowers uppers =>
    cases value with
    | undefined | null | bool | int | float | string | object | callable => exact throw _
    | array array => exact lowers.bind fun _ => uppers.bind fun _ => lift (rangePlace _ _ _)

theorem strict (op : BinaryOperator) {left right : Run σ τ Exit Value}
    {left' right' : Run σ' τ' Exit Value} (lefts : Accord ties depth left left')
    (rights : Accord ties depth right right') :
    Accord ties depth (Eval.strict op left right) (Eval.strict op left' right') :=
  lefts.bind fun _ => rights.bind fun _ => lift (binary op _ _)

theorem compound {env : Environment σ τ} {env' : Environment σ' τ'}
    (accords : env.Accords ties depth env') (op : Arithmetic) {place : Run σ τ Exit Place}
    {place' : Run σ' τ' Exit Place} {amount : Run σ τ Exit Value} {amount' : Run σ' τ' Exit Value}
    (places : Accord ties depth place place') (amounts : Accord ties depth amount amount')
    (site : SourceInfo) :
    Accord ties depth (Eval.compound env.write op place amount site)
      (Eval.compound env'.write op place' amount' site) := by
  refine places.bind fun found => (lift (readPlace found)).bind fun current => ?_
  refine amounts.bind fun amount => lift ((binary _ current amount).bind fun updated => ?_)
  exact (accords.write found updated site).bind fun _ => pure updated

section Trees

variable {env : Environment σ τ} {env' : Environment σ' τ'}

mutual

theorem expression (accords : env.Accords ties depth env') (context : ContextRef) :
    (tree : Expression) → Accord ties depth (Eval.expression env context tree)
      (Eval.expression env' context tree)
  | .node site op left right => by
    have first := required accords context op left
    have second := required accords context op right
    have place := requiredPlace accords context op left
    rw [Eval.expression.eq_def, Eval.expression.eq_def]
    refine located site ?_
    cases op with
    | plain =>
      cases left with
      | none => exact pure _
      | some inner => exact operand accords context inner
    | assign =>
      cases left with
      | none => exact throw _
      | some goal =>
        cases right with
        | none => exact throw _
        | some origin =>
          dsimp only
          cases Eval.declaration? goal with
          | some declared =>
            refine (operand accords context origin).bind fun value => ?_
            refine (onSpace (Space.edits_nameFunction _ _)).bind fun _ => ?_
            exact (onSpace (Space.edits_define _ _ _ _)).bind fun _ => pure value
          | none =>
            refine (Accord.place accords context goal).bind fun found => ?_
            refine (operand accords context origin).bind fun value => ?_
            exact (lift (accords.write found value site)).bind fun _ => pure value
    | ret =>
      cases right with
      | none => exact throw _
      | some inner => exact (operand accords context inner).bind fun value => throw _
    | raise =>
      exact second.bind fun value => (lift (askSpace _)).bind fun error => throw _
    | not => exact second.bind fun value => pure _
    | and =>
      refine first.bind fun value => ?_
      split
      · exact second.bind fun value => pure _
      · exact pure _
    | or =>
      refine first.bind fun value => ?_
      split
      · exact pure _
      · exact second.bind fun value => pure _
    | eq | ne | lt | le | gt | ge | add | sub | mul | div | rem =>
      exact strict _ first second
    | increment | decrement => exact compound accords _ place (pure _) site
    | addAssign | subAssign | mulAssign | divAssign | remAssign =>
      exact compound accords _ place second site
    | child =>
      exact first.bind fun object => (lift (askSpace _)).bind fun key =>
        lift (readProperty object key)
    | index =>
      exact (indexPlace first (selector accords context right)).bind fun found =>
        lift (readPlace found)
    | append =>
      exact first.bind fun target => second.bind fun value => lift (appendTo target value)

theorem required (accords : env.Accords ties depth env') (context : ContextRef) (op : Operator) :
    (tree : Option Operand) → Accord ties depth (Eval.required env context op tree)
      (Eval.required env' context op tree)
  | none => throw _
  | some inner => operand accords context inner

theorem requiredPlace (accords : env.Accords ties depth env') (context : ContextRef)
    (op : Operator) : (tree : Option Operand) →
    Accord ties depth (Eval.requiredPlace env context op tree)
      (Eval.requiredPlace env' context op tree)
  | none => throw _
  | some inner => place accords context inner

theorem selector (accords : env.Accords ties depth env') (context : ContextRef) :
    (tree : Option Operand) → Selects ties depth (Eval.selector env context tree)
      (Eval.selector env' context tree)
  | none => .missing
  | some inner => by
    cases inner with
    | range site lower upper =>
      exact .range (rangeBound accords context lower) (rangeBound accords context upper)
    | literal | var | array | object | nested | function | call | jump =>
      exact .key (operand accords context _)

theorem rangeBound (accords : env.Accords ties depth env') (context : ContextRef) :
    (tree : Option Expression) → Accord ties depth (Eval.rangeBound env context tree)
      (Eval.rangeBound env' context tree)
  | none => pure _
  | some inner => (expression accords context inner).bind fun _ =>
    (lift (orRaise _)).bind fun _ => pure _

theorem place (accords : env.Accords ties depth env') (context : ContextRef) :
    (tree : Operand) → Accord ties depth (Eval.place env context tree)
      (Eval.place env' context tree)
  | .var site _ => located site (lift (askSpace _))
  | .nested site inner => located site (expressionPlace accords context inner)
  | .literal site _ | .array site _ | .object site _ | .function site _ _ | .call site _ _
  | .jump site _ | .range site _ _ => located site (throw _)

theorem expressionPlace (accords : env.Accords ties depth env') (context : ContextRef) :
    (tree : Expression) → Accord ties depth (Eval.expressionPlace env context tree)
      (Eval.expressionPlace env' context tree)
  | .node site op left right => by
    have first := required accords context op left
    rw [Eval.expressionPlace.eq_def, Eval.expressionPlace.eq_def]
    cases op with
    | plain =>
      refine located site ?_
      cases left with
      | none => exact throw _
      | some inner => exact place accords context inner
    | child =>
      exact first.bind fun object => (lift (askSpace _)).bind fun key =>
        located site (lift (orRaise _))
    | index => exact located site (indexPlace first (selector accords context right))
    | assign | ret | raise | not | eq | ne | lt | le | gt | ge | and | or | add | sub | mul | div
    | rem | increment | decrement | addAssign | subAssign | mulAssign | divAssign | remAssign
    | append => exact located site (throw _)

theorem operand (accords : env.Accords ties depth env') (context : ContextRef) :
    (tree : Operand) → Accord ties depth (Eval.operand env context tree)
      (Eval.operand env' context tree)
  | .literal _ _ => pure _
  | .var site named => located site (lift (variableValue context named))
  | .array site elements =>
    located site ((expressions accords context elements).bind fun _ =>
      onSpace (Space.edits_allocateArray _))
  | .object site members => by
    refine located site ((onSpace (Space.edits_fork _ _)).bind fun inner => ?_)
    refine (onSpace (Space.edits_allocateObject _)).bind fun object => ?_
    refine (onSpace (Space.edits_define _ _ _ _)).bind fun _ => ?_
    exact (properties accords inner object members).bind fun _ => pure object
  | .nested site inner => located site (expression accords context inner)
  | .function site _ _ => located site (lift (ofSpace (Space.edits_allocateFunction _)))
  | .call site callee arguments =>
    located site ((expression accords context callee).bind fun _ =>
      (expressions accords context arguments).bind fun _ => lift (accords.call _ _ _))
  | .jump _ _ => throw _
  | .range _ _ _ => throw _

theorem expressions (accords : env.Accords ties depth env') (context : ContextRef) :
    (trees : List Expression) → Accord ties depth (Eval.expressions env context trees)
      (Eval.expressions env' context trees)
  | [] => pure _
  | first :: rest => (expression accords context first).bind fun _ =>
    (expressions accords context rest).bind fun _ => pure _

theorem properties (accords : env.Accords ties depth env') (context : ContextRef)
    (object : Value) : (trees : List (String × Expression)) →
    Accord ties depth (Eval.properties env context object trees)
      (Eval.properties env' context object trees)
  | [] => pure _
  | (key, first) :: rest => by
    refine (expression accords context first).bind fun value => ?_
    refine (onSpace (Space.edits_nameFunction _ _)).bind fun _ => ?_
    refine (onSpace (Space.edits_assignProperty _ _ _)).bind fun _ => ?_
    exact properties accords context object rest

theorem scope (accords : env.Accords ties depth env') (context : ContextRef) :
    (tree : Scope) → Accord ties depth (Eval.scope env context tree)
      (Eval.scope env' context tree)
  | .mk _ inner => (onSpace (Space.edits_fork _ _)).bind fun below =>
    controls accords below inner

theorem controls (accords : env.Accords ties depth env') (context : ContextRef) :
    (trees : List Control) → Accord ties depth (Eval.controls env context trees)
      (Eval.controls env' context trees)
  | [] => pure _
  | .statement site body :: rest =>
    (located site (expression accords context body)).bind fun _ =>
      controls accords context rest
  | .conditional inner :: rest =>
    (conditional accords context inner).bind fun _ => controls accords context rest

theorem conditional (accords : env.Accords ties depth env') (context : ContextRef) :
    (tree : Conditional) → Accord ties depth (Eval.conditional env context tree)
      (Eval.conditional env' context tree)
  | .ifThen site condition body alternative => by
    refine (expression accords context condition).bind fun value => located site ?_
    split
    · exact scope accords context body
    · exact otherwise accords context alternative
  | .otherwise site body => located site (scope accords context body)
  | .whileLoop site condition body => by
    refine located site ?_
    rw [accords.bound]
    exact repeatWhile ((expression accords context condition).map _)
      (scope accords context body) _
  | .forIn site item iterable (.mk bodySite body) => by
    refine located site ((expression accords context iterable).bind fun value => ?_)
    refine (lift (loopItems value)).bind fun items => forEach (fun item => ?_) items
    refine (onSpace (Space.edits_fork _ _)).bind fun inner => ?_
    exact (onSpace (Space.edits_define _ _ _ _)).bind fun _ => controls accords inner body
  | .attempt site body trees =>
    located site (accords.rescue (scope accords context body) fun error =>
      handlers accords context error trees)

theorem otherwise (accords : env.Accords ties depth env') (context : ContextRef) :
    (tree : Option Conditional) → Accord ties depth (Eval.otherwise env context tree)
      (Eval.otherwise env' context tree)
  | none => pure _
  | some inner => conditional accords context inner

theorem handlers (accords : env.Accords ties depth env') (context : ContextRef)
    (error : ScriptError) : (trees : List Handler) →
    Accord ties depth (Eval.handlers env context error trees)
      (Eval.handlers env' context error trees)
  | [] => throw _
  | .mk site code parameter (.mk bodySite body) :: rest => by
    have inside := fun inner => controls accords inner body
    have others := handlers accords context error rest
    rw [Eval.handlers.eq_def, Eval.handlers.eq_def]
    dsimp only
    split
    · refine (onSpace (Space.edits_fork _ _)).bind fun inner => ?_
      cases parameter with
      | none => exact inside inner
      | some name =>
        refine (onSpace (Eval.edits_errorObject error)).bind fun object => ?_
        exact (onSpace (Space.edits_define _ _ _ _)).bind fun _ => inside inner
    · exact others

end

end Trees

end Accord

end ScriptEngine
