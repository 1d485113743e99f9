import ScriptEngine.Proofs.PermittedNodes

set_option autoImplicit false

namespace ScriptEngine

namespace Abides

variable {σ τ : Type} {regime : Regime σ} {env : Environment σ τ}

private theorem literal (value : Literal) : value.value.Within regime.charter.inside := by
  cases value <;> exact Value.within_of_scalar rfl

mutual

theorem expression (conforms : regime.Conforms env) : (tree : Expression) → ∀ {loop context},
    regime.charter.New context.handle →
    (regime.charter.looped → LoopScoped.expression loop tree = true) →
    Abides regime (regime.Exits loop) (Value.Within regime.charter.inside)
      (Eval.expression env context tree)
  | .node site op left right, loop, context, new, formed => by
    have both : regime.charter.looped → LoopScoped.optional loop left = true ∧
        LoopScoped.optional loop right = true := fun looped => by
      simpa [LoopScoped.expression] using formed looped
    have leftFormed := fun looped => (both looped).1
    have rightFormed := fun looped => (both looped).2
    have first := required conforms op left new leftFormed
    have second := required conforms op right new rightFormed
    have place := requiredPlace conforms op left new leftFormed
    have scalar : ∀ truth : Bool, Value.Within regime.charter.inside (.bool truth) :=
      fun _ => Value.within_of_scalar rfl
    rw [Eval.expression.eq_def]
    refine located site ?_
    cases op with
    | plain =>
      cases left with
      | none => exact pure (Value.within_of_scalar rfl)
      | some inner => exact operand conforms inner new leftFormed
    | assign =>
      cases left with
      | none => exact fault _
      | some goal =>
        cases right with
        | none => exact fault _
        | some origin =>
          have origins := operand conforms origin new rightFormed
          dsimp only
          cases Eval.declaration? goal with
          | some declared =>
            refine origins.bind fun value within => ?_
            refine (onSpace (.nameFunction within declared.1)).bind fun _ _ => ?_
            exact (onSpace (.define new declared.1 within declared.2)).bind fun _ _ => pure within
          | none =>
            -- The place is found before the value, which may change a lot in between. What a place
            -- reaches is a matter of the start and of the place alone, so that does no harm.
            refine (Abides.place conforms goal new leftFormed).bind fun found reaches => ?_
            refine origins.bind fun value within => ?_
            exact (lift (conforms.write site reaches within)).bind fun _ _ => pure within
    | ret =>
      cases right with
      | none => exact throw fun _ level => .returned level (Value.within_of_scalar rfl)
      | some inner =>
        exact (operand conforms inner new rightFormed).bind fun value within =>
          throw fun _ level => .returned level within
    | raise =>
      refine second.bind fun value _ => ?_
      refine (lift (askSpace fun _ _ _ thrown => ordinary_thrownError thrown)).bind
        fun error ordinary => raised ordinary
    | not => exact second.bind fun value _ => pure (scalar _)
    | and =>
      refine first.bind fun value _ => ?_
      split
      · exact second.bind fun value _ => pure (scalar _)
      · exact pure (scalar _)
    | or =>
      refine first.bind fun value _ => ?_
      split
      · exact pure (scalar _)
      · exact second.bind fun value _ => pure (scalar _)
    | eq | ne | lt | le | gt | ge | add | sub | mul | div | rem => exact strict _ first second
    | increment | decrement =>
      exact compound conforms _ place (pure (Value.within_of_scalar rfl)) site
    | addAssign | subAssign | mulAssign | divAssign | remAssign =>
      exact compound conforms _ place second site
    | child =>
      exact first.bind fun object within => (lift (asking _)).bind fun key _ =>
        lift (readProperty within key)
    | index =>
      exact (indexPlace first (selector conforms right new rightFormed)).bind fun found reaches =>
        lift (readPlace reaches)
    | append =>
      exact first.bind fun target inside => second.bind fun value within =>
        lift (appendTo inside within)

theorem required (conforms : regime.Conforms env) (op : Operator) : (tree : Option Operand) →
    ∀ {loop context}, regime.charter.New context.handle →
    (regime.charter.looped → LoopScoped.optional loop tree = true) →
    Abides regime (regime.Exits loop) (Value.Within regime.charter.inside)
      (Eval.required env context op tree)
  | none, _, _, _, _ => fault _
  | some inner, _, _, new, formed => operand conforms inner new formed

theorem requiredPlace (conforms : regime.Conforms env) (op : Operator) :
    (tree : Option Operand) → ∀ {loop context}, regime.charter.New context.handle →
    (regime.charter.looped → LoopScoped.optional loop tree = true) →
    Abides regime (regime.Exits loop) regime.charter.Reaches
      (Eval.requiredPlace env context op tree)
  | none, _, _, _, _ => fault _
  | some inner, _, _, new, formed => place conforms inner new formed

theorem selector (conforms : regime.Conforms env) : (tree : Option Operand) →
    ∀ {loop context}, regime.charter.New context.handle →
    (regime.charter.looped → LoopScoped.optional loop tree = true) →
    Selects regime loop (Eval.selector env context tree)
  | none, _, _, _, _ => .missing
  | some inner, loop, _, new, formed => by
    cases inner with
    | range site lower upper =>
      have both : regime.charter.looped → LoopScoped.rangeBound loop lower = true ∧
          LoopScoped.rangeBound loop upper = true := fun looped => by
        simpa [LoopScoped.optional, LoopScoped.operand] using formed looped
      exact .range (rangeBound conforms lower new fun looped => (both looped).1)
        (rangeBound conforms upper new fun looped => (both looped).2)
    | literal | var | array | object | nested | function | call | jump =>
      exact .key (operand conforms _ new formed)

theorem rangeBound (conforms : regime.Conforms env) : (tree : Option Expression) →
    ∀ {loop context}, regime.charter.New context.handle →
    (regime.charter.looped → LoopScoped.rangeBound loop tree = true) →
    Abides regime (regime.Exits loop) (fun _ => True) (Eval.rangeBound env context tree)
  | none, _, _, _, _ => pure trivial
  | some inner, _, _, new, formed =>
    (expression conforms inner new formed).bind fun _ _ =>
      (lift (orRaise (fun _ _ => trivial) fun _ => ordinary_expectInt)).bind fun _ _ =>
        pure trivial

theorem place (conforms : regime.Conforms env) : (tree : Operand) →
    ∀ {loop context}, regime.charter.New context.handle →
    (regime.charter.looped → LoopScoped.operand loop tree = true) →
    Abides regime (regime.Exits loop) regime.charter.Reaches (Eval.place env context tree)
  | .var site named, _, _, new, _ => located site (lift (bindingPlace new named.name))
  | .nested site inner, _, _, new, formed =>
    located site (expressionPlace conforms inner new formed)
  | .literal site _, _, _, _, _ | .array site _, _, _, _, _ | .object site _, _, _, _, _
  | .function site _ _, _, _, _, _ | .call site _ _, _, _, _, _ | .jump site _, _, _, _, _
  | .range site _ _, _, _, _, _ => located site (raised rfl)

theorem expressionPlace (conforms : regime.Conforms env) : (tree : Expression) →
    ∀ {loop context}, regime.charter.New context.handle →
    (regime.charter.looped → LoopScoped.expression loop tree = true) →
    Abides regime (regime.Exits loop) regime.charter.Reaches
      (Eval.expressionPlace env context tree)
  | .node site op left right, loop, context, new, formed => by
    have both : regime.charter.looped → LoopScoped.optional loop left = true ∧
        LoopScoped.optional loop right = true := fun looped => by
      simpa [LoopScoped.expression] using formed looped
    have leftFormed := fun looped => (both looped).1
    have first := required conforms op left new leftFormed
    rw [Eval.expressionPlace.eq_def]
    cases op with
    | plain =>
      refine located site ?_
      cases left with
      | none => exact raised rfl
      | some inner => exact place conforms inner new leftFormed
    | child =>
      exact first.bind fun object within => (lift (asking _)).bind fun key _ =>
        located site (lift (propertyPlace within key))
    | index =>
      exact located site (indexPlace first
        (selector conforms right new fun looped => (both looped).2))
    | assign | ret | raise | not | eq | ne | lt | le | gt | ge | and | or | add | sub | mul | div
    | rem | increment | decrement | addAssign | subAssign | mulAssign | divAssign | remAssign
    | append => exact located site (raised rfl)

theorem operand (conforms : regime.Conforms env) : (tree : Operand) →
    ∀ {loop context}, regime.charter.New context.handle →
    (regime.charter.looped → LoopScoped.operand loop tree = true) →
    Abides regime (regime.Exits loop) (Value.Within regime.charter.inside)
      (Eval.operand env context tree)
  | .literal _ value, _, _, _, _ => pure (literal value)
  | .var site named, _, _, new, _ => located site (lift (variableValue new named))
  | .array site elements, _, _, new, formed => by
    refine located site ((expressions conforms elements new formed).bind fun items within =>
      onSpace (.allocateArray fun value member => within value ?_))
    exact List.mem_toArray.mp member
  | .object site members, _, _, new, formed => by
    refine located site ((onSpace (.fork (regime.charter.new new) site)).bind fun inner below => ?_)
    have made : ObjectData.Within regime.charter.inside ⟨∅, none, some inner, site, ∅⟩ := by
      refine ⟨nofun, fun same => ?_, nofun⟩
      cases same
      exact regime.charter.new below
    refine (onSpace (.allocateObject made)).bind fun object fresh => ?_
    obtain ⟨handle, rfl, begun⟩ := fresh
    have within : Value.Within regime.charter.inside (.object handle) :=
      Value.within_of_points rfl (regime.charter.new begun)
    refine (onSpace (.define below "this" within .immutable)).bind fun _ _ => ?_
    exact (properties conforms members below begun formed).bind fun _ _ => pure within
  | .nested site inner, _, _, new, formed =>
    located site (expression conforms inner new formed)
  | .function site _ _, _, _, new, formed =>
    located site (lift (ofSpace (.allocateFunction (regime.charter.new new) formed)))
  | .call site callee arguments, loop, _, new, formed => by
    have both : regime.charter.looped → LoopScoped.expression loop callee = true ∧
        LoopScoped.expressions loop arguments = true := fun looped => by
      simpa [LoopScoped.operand] using formed looped
    refine located site ((expression conforms callee new fun looped => (both looped).1).bind
      fun _ within => ?_)
    exact (expressions conforms arguments new fun looped => (both looped).2).bind
      fun _ fitting => lift (conforms.call _ within fitting)
  | .jump _ direction, _, _, _, formed => throw fun _ level => .jumped direction level formed
  | .range _ _ _, _, _, _, _ => fault _

theorem expressions (conforms : regime.Conforms env) : (trees : List Expression) →
    ∀ {loop context}, regime.charter.New context.handle →
    (regime.charter.looped → LoopScoped.expressions loop trees = true) →
    Abides regime (regime.Exits loop)
      (fun values : List Value => ∀ value ∈ values, value.Within regime.charter.inside)
      (Eval.expressions env context trees)
  | [], _, _, _, _ => pure fun _ => nofun
  | first :: rest, loop, _, new, formed => by
    have both : regime.charter.looped → LoopScoped.expression loop first = true ∧
        LoopScoped.expressions loop rest = true := fun looped => by
      simpa [LoopScoped.expressions] using formed looped
    refine (expression conforms first new fun looped => (both looped).1).bind
      fun value within => ?_
    refine (expressions conforms rest new fun looped => (both looped).2).bind
      fun values fitting => pure fun other member => ?_
    rcases List.mem_cons.mp member with rfl | member
    · exact within
    · exact fitting other member

theorem properties (conforms : regime.Conforms env) : (trees : List (String × Expression)) →
    ∀ {loop context handle}, regime.charter.New context.handle → regime.charter.New handle →
    (regime.charter.looped → LoopScoped.properties loop trees = true) →
    Abides regime (regime.Exits loop) (fun _ => True)
      (Eval.properties env context (.object handle) trees)
  | [], _, _, _, _, _, _ => pure trivial
  | (key, first) :: rest, loop, _, _, new, begun, formed => by
    have both : regime.charter.looped → LoopScoped.expression loop first = true ∧
        LoopScoped.properties loop rest = true := fun looped => by
      simpa [LoopScoped.properties] using formed looped
    refine (expression conforms first new fun looped => (both looped).1).bind
      fun value within => ?_
    refine (onSpace (.nameFunction within key)).bind fun _ _ => ?_
    refine (onSpace (.assignProperty (regime.charter.new begun) (regime.new_free begun) key
      within)).bind fun _ _ => ?_
    exact properties conforms rest new begun fun looped => (both looped).2

theorem scope (conforms : regime.Conforms env) : (tree : Scope) →
    ∀ {loop context}, regime.charter.New context.handle →
    (regime.charter.looped → LoopScoped.scope loop tree = true) →
    Abides regime (regime.Exits loop) (fun _ => True) (Eval.scope env context tree)
  | .mk site inner, _, _, new, formed =>
    (onSpace (.fork (regime.charter.new new) site)).bind fun _ below =>
      controls conforms inner below formed

theorem controls (conforms : regime.Conforms env) : (trees : List Control) →
    ∀ {loop context}, regime.charter.New context.handle →
    (regime.charter.looped → LoopScoped.controls loop trees = true) →
    Abides regime (regime.Exits loop) (fun _ => True) (Eval.controls env context trees)
  | [], _, _, _, _ => pure trivial
  | .statement site body :: rest, loop, _, new, formed => by
    have both : regime.charter.looped → LoopScoped.expression loop body = true ∧
        LoopScoped.controls loop rest = true := fun looped => by
      simpa [LoopScoped.controls] using formed looped
    exact (located site (expression conforms body new fun looped => (both looped).1)).bind
      fun _ _ => controls conforms rest new fun looped => (both looped).2
  | .conditional inner :: rest, loop, _, new, formed => by
    have both : regime.charter.looped → LoopScoped.conditional loop inner = true ∧
        LoopScoped.controls loop rest = true := fun looped => by
      simpa [LoopScoped.controls] using formed looped
    exact (conditional conforms inner new fun looped => (both looped).1).bind
      fun _ _ => controls conforms rest new fun looped => (both looped).2

theorem conditional (conforms : regime.Conforms env) : (tree : Conditional) →
    ∀ {loop context}, regime.charter.New context.handle →
    (regime.charter.looped → LoopScoped.conditional loop tree = true) →
    Abides regime (regime.Exits loop) (fun _ => True) (Eval.conditional env context tree)
  | .ifThen site condition body alternative, loop, _, new, formed => by
    have all : regime.charter.looped → (LoopScoped.expression loop condition = true ∧
        LoopScoped.scope loop body = true) ∧ LoopScoped.otherwise loop alternative = true :=
      fun looped => by simpa [LoopScoped.conditional] using formed looped
    refine (expression conforms condition new fun looped => (all looped).1.1).bind
      fun value _ => located site ?_
    split
    · exact scope conforms body new fun looped => (all looped).1.2
    · exact otherwise conforms alternative new fun looped => (all looped).2
  | .otherwise site body, _, _, new, formed => located site (scope conforms body new formed)
  | .whileLoop site condition body, loop, _, new, formed => by
    have both : regime.charter.looped → LoopScoped.expression loop condition = true ∧
        LoopScoped.scope true body = true := fun looped => by
      simpa [LoopScoped.conditional] using formed looped
    -- A jump in the condition does not end in this loop but goes on to the one around it.
    refine located site (repeatWhile ?_ ?_ env.bound)
    · exact (expression conforms condition new fun looped => (both looped).1).map
        fun _ _ => trivial
    · exact scope conforms body new fun looped => (both looped).2
  | .forIn site item iterable (.mk bodySite body), loop, _, new, formed => by
    have both : regime.charter.looped → LoopScoped.expression loop iterable = true ∧
        LoopScoped.controls true body = true := fun looped => by
      simpa [LoopScoped.conditional, LoopScoped.scope] using formed looped
    refine located site ((expression conforms iterable new fun looped => (both looped).1).bind
      fun value within => ?_)
    refine (lift (loopItems within)).bind fun items fitting => forEach fun value member => ?_
    refine (onSpace (.fork (regime.charter.new new) bodySite)).bind fun inner below => ?_
    refine (onSpace (.define below item.name (fitting value member) _)).bind fun _ _ => ?_
    exact controls conforms body below fun looped => (both looped).2
  | .attempt site body trees, loop, _, new, formed => by
    have both : regime.charter.looped → LoopScoped.scope loop body = true ∧
        LoopScoped.handlers loop trees = true := fun looped => by
      simpa [LoopScoped.conditional] using formed looped
    exact located site (conforms.rescue (scope conforms body new fun looped => (both looped).1)
      fun error state level fitting => handlers conforms error trees new
        (fun looped => (both looped).2) state level fitting)

theorem otherwise (conforms : regime.Conforms env) : (tree : Option Conditional) →
    ∀ {loop context}, regime.charter.New context.handle →
    (regime.charter.looped → LoopScoped.otherwise loop tree = true) →
    Abides regime (regime.Exits loop) (fun _ => True) (Eval.otherwise env context tree)
  | none, _, _, _, _ => pure trivial
  | some inner, _, _, new, formed => conditional conforms inner new formed

/-- The error that is handled may have come from a hook, so it is one that may be raised now. -/
theorem handlers (conforms : regime.Conforms env) (error : ScriptError) :
    (trees : List Handler) → ∀ {loop context}, regime.charter.New context.handle →
    (regime.charter.looped → LoopScoped.handlers loop trees = true) →
    ∀ state : RunState σ τ, regime.Level state → regime.errors state.own error.kind →
    regime.Allows (regime.Exits loop) (fun _ => True)
      (Eval.handlers env context error trees state)
  | [], _, _, _, _, _, level, fitting => .early (.halted (.raised level fitting))
  | .mk site code parameter (.mk bodySite body) :: rest, loop, context, new, formed, state, level,
      fitting => by
    have both : regime.charter.looped → LoopScoped.controls loop body = true ∧
        LoopScoped.handlers loop rest = true := fun looped => by
      simpa [LoopScoped.handlers, LoopScoped.scope] using formed looped
    have inside := fun {context : ContextRef} (new : regime.charter.New context.handle) =>
      controls conforms body new fun looped => (both looped).1
    have others := handlers conforms error rest new (fun looped => (both looped).2) state level
      fitting
    rw [Eval.handlers.eq_def]
    dsimp only
    split
    · refine ((onSpace (.fork (regime.charter.new new) site)).bind fun inner below => ?_)
        state level
      cases parameter with
      | none => exact inside below
      | some name =>
        refine (onSpace (.errorObject error)).bind fun object within => ?_
        exact (onSpace (.define below name within .mutable)).bind fun _ _ => inside below
    · exact others

end

theorem notify (conforms : regime.Conforms env) {data : Value}
    (within : data.Within regime.charter.inside) (site : SourceInfo) (callbacks : List Value)
    (fitting : ∀ callback ∈ callbacks, callback.Within regime.charter.inside) :
    Abides regime regime.Halts (fun _ => True) (Eval.notify env data site callbacks) := by
  induction callbacks with
  | nil => exact pure trivial
  | cons callback rest ih =>
    refine (asking _).bind fun arity _ => ?_
    refine (conforms.call site (fitting _ (List.mem_cons_self ..)) fun argument member => ?_).bind
      fun _ _ => ih fun other member => fitting other (List.mem_cons_of_mem _ member)
    split at member
    · cases member
    · cases List.mem_singleton.mp member
      exact within

theorem triggerEvent (conforms : regime.Conforms env) {object data : Value}
    (inside : object.Within regime.charter.inside) (event : String)
    (within : data.Within regime.charter.inside) (site : SourceInfo) :
    Abides regime regime.Halts (fun _ => True) (Eval.triggerEvent env object event data site) := by
  refine executing ((askSpace fun _ upheld _ read => upheld.listeners inside read).bind
    fun callbacks fitting => notify conforms within site callbacks fitting)

theorem executeModule (conforms : regime.Conforms env) {context : ContextRef}
    (inside : regime.charter.inside context.handle) {program : Program}
    (formed : regime.charter.looped → program.loopScoped = true) :
    Abides regime regime.Halts (fun _ => True) (Eval.executeModule env context program) := by
  obtain ⟨site, ⟨bodySite, body⟩⟩ := program
  refine executing ((ofSpace (.fork inside _)).bind fun inner below => ?_)
  exact (conforms.finish (controls conforms body below formed)).bind fun _ _ => pure trivial

section Courses

variable {site : SourceInfo} {call : NativeCall}

private theorem follow_orAbort {α : Type} {values : α → Prop} {result : Except Fault α}
    {next : α → NativeCourse σ τ} (fitting : ∀ value, result = .ok value → values value)
    (rest : ∀ value, values value → Abides regime regime.Halts
      (Value.Within regime.charter.inside) (Eval.follow env site (next value))) :
    Abides regime regime.Halts (Value.Within regime.charter.inside)
      (Eval.follow env site (.orAbort result next)) := by
  cases result with
  | ok value => exact rest value (fitting value rfl)
  | error fault => exact throw fun _ level => level.halts_fault fault

private theorem follow_expectString {value : Value} {next : String → NativeCourse σ τ}
    (rest : ∀ text, Abides regime regime.Halts
      (Value.Within regime.charter.inside) (Eval.follow env site (next text))) :
    Abides regime regime.Halts (Value.Within regime.charter.inside)
      (Eval.follow env site (.orFail (expectString value) next)) := by
  cases value with
  | string text => exact rest text
  | undefined | null | bool | int | float | array | object | callable => exact raise rfl

private theorem capture (captured : ∀ value ∈ call.captures, value.Within regime.charter.inside)
    {index : Nat} {value : Value} (found : call.capture index = .ok value) :
    value.Within regime.charter.inside := by
  unfold NativeCall.capture at found
  split at found
  · rename_i value' present
    cases found
    exact captured _ (List.mem_of_getElem? present)
  · cases found

theorem subscribe (given : ∀ value ∈ call.arguments, value.Within regime.charter.inside)
    (captured : ∀ value ∈ call.captures, value.Within regime.charter.inside) :
    Abides regime regime.Halts (Value.Within regime.charter.inside)
      (Eval.follow env site (.subscribe call)) := by
  unfold NativeCourse.subscribe
  split
  · rename_i event callback arguments
    rw [arguments] at given
    refine follow_expectString fun event => ?_
    split
    · refine follow_orAbort (fun _ => capture captured) fun object within => ?_
      refine (ofSpace (.addListener within event (given _ ?_))).bind fun _ _ => pure within
      exact List.mem_cons_of_mem _ (List.mem_cons_self ..)
    · exact raise rfl
  · exact raise rfl

theorem unsubscribe (captured : ∀ value ∈ call.captures, value.Within regime.charter.inside) :
    Abides regime regime.Halts (Value.Within regime.charter.inside)
      (Eval.follow env site (.unsubscribe call)) := by
  unfold NativeCourse.unsubscribe
  split
  · refine follow_expectString fun event => ?_
    refine follow_orAbort (fun _ => capture captured) fun object within => ?_
    exact (ofSpace (.removeListeners within event)).bind fun _ _ => pure within
  · exact raise rfl

theorem dispatch (conforms : regime.Conforms env)
    (given : ∀ value ∈ call.arguments, value.Within regime.charter.inside)
    (captured : ∀ value ∈ call.captures, value.Within regime.charter.inside) :
    Abides regime regime.Halts (Value.Within regime.charter.inside)
      (Eval.follow env site (.dispatch call)) := by
  unfold NativeCourse.dispatch
  split
  · rename_i event data arguments
    rw [arguments] at given
    refine follow_expectString fun event => ?_
    refine follow_orAbort (fun _ => capture captured) fun object within => ?_
    have argument := given data (List.mem_cons_of_mem _ (List.mem_cons_self ..))
    refine answered (triggerEvent conforms within event argument site)
      (fun _ _ => pure (Value.within_of_scalar rfl)) fun error state level fitting => ?_
    exact .early (.raised level fitting)
  · exact raise rfl

theorem method (conforms : regime.Conforms env) (host : Host σ τ) {kind : NativeBody}
    (event : kind.IsEvent)
    (given : ∀ value ∈ call.arguments, value.Within regime.charter.inside)
    (captured : ∀ value ∈ call.captures, value.Within regime.charter.inside) :
    Abides regime regime.Halts (Value.Within regime.charter.inside)
      (Eval.follow env site (host.course kind call)) := by
  rcases event with rfl | rfl | rfl
  · exact subscribe given captured
  · exact unsubscribe captured
  · exact dispatch conforms given captured

end Courses

private theorem nativeResult {first : Run σ τ Halt Value} {values : Value → Prop}
    (before : Abides regime regime.Halts values first) (site : SourceInfo) :
    Abides regime regime.Halts values fun state =>
      let (result, state) := first state
      (Eval.nativeResult state.stack site result, state) := by
  intro state level
  have allowed := before state level
  dsimp only
  generalize first state = ended at allowed
  cases allowed with
  | value level' within => exact .value level' within
  | early halts => exact .early ((halts.locate site).attached _)

section Calls

variable {manner : Manner σ τ} (approves : regime.Approves manner)
include approves

theorem callFunction (conforms : regime.Conforms env) {closure : Closure}
    (inside : regime.charter.inside closure.context.handle)
    (formed : regime.charter.looped → closure.body.loopScoped = true) {arguments : List Value}
    (given : ∀ argument ∈ arguments, argument.Within regime.charter.inside) (site : SourceInfo) :
    Abides regime regime.Halts (Value.Within regime.charter.inside)
      (Eval.callFunctionBy manner env closure arguments site) := by
  unfold Eval.callFunctionBy
  split
  · refine approves.frame _ (conforms.finish ?_)
    refine (onSpace (.fork inside site)).bind fun inner below => ?_
    refine (onSpace (.bindArguments below _ fun entry member => ?_)).bind fun _ _ => ?_
    · exact given _ (List.of_mem_zip member).2
    · obtain ⟨context, parameters, ⟨bodySite, ⟨innerSite, body⟩⟩, name⟩ := closure
      exact controls conforms body below formed
  · refine raise ?_
    rw [ScriptError.kind_locate]
    rfl

theorem callNative (conforms : regime.Conforms env) {callee : NativeFunction}
    (event : callee.body.IsEvent)
    (captured : ∀ value ∈ callee.captures, value.Within regime.charter.inside)
    {arguments : List Value}
    (given : ∀ argument ∈ arguments, argument.Within regime.charter.inside) (site : SourceInfo) :
    Abides regime regime.Halts (Value.Within regime.charter.inside)
      (Eval.callNativeBy manner env callee arguments site) := by
  unfold Eval.callNativeBy
  split
  · exact approves.frame _ (nativeResult (approves.body conforms event given captured) site)
  · refine raise ?_
    rw [ScriptError.kind_locate]
    rfl

theorem invoke (conforms : regime.Conforms env) {callee : Value} {arguments : List Value}
    (within : callee.Within regime.charter.inside)
    (given : ∀ argument ∈ arguments, argument.Within regime.charter.inside) (site : SourceInfo) :
    Abides regime regime.Halts (Value.Within regime.charter.inside)
      (Eval.invokeBy manner env callee arguments site) := by
  have refused : ∀ error : ScriptError, error.kind.isLoopControl = false →
      Abides regime regime.Halts (Value.Within regime.charter.inside)
        (Run.raise (error.locate site) : Run σ τ Halt Value) := by
    intro error ordinary
    refine raise ?_
    rw [ScriptError.kind_locate]
    exact ordinary
  cases callee with
  | undefined | null | bool | int | float | string | array | object => exact refused _ rfl
  | callable handle =>
    refine (askSpace fun _ upheld _ found => upheld.callTarget (within _ rfl) found).bind
      fun target fitting => ?_
    cases target with
    | function closure =>
      exact (approves.allow closure).bind fun _ _ =>
        executing (callFunction approves conforms fitting.1 fitting.2 given site)
    | native callee =>
      exact executing (callNative approves conforms fitting.1 fitting.2 given site)

end Calls

end Abides

/-- What an execution is given may be touched, and its program has loops for its jumps. -/
def Execution.Fits {α : Type} (charter : Charter) : Execution α → Prop
  | .executeModule context program => charter.inside context.handle ∧
    (charter.looped → program.loopScoped = true)
  | .call callee arguments _ => callee.Within charter.inside ∧
    ∀ argument ∈ arguments, argument.Within charter.inside
  | .triggerEvent object _ data _ => object.Within charter.inside ∧ data.Within charter.inside

/-- Whether all jumps of the program, if the execution has one, have a loop to end in. -/
def Execution.loopScoped {α : Type} : Execution α → Bool
  | .executeModule _ program => program.loopScoped
  | .call _ _ _ | .triggerEvent _ _ _ _ => true

theorem Execution.fits_unbounded {α : Type} {execution : Execution α} {start : Space}
    {looped : Prop} (formed : looped → execution.loopScoped = true) :
    execution.Fits (.unbounded start looped) := by
  cases execution with
  | executeModule => exact ⟨trivial, formed⟩
  | call => exact ⟨fun _ _ => trivial, fun _ _ _ _ => trivial⟩
  | triggerEvent => exact ⟨fun _ _ => trivial, fun _ _ => trivial⟩

namespace Regime.Approves

variable {σ τ : Type} {regime : Regime σ} {manner : Manner σ τ}

/-- Whatever the fuel, calls abide if writes and bodies do. -/
theorem conforms (approves : regime.Approves manner) (host : Host σ τ) (classes : ClassRegistry)
    (fuel : Nat) : regime.Conforms (Eval.environmentBy manner host classes fuel) := by
  induction fuel with
  | zero =>
    refine ⟨approves.write, approves.finish, approves.rescue, fun _ _ _ => ?_⟩
    exact Abides.throw fun _ level => .outOfFuel level
  | succ fuel ih =>
    exact ⟨approves.write, approves.finish, approves.rescue,
      fun site within given => Abides.invoke approves ih within given site⟩

/-- Every execution that fits the charter abides by the regime. -/
theorem execution (approves : regime.Approves manner) (host : Host σ τ) (classes : ClassRegistry)
    (fuel : Nat) {α : Type} {execution : Execution α} (fits : execution.Fits regime.charter) :
    Abides regime regime.Halts (fun _ => True) (execution.runBy manner host classes fuel) := by
  have conforms := approves.conforms host classes fuel
  cases execution with
  | executeModule context program => exact Abides.executeModule conforms fits.1 fits.2
  | triggerEvent object event data site =>
    exact Abides.triggerEvent conforms fits.1 event fits.2 site
  | call callee arguments site =>
    exact (conforms.call site fits.1 fits.2).weaken fun _ _ => trivial

end Regime.Approves

/-- The regime under which nothing but the charter counts. -/
def Charter.regime (charter : Charter) (σ : Type) : Regime σ where
  charter := charter
  free _ := True
  errors _ _ := True
  law _ _ := True
  torn _ _ _ := True
  new_free _ := trivial
  change _ _ _ := trivial
  tear _ _ := trivial
  ordinary _ _ _ := trivial
  lax _ _ _ := trivial

/-- However an execution ends, it has kept to its charter, provided that hooks store nothing that
the script may not touch. -/
theorem Charter.Upheld.execution {σ τ α : Type} {charter : Charter} {state : RunState σ τ}
    (upheld : charter.Upheld state.space) {host : Host σ τ}
    (hooks : ∀ {handle number setter captures},
      charter.start.wraps.get? handle = some ⟨number, some setter, captures⟩ →
      ∀ {space write own value}, (host.hook setter space write own).1 = .store value →
        value.Within charter.inside)
    (classes : ClassRegistry) (fuel : Nat) {execution : Execution α}
    (fits : execution.Fits charter) :
    charter.Upheld (execution.run host classes fuel state).2.space := by
  have approves : (charter.regime σ).Approves (.plain host) := by
    refine ⟨fun site reaches within => Abides.writePlace ?_ site reaches within,
      Abides.finishing, Abides.rescuing, fun frame _ before => Abides.framed frame before,
      fun _ => Abides.pure trivial,
      fun conforms _ _ event given captured => Abides.method conforms host event given captured⟩
    refine fun key site inside within => Abides.setProperty inside within (fun _ _ => trivial) ?_
    intro handle number setter captures _ wrapped space own answer after _ _ asked
    refine ⟨trivial, fun value stored => ?_, fun _ _ => trivial⟩
    exact hooks wrapped (congrArg Prod.fst asked |>.trans stored)
  have abides := approves.execution host classes fuel fits
  rw [Execution.runBy_plain] at abides
  have allowed := abides state ⟨upheld, trivial⟩
  generalize execution.run host classes fuel state = ended at allowed
  cases allowed with
  | value level _ => exact level.upheld
  | early halts =>
    cases halts with
    | raised level _ | outOfFuel level => exact level.upheld
    | fault upheld _ => exact upheld

end ScriptEngine
