import ScriptEngine.Eval.Call
import ScriptEngine.Proofs.LockstepTrees

set_option autoImplicit false

namespace ScriptEngine

namespace Lockstep

variable {σ τ : Type} {terms : Terms} {queue : List τ} {env : Environment σ τ}
  {pairing : Pairing}

theorem notify (faithful : Faithful terms queue env) {data data' : Value}
    (alike : data.Alike pairing data') (site : SourceInfo) {callbacks callbacks' : List Value}
    (all : Value.AllAlike pairing callbacks callbacks') :
    Lockstep (terms.calls σ queue) pairing Equal (Eval.notify env data site callbacks)
      (Eval.notify env data' site callbacks') := by
  induction all with
  | nil => exact pure fun _ _ => rfl
  | @cons callback callback' rest rest' head _ ih =>
    refine (askSpace fun _ _ _ grown twins => Answers.arity twins (head.mono grown)).bind
      fun larger grown arity arity' same => ?_
    have given : Value.AllAlike larger (if arity = some 0 then [] else [data])
        (if arity' = some 0 then [] else [data']) := by
      rw [same]
      split
      · exact .nil
      · exact .cons (alike.mono grown) .nil
    refine (faithful.call _ _ _ _ _ site (head.mono grown) given).bind fun _ grown' _ _ _ => ?_
    exact ih.mono (grown.trans grown')

theorem triggerEvent (faithful : Faithful terms queue env) {object object' : Value}
    (objects : object.Alike pairing object') (typed : terms.strict → object.type = .object)
    (event : String) {data data' : Value} (alike : data.Alike pairing data')
    (site : SourceInfo) : Lockstep (terms.calls σ queue) pairing Equal
      (Eval.triggerEvent env object event data site)
      (Eval.triggerEvent env object' event data' site) :=
  executing <| (askSpace fun _ _ _ grown twins =>
    Answers.listeners twins event (objects.mono grown) typed).bind fun _ grown _ _ listed =>
      notify faithful (alike.mono grown) site listed

end Lockstep

structure NativeCall.Alike (terms : Terms) (pairing : Pairing) (left right : NativeCall) :
    Prop where
  name : left.name = right.name
  arguments : Value.AllAlike pairing left.arguments right.arguments
  captures : Value.AllAlike pairing left.captures right.captures
  owned : terms.strict → ∃ handle, left.captures = [.object handle]

namespace Lockstep

variable {σ τ : Type} {terms : Terms} {queue : List τ} {env : Environment σ τ}
  {pairing : Pairing} {site : SourceInfo}

private theorem captured {call call' : NativeCall} (calls : call.Alike terms pairing call')
    {next next' : Value → NativeCourse σ τ}
    (rest : ∀ object object', Value.Alike pairing object object' →
      (terms.strict → object.type = .object) →
      Lockstep (terms.calls σ queue) pairing Value.Alike (Eval.follow env site (next object))
        (Eval.follow env site (next' object'))) :
    Lockstep (terms.calls σ queue) pairing Value.Alike
      (Eval.follow env site (.orAbort (call.capture 0) next))
      (Eval.follow env site (.orAbort (call'.capture 0) next')) := by
  have captures := calls.captures
  have owned := calls.owned
  unfold NativeCall.capture
  generalize call.captures = values at captures owned
  generalize call'.captures = values' at captures
  cases captures with
  | nil =>
    have loose : ¬ terms.strict := fun strict => by
      obtain ⟨handle, equal⟩ := owned strict
      cases equal
    exact throw fun _ _ _ _ _ => .fault (fun strict => absurd strict loose)
      fun strict => absurd strict loose
  | cons head _ =>
    refine rest _ _ head fun strict => ?_
    obtain ⟨handle, equal⟩ := owned strict
    cases equal
    rfl

private theorem namedEvent {event event' : Value} (alike : event.Alike pairing event')
    {next next' : String → NativeCourse σ τ}
    (rest : ∀ name, Lockstep (terms.calls σ queue) pairing Value.Alike
      (Eval.follow env site (next name)) (Eval.follow env site (next' name))) :
    Lockstep (terms.calls σ queue) pairing Value.Alike
      (Eval.follow env site (.orFail (expectString event) next))
      (Eval.follow env site (.orFail (expectString event') next')) := by
  cases alike with
  | array | object | callable => exact raise _
  | scalar plain =>
    cases event with
    | array | object | callable => cases plain
    | undefined | null | bool | int | float => exact raise _
    | string name => exact rest name

private theorem miscounted {call call' : NativeCall} (calls : call.Alike terms pairing call')
    (expected : Nat) : Lockstep (terms.calls σ queue) pairing Value.Alike
      (Eval.follow env site (.fail (call.miscounted expected)))
      (Eval.follow env site (.fail (call'.miscounted expected))) := by
  have same : call.miscounted expected = call'.miscounted expected := by
    unfold NativeCall.miscounted
    rw [calls.name, calls.arguments.length_eq]
  rw [same]
  exact raise _

theorem subscribe {call call' : NativeCall} (calls : call.Alike terms pairing call') :
    Lockstep (terms.calls σ queue) pairing Value.Alike
      (Eval.follow env site (.subscribe call)) (Eval.follow env site (.subscribe call')) := by
  have few : Lockstep (terms.calls σ queue) pairing Value.Alike
      (Eval.follow env site (.fail (call.miscounted 2)))
      (Eval.follow env site (.fail (call'.miscounted 2))) := miscounted calls 2
  have arguments := calls.arguments
  unfold NativeCourse.subscribe
  generalize call.arguments = given at arguments
  generalize call'.arguments = given' at arguments
  rcases arguments with _ | @⟨event, event', _, _, events, _ |
    @⟨callback, callback', _, _, callbacks, _ | _⟩⟩
  · exact few
  · exact few
  · refine namedEvent events fun name => ?_
    cases callbacks with
    | scalar plain =>
      cases callback with
      | array | object | callable => cases plain
      | undefined | null | bool | int | float | string => exact raise _
    | array | object => exact raise _
    | callable paired =>
      refine captured calls fun object object' objects typed => ?_
      exact (ofSpace (addListener objects typed name (.callable paired))).bind
        fun _ grown _ _ _ => pure fun _ grown' => objects.mono (grown.trans grown')
  · exact few

theorem unsubscribe {call call' : NativeCall} (calls : call.Alike terms pairing call') :
    Lockstep (terms.calls σ queue) pairing Value.Alike
      (Eval.follow env site (.unsubscribe call)) (Eval.follow env site (.unsubscribe call')) := by
  have few : Lockstep (terms.calls σ queue) pairing Value.Alike
      (Eval.follow env site (.fail (call.miscounted 1)))
      (Eval.follow env site (.fail (call'.miscounted 1))) := miscounted calls 1
  have arguments := calls.arguments
  unfold NativeCourse.unsubscribe
  generalize call.arguments = given at arguments
  generalize call'.arguments = given' at arguments
  rcases arguments with _ | @⟨event, event', _, _, events, _ | _⟩
  · exact few
  · refine namedEvent events fun name => captured calls fun object object' objects typed => ?_
    exact (ofSpace (removeListeners objects typed name)).bind fun _ grown _ _ _ =>
      pure fun _ grown' => objects.mono (grown.trans grown')
  · exact few

/-- Errors of both sides become answers, faults and a lack of fuel pass. -/
private theorem answered {α β : Type} {values : Pairing → α → β → Prop}
    {first : Run σ τ Halt α} {second : Run σ τ Halt β}
    (both : Lockstep (terms.calls σ queue) pairing values first second)
    {next : Except ScriptError α → Run σ τ Halt Value}
    {next' : Except ScriptError β → Run σ τ Halt Value}
    (rest : ∀ larger, pairing ≤ larger → ∀ result result', Settled (values larger) result result' →
      Lockstep (terms.calls σ queue) larger Value.Alike (next result) (next' result')) :
    Lockstep (terms.calls σ queue) pairing Value.Alike (Eval.answered first next)
      (Eval.answered second next') := by
  intro larger left right grown states
  have outcome := both larger left right grown states
  unfold Eval.answered
  generalize first left = ended at outcome
  generalize second right = ended' at outcome
  cases outcome with
  | value grown' states' alike =>
    exact (rest _ (grown.trans grown') _ _ (.value alike) _ _ _ (le_refl _) states').shrink grown'
  | early grown' states' ends =>
    cases ends with
    | raised error =>
      exact (rest _ (grown.trans grown') _ _ (.error error) _ _ _ (le_refl _) states').shrink
        grown'
    | outOfFuel => exact .early grown' states' .outOfFuel
    | fault tolerated tolerated' => exact .early grown' states' (.fault tolerated tolerated')
  | lostLeft lost =>
    obtain ⟨fault, rfl, lost⟩ := lost
    exact .lostLeft ⟨fault, rfl, lost⟩
  | lostRight lost =>
    obtain ⟨fault, rfl, lost⟩ := lost
    exact .lostRight ⟨fault, rfl, lost⟩

theorem dispatch (faithful : Faithful terms queue env) {call call' : NativeCall}
    (calls : call.Alike terms pairing call') :
    Lockstep (terms.calls σ queue) pairing Value.Alike
      (Eval.follow env site (.dispatch call)) (Eval.follow env site (.dispatch call')) := by
  have few : Lockstep (terms.calls σ queue) pairing Value.Alike
      (Eval.follow env site (.fail (call.miscounted 2)))
      (Eval.follow env site (.fail (call'.miscounted 2))) := miscounted calls 2
  have arguments := calls.arguments
  unfold NativeCourse.dispatch
  generalize call.arguments = given at arguments
  generalize call'.arguments = given' at arguments
  rcases arguments with _ | @⟨event, event', _, _, events, _ | @⟨data, data', _, _, alike, _ | _⟩⟩
  · exact few
  · exact few
  · refine namedEvent events fun name => captured calls fun object object' objects typed => ?_
    refine answered (triggerEvent faithful objects typed name alike site)
      fun _ _ _ _ settled => ?_
    cases settled with
    | value => exact pure fun _ _ => .scalar rfl
    | error error => exact raise error
  · exact few

theorem course (faithful : Faithful terms queue env) {host : Host σ τ} {body : NativeBody}
    (event : body.IsEvent) {call call' : NativeCall} (calls : call.Alike terms pairing call') :
    Lockstep (terms.calls σ queue) pairing Value.Alike
      (Eval.follow env site (host.course body call))
      (Eval.follow env site (host.course body call')) := by
  rcases event with rfl | rfl | rfl
  · exact subscribe calls
  · exact unsubscribe calls
  · exact dispatch faithful calls

theorem bindArguments {source target : ContextRef} (paired : source.Alike pairing target)
    (names : List String) {values values' : List Value}
    (alike : Value.AllAlike pairing values values') :
    Lockstep terms.spaces pairing Equal (Eval.bindArguments source (names.zip values))
      (Eval.bindArguments target (names.zip values')) := by
  induction alike generalizing names with
  | nil =>
    cases names with
    | nil => exact pure fun _ _ => rfl
    | cons => exact pure fun _ _ => rfl
  | cons head rest ih =>
    cases names with
    | nil => exact pure fun _ _ => rfl
    | cons name names =>
      refine (define paired name head .mutable).bind fun _ grown _ _ _ => ?_
      exact (ih names).mono grown

theorem callFunction (faithful : Faithful terms queue env) {closure closure' : Closure}
    (closures : closure.Alike terms.strict pairing closure') {arguments arguments' : List Value}
    (alike : Value.AllAlike pairing arguments arguments') (site : SourceInfo) :
    Lockstep (terms.calls σ queue) pairing Value.Alike
      (Eval.callFunction env closure arguments site)
      (Eval.callFunction env closure' arguments' site) := by
  obtain ⟨context, parameters, body, name⟩ := closure
  obtain ⟨context', parameters', body', name'⟩ := closure'
  obtain ⟨contexts, rfl, rfl, rfl, formed⟩ := closures
  unfold Eval.callFunction
  dsimp only [Closure.displayName]
  rw [alike.length_eq]
  split
  · refine framed rfl (faithful.finish ?_)
    refine (onSpace (fork contexts site)).bind fun _ grown _ _ below => ?_
    refine (onSpace (bindArguments below parameters (alike.mono grown))).bind
      fun _ grown' _ _ _ => ?_
    refine controls faithful _ _ _ _ (below.mono grown') fun strict => ?_
    obtain ⟨bodySite, inner⟩ := body
    obtain ⟨scopeSite, inner⟩ := inner
    exact formed strict
  · exact raise _

theorem callNative (faithful : Faithful terms queue env) {callee callee' : NativeFunction}
    (callees : callee.Alike terms.strict pairing callee') {arguments arguments' : List Value}
    (alike : Value.AllAlike pairing arguments arguments') (site : SourceInfo) :
    Lockstep (terms.calls σ queue) pairing Value.Alike
      (Eval.callNative env callee arguments site)
      (Eval.callNative env callee' arguments' site) := by
  unfold Eval.callNative
  rw [alike.length_eq, callees.arity, callees.name, callees.body]
  split
  · refine framed rfl fun larger left right grown states => ?_
    have calls : NativeCall.Alike terms pairing ⟨callee'.name, arguments, callee.captures, site⟩
        ⟨callee'.name, arguments', callee'.captures, site⟩ :=
      ⟨rfl, alike, callees.captures, callees.owned⟩
    have followed : Lockstep (terms.calls σ queue) pairing Value.Alike
        (Eval.follow env site (env.host.course callee'.body
          ⟨callee'.name, arguments, callee.captures, site⟩))
        (Eval.follow env site (env.host.course callee'.body
          ⟨callee'.name, arguments', callee'.captures, site⟩)) :=
      course faithful (callees.body ▸ callees.event) calls
    have outcome := followed larger left right grown states
    dsimp only
    generalize Eval.follow env site _ left = ended at outcome
    generalize Eval.follow env site _ right = ended' at outcome
    cases outcome with
    | value grown' states' alike => exact .value grown' states' alike
    | early grown' states' ends =>
      refine .early grown' states' ?_
      rw [states'.stack]
      cases ends with
      | raised error => exact .raised _
      | outOfFuel => exact .outOfFuel
      | fault tolerated tolerated' => exact .fault tolerated tolerated'
    | lostLeft lost =>
      obtain ⟨fault, rfl, lost⟩ := lost
      exact .lostLeft ⟨fault, rfl, lost⟩
    | lostRight lost =>
      obtain ⟨fault, rfl, lost⟩ := lost
      exact .lostRight ⟨fault, rfl, lost⟩
  · exact raise _

theorem invoke (faithful : Faithful terms queue env) {callee callee' : Value}
    (callees : callee.Alike pairing callee') {arguments arguments' : List Value}
    (alike : Value.AllAlike pairing arguments arguments') (site : SourceInfo) :
    Lockstep (terms.calls σ queue) pairing Value.Alike (Eval.invoke env callee arguments site)
      (Eval.invoke env callee' arguments' site) := by
  cases callees with
  | array | object => exact raise _
  | scalar plain =>
    cases callee with
    | array | object | callable => cases plain
    | undefined | null | bool | int | float | string => exact raise _
  | callable paired =>
    refine (askSpace fun _ _ _ grown twins => Answers.callTarget twins (grown _ _ _ paired)).bind
      fun _ grown _ _ targets => ?_
    cases targets with
    | function closures => exact executing (callFunction faithful closures (alike.mono grown) site)
    | native callees => exact executing (callNative faithful callees (alike.mono grown) site)

/-- Whatever the fuel, the calls of an obliging host stay in lockstep. -/
theorem faithful_environment {host : Host σ τ} (obliging : Obliging terms host)
    (classes : ClassRegistry) (fuel : Nat) :
    Faithful terms queue (Eval.environment host classes fuel) := by
  induction fuel with
  | zero =>
    exact ⟨writes_writePlace obliging, finishing, rescuing,
      fun _ _ _ _ _ _ _ _ => throw fun _ _ _ _ _ => .outOfFuel⟩
  | succ fuel ih =>
    exact ⟨writes_writePlace obliging, finishing, rescuing,
      fun _ _ _ _ _ site callees alike => invoke ih callees alike site⟩

theorem call {host : Host σ τ} (obliging : Obliging terms host) (classes : ClassRegistry)
    (fuel : Nat) {callee callee' : Value} (callees : callee.Alike pairing callee')
    {arguments arguments' : List Value} (alike : Value.AllAlike pairing arguments arguments')
    (site : SourceInfo) :
    Lockstep (terms.calls σ queue) pairing Value.Alike
      (Eval.call host classes fuel callee arguments site)
      (Eval.call host classes fuel callee' arguments' site) :=
  (faithful_environment obliging classes fuel).call _ _ _ _ _ site callees alike

theorem executeModule (faithful : Faithful terms queue env) {source target : ContextRef}
    (contexts : source.Alike pairing target) (program : Program)
    (formed : terms.strict → program.wellFormed = true) :
    Lockstep (terms.calls σ queue) pairing
      (fun larger answer answer' => answer.1.Alike larger answer'.1 ∧
        answer.2.Alike larger answer'.2)
      (Eval.executeModule env source program) (Eval.executeModule env target program) := by
  refine executing ((ofSpace (fork contexts program.site)).bind fun _ grown _ _ below => ?_)
  refine (faithful.finish (controls faithful _ _ _ _ below fun strict => ?_)).bind
    fun _ grown' _ _ alike => pure fun _ wider =>
      ⟨alike.mono wider, below.mono (grown'.trans wider)⟩
  obtain ⟨site, inner⟩ := program
  obtain ⟨scopeSite, inner⟩ := inner
  exact formed strict

end Lockstep

end ScriptEngine
