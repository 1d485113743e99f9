import ScriptEngine.Proofs.InvariantExecutions
import ScriptEngine.Proofs.Shadowing
import ScriptEngine.Proofs.CollectionSurvivors
import ScriptEngine.Tree.Build

set_option autoImplicit false

namespace ScriptEngine

open Space (HasContext)

section

variable {σ τ : Type} (stray : ContextRef → Bool)

/-- The course, if the context that it needs is there. -/
def NativeCourse.beneath (base : Option ContextRef) (course : NativeCourse σ τ) :
    NativeCourse σ τ :=
  match base with
  | some base => .look fun view => orAbort (view.space.context base) fun _ => course
  | none => course

/-- The same course, except that it is cut off before it makes something below a context that is not
there. -/
def NativeCourse.guarded : NativeCourse σ τ → NativeCourse σ τ
  | .finish result => .finish result
  | .abort fault => .abort fault
  | .look next => .look fun view => (next view).guarded
  | .act action next =>
    beneath (action.base? stray) (.act action fun answer => (next answer).guarded)
  | .write object key value site next =>
    .write object key value site fun result => (next result).guarded
  | .change update next => .change update next.guarded
  | .queue task next => .queue task next.guarded
  | .call callee arguments next => .call callee arguments fun result => (next result).guarded
  | .trigger object event data next =>
    .trigger object event data fun result => (next result).guarded
  | .execute context program next =>
    beneath (some context) (.execute context program fun result => (next result).guarded)

/-- The manner of the evaluator, except that nothing is made below a context that is not there. The
context of a closure that may be a stray one is looked for before the closure is called. -/
def Manner.guarded (host : Host σ τ) : Manner σ τ :=
  { Manner.plain host with
    allow closure :=
      if stray closure.context then
        Run.askSpace fun space => (space.context closure.context).map fun _ => ()
      else pure ()
    body env kind call := Eval.follow env call.site ((host.course kind call).guarded stray) }

/-- The execution makes things below live contexts only: it is never cut off. -/
def Execution.Grounded {α : Type} (execution : Execution α) (host : Host σ τ)
    (classes : ClassRegistry) (fuel : Nat) (state : RunState σ τ) : Prop :=
  (∀ base, execution.base? = some base → state.space.HasContext base) ∧
    execution.runBy (.guarded stray host) host classes fuel state =
      execution.run host classes fuel state

end

section

variable {σ τ : Type} {stray : ContextRef → Bool}

namespace NativeCourse

private theorem guarded_orFail {α : Type} (result : Except ScriptError α)
    {next : α → NativeCourse σ τ} (rest : ∀ value, (next value).guarded stray = next value) :
    (orFail result next).guarded stray = orFail result next := by
  cases result with
  | error error => rfl
  | ok value => exact rest value

private theorem guarded_orAbort {α : Type} (result : Except Fault α)
    {next : α → NativeCourse σ τ} (rest : ∀ value, (next value).guarded stray = next value) :
    (orAbort result next).guarded stray = orAbort result next := by
  cases result with
  | error fault => rfl
  | ok value => exact rest value

private theorem guarded_subscribe (call : NativeCall) :
    (subscribe call : NativeCourse σ τ).guarded stray = subscribe call := by
  unfold subscribe
  split
  · refine guarded_orFail _ fun event => ?_
    split
    · exact guarded_orAbort _ fun object => rfl
    · rfl
  · rfl

private theorem guarded_unsubscribe (call : NativeCall) :
    (unsubscribe call : NativeCourse σ τ).guarded stray = unsubscribe call := by
  unfold unsubscribe
  split
  · exact guarded_orFail _ fun event => guarded_orAbort _ fun object => rfl
  · rfl

private theorem guarded_dispatch (call : NativeCall) :
    (dispatch call : NativeCourse σ τ).guarded stray = dispatch call := by
  unfold dispatch
  split
  · refine guarded_orFail _ fun event => guarded_orAbort _ fun object => ?_
    refine congrArg (NativeCourse.trigger object event _) (funext fun result => ?_)
    exact guarded_orFail result fun _ => rfl
  · rfl

end NativeCourse

/-- If all closures are written in live contexts and no function of the host makes anything below a
context, then nothing is cut off, whatever the scripts do. -/
theorem Execution.grounded {α : Type} {host : Host σ τ} (execution : Execution α)
    (written : ∀ context, stray context = false)
    (bodies : ∀ number call, (host.native number call).guarded stray = host.native number call)
    (classes : ClassRegistry) (fuel : Nat) {state : RunState σ τ}
    (live : ∀ base, execution.base? = some base → state.space.HasContext base) :
    execution.Grounded stray host classes fuel state := by
  have courses (kind : NativeBody) (call : NativeCall) :
      (host.course kind call).guarded stray = host.course kind call := by
    cases kind with
    | subscribe => exact NativeCourse.guarded_subscribe call
    | unsubscribe => exact NativeCourse.guarded_unsubscribe call
    | dispatch => exact NativeCourse.guarded_dispatch call
    | host number => exact bodies number call
  have same : Manner.guarded stray host = .plain host := by
    simp only [Manner.guarded, written, courses, Bool.false_eq_true, if_false]
    rfl
  exact ⟨live, by rw [same, Execution.runBy_plain]⟩

end

namespace Space

variable {stray : ContextRef → Bool} {before after : Space} {context : ContextRef}
  {chain : List ContextRef}

/-- Every live context has a chain that leads to a global one, and every closure is written in a
live context unless it may be a stray one. -/
structure Ancestral (stray : ContextRef → Bool) (space : Space) : Prop where
  tidy : space.Tidy
  chains : ∀ {context}, space.HasContext context → ∃ chain, space.Chain context chain
  scopes : ∀ {handle closure}, space.get? handle = some (.function closure) →
    stray closure.context = false → space.HasContext closure.context

theorem Chain.transfer (chained : before.Chain context chain)
    (kept : ∀ {member : ContextRef} {data : Context},
      before.get? member.handle = some (.context data) → ∃ data',
        after.get? member.handle = some (.context data') ∧ data'.parent? = data.parent?) :
    after.Chain context chain := by
  induction chained with
  | global held top =>
    obtain ⟨data', held', same⟩ := kept (context_eq_ok_iff.mp held)
    exact .global (context_eq_ok_iff.mpr held') (same.trans top)
  | child held above rest ih =>
    obtain ⟨data', held', same⟩ := kept (context_eq_ok_iff.mp held)
    exact .child (context_eq_ok_iff.mpr held') (same.trans above) ih

theorem Ancestral.recount (ancestral : before.Ancestral stray) (executions : Nat) :
    Ancestral stray { before with executions } where
  tidy := ancestral.tidy.congr rfl rfl rfl
  chains live := by
    obtain ⟨chain, chained⟩ := ancestral.chains live
    exact ⟨chain, chained.transfer fun held => ⟨_, held, rfl⟩⟩
  scopes := ancestral.scopes

theorem hasContext_iff_ok {space : Space} :
    space.HasContext context ↔ ∃ data, space.context context = .ok data := by
  simp only [HasContext, context_eq_ok_iff]

theorem Chain.live {space : Space} (chained : space.Chain context chain) :
    ∀ member ∈ chain, space.HasContext member := by
  induction chained with
  | global held top => simpa [hasContext_iff_ok] using ⟨_, held⟩
  | child held above rest ih =>
    exact List.forall_mem_cons.mpr ⟨hasContext_iff_ok.mpr ⟨_, held⟩, ih⟩

theorem Move.keeps_parent {bases : Bases} (move : Move bases before after) {member : ContextRef}
    {data : Context} (held : before.get? member.handle = some (.context data)) : ∃ data',
      after.get? member.handle = some (.context data') ∧ data'.parent? = data.parent? := by
  obtain ⟨now, held', revised⟩ := move.stays held
  cases revised with
  | same => exact ⟨data, held', rfl⟩
  | context above => exact ⟨_, held', above⟩

theorem Move.keeps_context {bases : Bases} (move : Move bases before after)
    (live : before.HasContext context) : after.HasContext context := by
  obtain ⟨data, held⟩ := live
  obtain ⟨data', held', -⟩ := move.keeps_parent held
  exact ⟨data', held'⟩

/-- A context that is new gets the chain of its parent, or is global itself. -/
theorem Move.ancestral (move : Move ⟨HasContext, stray⟩ before after)
    (ancestral : before.Ancestral stray) : after.Ancestral stray where
  tidy := move.tidy ancestral.tidy
  chains {context} live := by
    have transfer : ∀ {other : ContextRef}, before.HasContext other →
        ∃ chain, after.Chain other chain := by
      intro other present
      obtain ⟨chain, chained⟩ := ancestral.chains present
      exact ⟨chain, chained.transfer move.keeps_parent⟩
    obtain ⟨data, held⟩ := live
    rcases move.origin held with ⟨old, held', revised⟩ | ⟨-, based⟩
    · cases revised with
      | same | context => exact transfer ⟨_, held'⟩
    · have here := context_eq_ok_iff.mpr held
      cases above : data.parent? with
      | none => exact ⟨_, .global here above⟩
      | some parent =>
        obtain ⟨chain, chained⟩ := transfer (based parent above)
        exact ⟨_, .child here above chained⟩
  scopes {handle closure} held kept := by
    rcases move.origin held with ⟨old, held', revised⟩ | ⟨-, based⟩
    · cases revised with
      | same => exact move.keeps_context (ancestral.scopes held' kept)
      | named older =>
        have written : before.HasContext older.context := ancestral.scopes held' kept
        exact move.keeps_context written
    · exact move.keeps_context (based _ (by simp [Payload.base?, kept]))

theorem Listened.get?_iff {change : ListenerChange} (listened : Listened change before after)
    {handle : Handle} {payload : Payload} (other : ∀ data, payload ≠ .object data) :
    after.get? handle = some payload ↔ before.get? handle = some payload := by
  cases listened with
  | intro held placed _ =>
    by_cases here : handle = change.object
    · simp [here, held, placed.here, (other _).symm]
    · rw [placed.elsewhere _ here]

theorem Listened.hasContext_iff {change : ListenerChange}
    (listened : Listened change before after) :
    after.HasContext context ↔ before.HasContext context :=
  exists_congr fun _ => listened.get?_iff (by simp)

theorem Listened.ancestral {change : ListenerChange} (listened : Listened change before after)
    (ancestral : before.Ancestral stray) : after.Ancestral stray where
  tidy := listened.tidy
  chains live := by
    obtain ⟨chain, chained⟩ := ancestral.chains (listened.hasContext_iff.mp live)
    exact ⟨chain, chained.transfer fun held =>
      ⟨_, (listened.get?_iff (by simp)).mpr held, rfl⟩⟩
  scopes held kept :=
    listened.hasContext_iff.mpr
      (ancestral.scopes ((listened.get?_iff (by simp)).mp held) kept)

theorem Remainder.chained (remainder : Remainder before after)
    (chained : before.Chain context chain) (live : after.HasContext context) :
    after.Chain context chain := by
  induction chained with
  | @global context data held top =>
    obtain ⟨data', held'⟩ := live
    have same := context_eq_ok_iff.mpr (remainder.kept held')
    rw [held, Except.ok.injEq] at same
    subst same
    exact .global (context_eq_ok_iff.mpr held') top
  | @child context parent data chain held above rest ih =>
    obtain ⟨data', held'⟩ := live
    have found := remainder.kept held'
    have same := context_eq_ok_iff.mpr found
    rw [held, Except.ok.injEq] at same
    subst same
    obtain ⟨upper, kept⟩ := rest.held
    have stays := remainder.closed held' (.parent found above)
    refine .child (context_eq_ok_iff.mpr held') above (ih ⟨upper, ?_⟩)
    rw [stays, context_eq_ok_iff.mp kept]

/-- What a survivor refers to is there as it was. -/
theorem Remainder.ancestral (remainder : Remainder before after)
    (ancestral : before.Ancestral stray) : after.Ancestral stray where
  tidy := remainder.tidy
  chains {context} live := by
    obtain ⟨data, held⟩ := live
    obtain ⟨chain, chained⟩ := ancestral.chains ⟨data, remainder.kept held⟩
    exact ⟨chain, remainder.chained chained ⟨data, held⟩⟩
  scopes held kept := by
    have held' := remainder.kept held
    obtain ⟨data, live⟩ := ancestral.scopes held' kept
    exact ⟨data, (remainder.closed held (.captured held')).trans live⟩

end Space

section

variable {σ τ : Type} {stray : ContextRef → Bool}

/-- Every live context has a chain, and things may be made below the live ones. -/
def Law.ancestral (σ : Type) (stray : ContextRef → Bool) : Law σ where
  kept space _ := space.Ancestral stray
  bases := ⟨HasContext, stray⟩
  tidy kept := kept.tidy
  move kept move := move.ancestral kept
  grow move present := move.keeps_context present
  count kept executions := kept.recount executions
  recount present _ := present
  contexts held := ⟨_, held⟩

namespace Upholds

variable {env : Environment σ τ} {state : RunState σ τ}

private theorem ancestral_action {α : Type} (ready : (Law.ancestral σ stray).Ready [] state)
    (action : SpaceAction α) (based : ∀ base, action.base? stray = some base →
      state.space.HasContext base) :
    (Law.ancestral σ stray).Onward state { state with space := (action.run state.space).2 } := by
  have acted : Space.Acted ⟨HasContext, stray⟩ action state.space :=
    Space.acted_run ready.kept.tidy action based
  cases acted with
  | collect extra collects =>
    rw [collects]
    exact Law.onward_of_moved ready.kept (.single (Space.move_collect ready.busy extra))
  | move moved => exact Law.onward_of_moved ready.kept moved
  | listen change _ _ listened =>
    exact ⟨listened.ancestral ready.kept, fun present => listened.hasContext_iff.mpr present,
      Nat.le_of_eq listened.executions.symm⟩

/-- What goes on only if a context is there may rely on it. -/
private theorem beneath {base : Option ContextRef} {site : SourceInfo}
    {course : NativeCourse σ τ} (ready : (Law.ancestral σ stray).Ready [] state)
    (goes : (∀ context, base = some context → state.space.HasContext context) →
      (Law.ancestral σ stray).Onward state (Eval.follow env site course state).2) :
    (Law.ancestral σ stray).Onward state
      (Eval.follow env site (NativeCourse.beneath base course) state).2 := by
  cases base with
  | none => exact goes nofun
  | some context =>
    simp only [NativeCourse.beneath, Eval.follow]
    cases found : state.space.context context with
    | error fault => exact ready.onward
    | ok data =>
      refine goes fun base same => ?_
      cases same
      exact Space.hasContext_iff_ok.mpr ⟨data, found⟩

private theorem follow_guarded (lawful : env.Lawful (.ancestral σ stray)) (site : SourceInfo)
    (course : NativeCourse σ τ) :
    Upholds (.ancestral σ stray) [] (Eval.follow env site (course.guarded stray)) := by
  induction course with
  | finish result => exact orRaise result
  | abort fault => exact throw _
  | look next ih => exact fun state ready => ih _ state ready
  | act action next ih =>
    refine fun state ready => beneath ready fun based => ?_
    have begun := ancestral_action ready action based
    rw [Eval.follow, Act.bind_apply]
    simp only [Run.ofSpace]
    generalize action.run state.space = ended at begun
    rcases ended with ⟨fault | answer, after⟩
    · exact begun
    · exact begun.trans (ih answer _ (ready.after begun))
  | write object key value place next ih => exact follow_write lawful object key value place ih
  | change update next ih =>
    intro state ready
    have onward := ih { state with own := update state.own } ⟨ready.kept, ready.busy, ready.known⟩
    exact ⟨onward.kept, onward.grown, onward.executions⟩
  | queue task next ih =>
    intro state ready
    have onward := ih { state with queue := state.queue ++ [task] }
      ⟨ready.kept, ready.busy, ready.known⟩
    exact ⟨onward.kept, onward.grown, onward.executions⟩
  | call callee arguments next ih => exact follow_call lawful callee arguments ih
  | trigger object event data next ih => exact follow_trigger lawful object event data ih
  | execute context program next ih =>
    refine fun state ready => beneath ready fun based => ?_
    have follows : Upholds (.ancestral σ stray) [context] (Eval.follow env site
        (.execute context program fun result => (next result).guarded stray)) :=
      follow_execute lawful context program
        (fun _ ready => ready.known _ (List.mem_singleton.mpr rfl)) fun result => (ih result).weaken
    exact follows state (ready.learn (based context rfl))

end Upholds

private theorem consult_ancestral (host : Host σ τ) (number : Nat) (write : HostWrite) :
    Upholds (.ancestral σ stray) [] (Eval.consult host number write) :=
  fun _ ready => ⟨ready.kept, id, Nat.le_refl _⟩

theorem Manner.guarded_lawful (host : Host σ τ) :
    (Manner.guarded stray host).Lawful (.ancestral σ stray) host where
  hook := consult_ancestral host
  write := Upholds.writePlace (consult_ancestral host)
  finish := Upholds.finishing
  rescue := Upholds.rescuing
  frame := Upholds.framed
  allow {closure _ state} kept held := by
    simp only [Manner.guarded]
    by_cases apart : stray closure.context = true
    · rw [if_pos apart]
      refine ⟨⟨kept, id, Nat.le_refl _⟩, fun last admitted => ?_⟩
      simp only [Run.askSpace] at admitted
      cases found : state.space.context closure.context with
      | error fault =>
        rw [found] at admitted
        cases admitted
      | ok data =>
        rw [found] at admitted
        cases admitted
        exact Space.hasContext_iff_ok.mpr ⟨data, found⟩
    · rw [if_neg apart]
      refine ⟨⟨kept, id, Nat.le_refl _⟩, fun last admitted => ?_⟩
      cases admitted
      exact kept.scopes held (by simpa using apart)
  body lawful kind call := Upholds.follow_guarded lawful call.site (host.course kind call)

end

namespace Space

/-- Where operations have led to from the empty space, with things made below live contexts only.
Actions are among them that allocate, release and collect, whatever the roots. -/
inductive Arises (stray : ContextRef → Bool) : Space → Prop where
  | empty : Arises stray {}
  | act {space : Space} {α : Type} (past : Arises stray space) (action : SpaceAction α)
      (below : ∀ base, action.base? stray = some base → space.HasContext base) :
      Arises stray (action.run space).2
  | enter {space : Space} (past : Arises stray space) : Arises stray space.enterExecution
  | leave {space : Space} (past : Arises stray space) : Arises stray space.leaveExecution
  | execute {σ τ α : Type} {state : RunState σ τ} (past : Arises stray state.space)
      (host : Host σ τ) (classes : ClassRegistry) (fuel : Nat) (execution : Execution α)
      (below : execution.Grounded stray host classes fuel state) :
      Arises stray (execution.run host classes fuel state).2.space

section

variable {stray : ContextRef → Bool} {space : Space} {context : ContextRef}
  {chain : List ContextRef}

theorem Arises.ancestral (arises : space.Arises stray) : space.Ancestral stray := by
  induction arises with
  | empty =>
    refine ⟨tidy_empty, fun live => ?_, fun held => ?_⟩
    · obtain ⟨data, held⟩ := live
      cases held
    · cases held
  | enter _ ih | leave _ ih => exact ih.recount _
  | @act space _ _ action below ih =>
    have acted : Acted ⟨HasContext, stray⟩ action space := acted_run ih.tidy action below
    cases acted with
    | collect extra collects =>
      rw [collects]
      exact (remainder_collect ih.tidy extra).1.ancestral ih
    | listen change _ _ listened => exact listened.ancestral ih
    | move moved =>
      generalize (action.run space).2 = after at moved
      induction moved with
      | refl => exact ih
      | tail _ move ih => exact move.ancestral ih
  | execute _ host classes fuel execution below ih =>
    rw [← below.2]
    exact (Upholds.executionBy (Manner.guarded_lawful host) classes fuel execution ih below.1).kept

/-- Every ancestor has the rest of the chain for its own. -/
theorem Chain.of_mem (chained : space.Chain context chain) {member : ContextRef}
    (listed : member ∈ chain) :
    ∃ rest, space.Chain member rest ∧ rest.length ≤ chain.length := by
  induction chained with
  | global held top =>
    cases List.mem_singleton.mp listed
    exact ⟨_, .global held top, Nat.le_refl _⟩
  | child held above rest ih =>
    rcases List.mem_cons.mp listed with rfl | listed
    · exact ⟨_, .child held above rest, Nat.le_refl _⟩
    · obtain ⟨upper, chained, shorter⟩ := ih listed
      exact ⟨upper, chained, Nat.le_succ_of_le shorter⟩

/-- No context is its own ancestor. Else its depth would be two numbers at once. -/
theorem Chain.nodup (chained : space.Chain context chain) : chain.Nodup := by
  induction chained with
  | global => exact List.nodup_singleton _
  | @child context parent data chain held above rest ih =>
    refine List.nodup_cons.mpr ⟨fun listed => ?_, ih⟩
    obtain ⟨upper, again, shorter⟩ := rest.of_mem listed
    obtain ⟨depth, length, deep⟩ := (Chain.child held above rest).depth
    obtain ⟨depth', length', deep'⟩ := again.depth
    have same := deep.unique deep'
    simp only [List.length_cons] at length
    omega

/-- The chain ends in a global context, which knows the script. -/
theorem Chain.last (chained : space.Chain context chain) :
    ∃ global script lines bindings, chain.getLast? = some global ∧
      space.context global = .ok ⟨.global script lines, bindings⟩ := by
  induction chained with
  | @global context data held top =>
    obtain ⟨kind, bindings⟩ := data
    cases kind with
    | global script lines => exact ⟨context, script, lines, bindings, rfl, held⟩
    | child => cases top
  | child _ _ _ ih =>
    obtain ⟨global, script, lines, bindings, last, held⟩ := ih
    exact ⟨global, script, lines, bindings, by simp [List.getLast?_cons, last], held⟩

theorem Chain.globalWithin_eq (chained : space.Chain context chain) {bound : Nat}
    (enough : chain.length ≤ bound) {global : ContextRef} (last : chain.getLast? = some global) :
    space.globalWithin bound context = .ok global := by
  induction chained generalizing bound with
  | global held top =>
    obtain ⟨bound, rfl⟩ := Nat.exists_eq_add_one.mpr enough
    cases last
    simp [globalWithin, parent?, held, top, bind, Except.bind, pure, Except.pure]
  | @child context parent data chain held above rest ih =>
    obtain ⟨bound, rfl⟩ : ∃ less, bound = less + 1 :=
      Nat.exists_eq_add_one.mpr (Nat.lt_of_lt_of_le (by simp) enough)
    obtain ⟨_, _, _, _, last', -⟩ := rest.last
    have upper := ih (by simpa using enough) (by simpa [List.getLast?_cons, last'] using last)
    simpa [globalWithin, parent?, held, above, bind, Except.bind, pure, Except.pure] using upper

theorem updateLines_eq (tidy : space.Tidy) {global : ContextRef} {script : ScriptInfo}
    {lines : List String} {bindings : Table String Binding}
    (found : space.globalOf context = .ok global)
    (held : space.context global = .ok ⟨.global script lines, bindings⟩)
    (change : List String → List String) :
    ∃ after, updateLines context change space = (.ok (), after) ∧
      after.context global = .ok ⟨.global script (change lines), bindings⟩ := by
  obtain ⟨after, stored, -, placed⟩ := tidy.store
    (.context ⟨.global script (change lines), bindings⟩)
    (contains_of_get? (context_eq_ok_iff.mp held))
  refine ⟨after, ?_, context_eq_ok_iff.mpr placed.here⟩
  simp only [updateLines, updateContext, Act.bind_apply, Act.ask, found, held, stored]

/-- From every live context the parents lead over live contexts, none of them twice, to a global
one. So a search along them comes to an end: it finds the nearest context that binds a name, the
global context, and the script there, which can be read and changed. -/
theorem ancestors_end_in_global_context (arises : space.Arises stray)
    (live : space.HasContext context) :
    ∃ chain global script lines bindings,
      space.Chain context chain ∧ chain.Nodup ∧ (∀ member ∈ chain, space.HasContext member) ∧
      chain.getLast? = some global ∧
      space.context global = .ok ⟨.global script lines, bindings⟩ ∧
      (∀ name, space.owner? context name = .ok (chain.find? (space.binds name))) ∧
      space.globalOf context = .ok global ∧
      space.script context = .ok (script, lines) ∧
      ∀ change, ∃ after, updateLines context change space = (.ok (), after) ∧
        after.context global = .ok ⟨.global script (change lines), bindings⟩ := by
  have ancestral := arises.ancestral
  obtain ⟨chain, chained⟩ := ancestral.chains live
  obtain ⟨global, script, lines, bindings, last, held⟩ := chained.last
  have found : space.globalOf context = .ok global :=
    chained.globalWithin_eq (Nat.le_succ_of_le chained.length_le) last
  have knows : space.script context = .ok (script, lines) := by
    simp [Space.script, found, held, bind, Except.bind, pure, Except.pure]
  exact ⟨chain, global, script, lines, bindings, chained, chained.nodup, chained.live, last, held,
    chained.owner?_eq, found, knows, updateLines_eq ancestral.tidy found held⟩

end

/-- Makes a function and calls it. -/
private def greeting : Program :=
  .ofControls [.ofExpression (.declare "greet" .constant (.function [] (.ofControls []))),
    .ofExpression (.call (.var "greet") [])]

/-- A global context and one below it. -/
private def household : Space :=
  let opened := ((SpaceAction.newGlobal "main.js" "" '/').run {}).2
  ((SpaceAction.fork ⟨⟨0, 0⟩⟩ .empty).run opened).2

private def greeted : Except Halt (Value × ContextRef) × RunState Unit Empty :=
  (Execution.executeModule ⟨⟨1, 0⟩⟩ greeting).run .storing {} 5 ⟨household, .empty none, (), []⟩

private theorem greeted_parent :
    ∃ data, greeted.2.space.context ⟨⟨1, 0⟩⟩ = .ok data ∧ data.parent? = some ⟨⟨0, 0⟩⟩ := by
  have computed : ((greeted.2.space.context ⟨⟨1, 0⟩⟩).toOption.bind Context.parent?) =
      some ⟨⟨0, 0⟩⟩ := by
    decide +kernel
  generalize greeted.2.space.context ⟨⟨1, 0⟩⟩ = found at computed
  cases found with
  | error fault => cases computed
  | ok data => exact ⟨data, rfl, computed⟩

/-- What the program has left is collected, and the lower context is kept by the caller. -/
private def family : Space := ((SpaceAction.collect [⟨1, 0⟩]).run greeted.2.space).2

/-- The lower context leads to a global one, after the program and after the collection. -/
theorem family_has_chain :
    greeted.2.space.slots.size = 5 ∧ family.parent? ⟨⟨1, 0⟩⟩ = .ok (some ⟨⟨0, 0⟩⟩) ∧
    ∃ chain global, family.Chain ⟨⟨1, 0⟩⟩ chain ∧ chain.Nodup ∧
      chain.getLast? = some global ∧ family.globalOf ⟨⟨1, 0⟩⟩ = .ok global ∧
      ∀ name, family.owner? ⟨⟨1, 0⟩⟩ name = .ok (chain.find? (family.binds name)) := by
  have opened : Arises (fun _ => false) ((SpaceAction.newGlobal "main.js" "" '/').run {}).2 :=
    Arises.empty.act (.newGlobal "main.js" "" '/') fun _ => by simp [SpaceAction.base?]
  have settled : household.Arises fun _ => false := by
    refine opened.act (.fork ⟨⟨0, 0⟩⟩ .empty) fun base same => ?_
    cases same
    exact ⟨_, rfl⟩
  have begun : (⟨household, .empty none, (), []⟩ : RunState Unit Empty).space.Arises
      fun _ => false := settled
  have visited : greeted.2.space.Arises fun _ => false := by
    refine begun.execute .storing {} 5 (.executeModule ⟨⟨1, 0⟩⟩ greeting) ?_
    refine Execution.grounded _ (fun _ => rfl) (fun _ _ => rfl) _ _ fun base same => ?_
    cases same
    exact ⟨_, rfl⟩
  have arises : family.Arises fun _ => false :=
    visited.act (.collect [⟨1, 0⟩]) fun _ => by simp [SpaceAction.base?]
  have kept : family.get? ⟨1, 0⟩ = greeted.2.space.get? ⟨1, 0⟩ :=
    (remainder_collect visited.ancestral.tidy [⟨1, 0⟩]).2 _ (.given (List.mem_singleton.mpr rfl))
  obtain ⟨data, held, above⟩ := greeted_parent
  have held' : family.context ⟨⟨1, 0⟩⟩ = .ok data := (context_congr kept).trans held
  obtain ⟨chain, global, -, -, -, chained, distinct, -, last, -, owners, found, -⟩ :=
    ancestors_end_in_global_context arises (hasContext_iff_ok.mpr ⟨data, held'⟩)
  refine ⟨by decide +kernel, ?_, chain, global, chained, distinct, last, found, owners⟩
  simp [parent?, held', above, bind, Except.bind, pure, Except.pure]

end Space

end ScriptEngine
