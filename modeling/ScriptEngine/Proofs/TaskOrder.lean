import ScriptEngine.Proofs.Accounts

set_option autoImplicit false

namespace ScriptEngine

open History

variable {σ τ : Type}

section Runs

/-- Chores of the runs below: one brings another task and looks around, and one fails. -/
private inductive Chore where
  | relay
  | fail

private def plain : Host Unit Chore := .storing

private def leave (elsewhere : Bool) (chore : Chore) : CountedM Unit Chore Accumulated :=
  Engine.bring (Engine.counting plain (fun _ => pure (.ok ())) 8) elsewhere chore

private def perform : Chore → CountedM Unit Chore (Except ScriptError Unit)
  | .relay => do
    let _ ← leave false .fail
    let _ ← Engine.look
    return .ok ()
  | .fail => return .error Engine.busy

private theorem routine_perform : ∀ chore, Routine plain 8 (perform chore)
  | .relay => .bind (.bring _ _ _) fun _ => .bind .look fun _ => .pure _
  | .fail => .pure _

/-- Makes a context, has a task brought from another thread and gives up. -/
private def givingUp : CountedM Unit Chore Unit := do
  let _ ← Engine.onSpace (Space.allocateContext (.global ⟨"main", "main", ""⟩ []))
  let _ ← leave true .relay
  let _ ← Engine.look
  throw .panicked

private theorem routine_givingUp : Routine plain 8 givingUp :=
  .bind (.onRealm _) fun _ => .bind (.bring _ _ _) fun _ => .bind .look fun _ => .panic

/-- Every allocation makes a collection due. -/
private def eager : Config := { gcThreshold := 1 }

/-- A task has been left in the queue by a closure that gave up. -/
private def stranded : Counted Unit Chore :=
  (Call.withRealm givingUp routine_givingUp).made true (Engine.counting plain perform 8)
    (.new eager ⟨(), {}⟩)

/-- The engine with the stranded task after one more call. -/
private def after (call : Call plain 8) : Counted Unit Chore :=
  call.made true (Engine.counting plain perform 8) stranded

private def given : Call plain 8 := .accumulate false .fail

private def nothing : Call plain 8 := .execute ⟨⟨0, 0⟩⟩ default

private theorem reached_after (call : Call plain 8) :
    Reached plain perform 8 true eager () (after call) :=
  .call (.call .start (.withRealm givingUp routine_givingUp)) call

end Runs

/-- No task gets lost and none is run twice. Whoever looks, at whatever moment of a run, finds every
task executed once, being executed or in the queue once, unless its call is still busy with tasks
that came before it; and finds the errors of those that failed since the errors were asked for. A
call from outside that comes back leaves no task behind. Numbers and notes change nothing about what
is executed, and without remarks on collections the calls are those of the engine. -/
theorem tasks_neither_lost_nor_repeated (host : Host σ τ)
    (code : τ → CountedM σ τ (Except ScriptError Unit)) (fuel : Nat) (aloud : Bool)
    (config : Config) (own : σ) (fuelled : fuel ≠ 0)
    (routines : ∀ task, Routine host fuel (code task)) (engine : Counted σ τ)
    (reached : Reached host code fuel aloud config own engine) :
    let history := engine.world.own.record.history
    (∀ earlier queue, earlier ++ [Event.sawQueue queue] <+: history → Accounted earlier queue) ∧
    Accounted history (numbers engine.world.queue) ∧
    (∀ earlier errors, earlier ++ [Event.sawErrors errors] <+: history →
      errors = failures earlier) ∧
    engine.taskErrors = failures history ∧
    (∀ call : Call host fuel, ∀ last,
      call.run aloud (Engine.counting host code fuel) engine = (.ok (), last) →
      last.world.queue = []) ∧
    (∀ {α : Type} (classes : ClassRegistry) (execution : Execution α)
        (state : RunState (Recorded σ Books) (Ticket τ)),
      Prod.map id Clerk.ticketing.forget (execution.run host.ticketed classes fuel state) =
        execution.run host classes fuel (Clerk.ticketing.forget state)) ∧
    ∀ (embedding : Embedding (Recorded σ Books) (Ticket τ)) (call : Call host fuel),
      call.run false embedding = call.bare embedding := by
  have idle := reached.idle routines
  refine ⟨fun earlier queue seen => idle.kept.justified earlier _ seen fuelled,
    idle.kept.accounted fuelled, fun earlier errors => idle.kept.justified earlier _,
    idle.kept.failed, fun call last returned => ?_,
    fun classes => Execution.forget_ticketed host classes fuel, Call.run_false⟩
  have settled : Engine.Settled fuel [] (call.run aloud (Engine.counting host code fuel) engine) :=
    call.settled routines idle
  rw [returned] at settled
  exact settled.quiet rfl

theorem tasks_of_stranded :
    (8 ≠ 0 ∧ ∀ chore, Routine plain 8 (perform chore)) ∧
    Reached plain perform 8 true eager () (after given) ∧
    called (after given).world.own.record.history = [0, 1, 2] ∧
    Accounted (after given).world.own.record.history [] ∧
    failures (after given).world.own.record.history = [Engine.busy, Engine.busy] := by
  have main := tasks_neither_lost_nor_repeated plain perform 8 true eager () (by decide)
    routine_perform _ (reached_after given)
  exact ⟨⟨by decide, routine_perform⟩, reached_after _, rfl, main.2.1, main.2.2.2.1.symm⟩

/-- While the stranded task runs and looks around, the one whose call has found it there has neither
begun nor is it in the queue. -/
theorem task_in_hand_while_others_run :
    (∀ chore, Routine plain 8 (perform chore)) ∧
    Reached plain perform 8 true eager () (after given) ∧
    ∃ earlier, earlier ++ [Event.sawQueue [2]] <+: (after given).world.own.record.history ∧
      1 ∈ called earlier ∧ ¬ Standing earlier [2] 1 := by
  let earlier := stranded.world.own.record.history ++
    [Event.called 1 true, Event.begun 0, Event.called 2 false, Event.accumulated 2]
  have early : earlier ++ [Event.sawQueue [2]] <+: (after given).world.own.record.history := by
    refine ⟨(after given).world.own.record.history.drop (earlier.length + 1), ?_⟩
    rfl
  refine ⟨routine_perform, reached_after _, earlier, early, by decide, fun stands => ?_⟩
  have unbegun : 1 ∉ begun earlier := by decide
  cases stands with
  | executed began | executing began =>
    exact unbegun (List.count_pos_iff.mp (by rw [began]; exact Nat.one_pos))
  | waiting fresh still queued => exact absurd queued (by decide)

/-- Tasks begin in the order in which they were brought. A task begins before every task that was
brought after it, unless it was late and had not begun by then. If none is late, the tasks that have
begun and those that wait are exactly those that were brought, in order. Without remarks on
collections the calls are those of the engine. -/
theorem timely_tasks_begin_in_order (host : Host σ τ)
    (code : τ → CountedM σ τ (Except ScriptError Unit)) (fuel : Nat) (aloud : Bool)
    (config : Config) (own : σ) (fuelled : fuel ≠ 0)
    (routines : ∀ task, Routine host fuel (code task)) (engine : Counted σ τ)
    (reached : Reached host code fuel aloud config own engine) :
    let history := engine.world.own.record.history
    (called history).Nodup ∧ (begun history).Nodup ∧
    (∀ first second, [first, second].Sublist (called history) → second ∈ begun history →
      (first ∉ late history ∨ ∃ earlier tardy,
        earlier ++ [Event.called second tardy] <+: history ∧ first ∈ begun earlier) →
      [first, second].Sublist (begun history)) ∧
    (late history = [] → called history = begun history ++ numbers engine.world.queue) ∧
    ∀ (embedding : Embedding (Recorded σ Books) (Ticket τ)) (call : Call host fuel),
      call.run false embedding = call.bare embedding := by
  have kept := (reached.idle routines).kept
  refine ⟨?_, ?_, ?_, kept.called_eq fuelled, Call.run_false⟩
  · rw [kept.numbered]
    exact List.nodup_range
  · have distinct : (begun engine.world.own.record.history ++ numbers engine.world.queue).Nodup :=
      kept.distinct
    exact (List.nodup_append.mp distinct).1
  · rintro first second calls began (timely | ⟨earlier, tardy, early, ahead⟩)
    · exact kept.sublist_begun fuelled calls began timely
    · exact kept.sublist_begun_of_begun early ahead began

/-- The stranded task begins before the one that it brings itself. -/
theorem stranded_task_begins_first :
    (8 ≠ 0 ∧ ∀ chore, Routine plain 8 (perform chore)) ∧
    Reached plain perform 8 true eager () (after given) ∧
    late (after given).world.own.record.history = [1] ∧
    [0, 2].Sublist (begun (after given).world.own.record.history) := by
  have main := timely_tasks_begin_in_order plain perform 8 true eager () (by decide)
    routine_perform _ (reached_after given)
  refine ⟨⟨by decide, routine_perform⟩, reached_after _, rfl, main.2.2.1 0 2 ?_ ?_ (.inl ?_)⟩
  · decide
  · decide
  · decide

/-- A task that is brought to a free realm is overtaken by one that is brought after it. -/
theorem late_task_overtaken :
    (∀ chore, Routine plain 8 (perform chore)) ∧
    ∃ engine, Reached plain perform 8 true eager () engine ∧
      called engine.world.own.record.history = [0, 1, 2] ∧
      begun engine.world.own.record.history = [0, 2, 1] :=
  ⟨routine_perform, after given, reached_after _, rfl, rfl⟩

/-- A collection that the engine begins finds no task waiting, and all tasks that were brought have
come to their end. This holds of every collection that is forced, and of one before a program unless
the call before it was cut off. Without remarks the calls are those of the engine. -/
theorem collections_find_nothing_waiting (host : Host σ τ)
    (code : τ → CountedM σ τ (Except ScriptError Unit)) (fuel : Nat) (config : Config) (own : σ)
    (routines : ∀ task, Routine host fuel (code task)) (engine : Counted σ τ)
    (reached : Reached host code fuel true config own engine) :
    (∀ earlier forced queue,
      earlier ++ [Event.collecting forced queue] <+: engine.world.own.record.history →
      forced = true ∨ cutOff earlier = false →
        queue = [] ∧ ∀ number ∈ accumulated earlier, (ended earlier).count number = 1) ∧
    ∀ (embedding : Embedding (Recorded σ Books) (Ticket τ)) (context : ContextRef)
      (program : Program),
      (Call.execute context program : Call host fuel).run false embedding =
        (fun _ => ()) <$> Engine.execute embedding context program ∧
      (Call.executeModule context program : Call host fuel).run false embedding =
        (fun _ => ()) <$> Engine.executeModule embedding context program ∧
      (Call.collect : Call host fuel).run false embedding =
        (fun _ => ()) <$> Engine.collect embedding := by
  have kept := (reached.idle routines).kept
  exact ⟨fun earlier forced queue => kept.justified earlier _, fun embedding context program =>
    ⟨Call.run_false embedding _, Call.run_false embedding _, Call.run_false embedding _⟩⟩

/-- What the books say when a collection that is forced begins after a closure has given up. -/
private def drained : List Event :=
  stranded.world.own.record.history ++ [Event.begun 0, Event.called 1 false, Event.accumulated 1,
    Event.sawQueue [1], Event.sawErrors [], Event.ended 0 none, Event.begun 1,
    Event.ended 1 (some Engine.busy)]

theorem collection_after_stranded_task :
    (∀ chore, Routine plain 8 (perform chore)) ∧
    Reached plain perform 8 true eager () (after .collect) ∧
    drained ++ [Event.collecting true []] <+: (after .collect).world.own.record.history ∧
    accumulated drained = [0, 1] ∧ ∀ number ∈ [0, 1], (ended drained).count number = 1 := by
  have main := collections_find_nothing_waiting plain perform 8 eager () routine_perform _
    (reached_after .collect)
  have early : drained ++ [Event.collecting true []] <+:
      (after .collect).world.own.record.history := by
    refine ⟨[.returned false], ?_⟩
    rfl
  exact ⟨routine_perform, reached_after _, early, rfl, (main.1 drained true [] early (.inl rfl)).2⟩

/-- A collection before a program finds a task that a closure has left behind. -/
theorem collection_before_stranded_task :
    (∀ chore, Routine plain 8 (perform chore)) ∧
    ∃ engine earlier, Reached plain perform 8 true eager () engine ∧
      earlier ++ [Event.collecting false [0]] <+: engine.world.own.record.history ∧
      accumulated earlier = [0] ∧ begun earlier = [] := by
  have early : stranded.world.own.record.history ++ [Event.collecting false [0]] <+:
      (after nothing).world.own.record.history := by
    refine ⟨(after nothing).world.own.record.history.drop
      (stranded.world.own.record.history.length + 1), ?_⟩
    with_unfolding_all rfl
  exact ⟨routine_perform, _, _, reached_after nothing, early, rfl, rfl⟩

end ScriptEngine
