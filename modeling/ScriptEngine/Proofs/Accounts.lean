import ScriptEngine.Proofs.Bookkeeping

set_option autoImplicit false

namespace ScriptEngine

variable {σ τ : Type} {host : Host σ τ} {fuel : Nat} {base : List Event} {hand : List Nat}
  {current : Option Nat}

/-- Books in order, beside a queue and the errors of tasks. -/
def Books.Kept (fuel : Nat) (base : List Event) (hand : List Nat) (current : Option Nat)
    (errors : List ScriptError) (books : Books) (queue : List (Ticket τ)) : Prop :=
  Ledger fuel base hand current books.issued books.history (numbers queue) errors

namespace Books.Kept

variable {errors : List ScriptError} {books : Books} {queue : List (Ticket τ)}

theorem sawQueue (kept : books.Kept fuel base hand current errors queue) :
    (books.note (.sawQueue (numbers queue))).Kept fuel base hand current errors queue :=
  Ledger.record kept (fun fuelled => Ledger.accounted kept fuelled) rfl rfl rfl nofun

theorem bring (kept : books.Kept fuel base hand current errors queue) (task : τ) :
    ((books.issue false).note (.accumulated books.issued)).Kept fuel base hand current errors
      (queue ++ [⟨books.issued, task⟩]) := by
  have brought := Ledger.bring kept
  have now : Justified fuel (books.history ++ [Event.called books.issued false])
    (.accumulated books.issued) := trivial
  unfold Books.Kept
  rw [numbers_concat]
  refine brought.record now rfl rfl rfl fun number same => ?_
  obtain rfl : books.issued = number := Option.some.inj same
  exact List.mem_append_right _ (List.mem_append_right _ (List.mem_singleton.mpr rfl))

end Books.Kept

section Hosts

variable {errors : List ScriptError}

/-- Books stay in order under everything that a host does during an execution. -/
private def ordered (fuel : Nat) (base : List Event) (hand : List Nat) (current : Option Nat)
    (errors : List ScriptError) : (Clerk.ticketing : Clerk σ τ Books (Ticket τ)).Invariant where
  holds _ state := state.own.record.Kept fuel base hand current errors state.queue
  torn state := state.own.record.Kept fuel base hand current errors state.queue
  tear kept := kept
  own kept _ := kept
  edit kept _ _ := kept
  enter kept := kept
  leave kept := kept
  step kept course := by
    cases course with
    | look next => exact kept.sawQueue
    | queue task next => exact kept.bring task
    | finish | abort | act | write | change | call | trigger | execute => exact kept
  hook kept _ := kept
  write kept _ _ _ := kept
  finish kept _ := kept
  rescue kept _ := kept
  push kept _ _ _ := kept
  pop kept := kept
  finish_torn kept _ := kept
  pop_torn kept := kept

private theorem kept_of_execution {α : Type} (stack : CallStack) (execution : Execution α)
    (limit : Nat) {world : World (Recorded σ Books) (Ticket τ)}
    (kept : world.own.record.Kept fuel base hand current errors world.queue) :
    let last := (World.run stack (fun classes => execution.run host.ticketed classes limit) world).2
    last.own.record.Kept fuel base hand current errors last.queue := by
  simp only [Execution.run_ticketed]
  have begun : (ordered fuel base hand current errors).holds 0
      (⟨world.realm.space, stack, world.own, world.queue⟩ : RunState (Recorded σ Books) _) := kept
  have ended := Clerk.Invariant.execution _ host world.realm.classes limit execution begun
  exact ended.record.elim id And.right

private theorem kept_of_setProperty (object : Value) (key : String) (value : Value)
    (site : SourceInfo) {world : World (Recorded σ Books) (Ticket τ)}
    (kept : world.own.record.Kept fuel base hand current errors world.queue) :
    let last := (World.setProperty host.ticketed object key value site world).2
    last.own.record.Kept fuel base hand current errors last.queue := by
  let state : RunState (Recorded σ Books) (Ticket τ) :=
    ⟨world.realm.space, world.realm.newStack, world.own, world.queue⟩
  have manners := (ordered fuel base hand current errors).accords host
  have both := Accord.setProperty (manners.hook state.stack 0) object key value site
  have ended := Clerk.Invariant.Kept.of_accordant (both state _ ⟨rfl, rfl, kept⟩)
  exact ended.record.elim id And.right

end Hosts

namespace Engine

variable {α : Type} {engine : Counted σ τ}

def Kept (fuel : Nat) (base : List Event) (hand : List Nat) (current : Option Nat)
    (engine : Counted σ τ) : Prop :=
  engine.world.own.record.Kept fuel base hand current engine.taskErrors engine.world.queue

theorem Kept.look (kept : engine.Kept fuel base hand current) :
    (look engine).2.Kept fuel base hand current := by
  have seen := kept.sawQueue
  have now : Justified fuel
    (engine.noting (.sawQueue (numbers engine.world.queue))).world.own.record.history
    (.sawErrors engine.taskErrors) := seen.failed
  exact seen.record now rfl rfl rfl nofun

theorem Kept.takeErrors (kept : engine.Kept fuel base hand current) :
    (takeErrors engine).2.Kept fuel base hand current := by
  have now : Justified fuel engine.world.own.record.history (.sawErrors engine.taskErrors) :=
    kept.failed
  have seen := Ledger.record kept now rfl rfl rfl nofun
  have next : Justified fuel
    (engine.world.own.record.history ++ [Event.sawErrors engine.taskErrors]) .took := trivial
  exact seen.record next rfl rfl rfl nofun

/-- Somebody holds the realm, and the books are in order. -/
structure Busy (fuel : Nat) (base : List Event) (hand : List Nat) (current : Option Nat)
    (engine : Counted σ τ) : Prop where
  held : engine.held = true
  kept : engine.Kept fuel base hand current

namespace Busy

theorem bind {β : Type} {first : CountedM σ τ α} {next : α → CountedM σ τ β}
    (now : (first engine).2.Busy fuel base hand current)
    (rest : ∀ value middle, first engine = (.ok value, middle) →
      middle.Busy fuel base hand current → (next value middle).2.Busy fuel base hand current) :
    ((first >>= next) engine).2.Busy fuel base hand current := by
  rw [Act.bind_apply]
  rcases ended : first engine with ⟨abort | value, middle⟩
  · rwa [ended] at now
  · rw [ended] at now
    exact rest value middle ended now

variable (busy : engine.Busy fuel base hand current)
include busy

theorem onWorld {body : WorldM (Recorded σ Books) (Ticket τ) α}
    (kept : (body engine.world).2.own.record.Kept fuel base hand current engine.taskErrors
      (body engine.world).2.queue) :
    (onWorld body engine).2.Busy fuel base hand current := by
  have same : (Engine.onWorld body engine).2 = { engine with world := (body engine.world).2 } := by
    simp only [Engine.onWorld]
    rcases body engine.world with ⟨(error | fault | _) | value, world⟩ <;> rfl
  rw [same]
  exact ⟨busy.held, kept⟩

theorem bring (embedding : Embedding (Recorded σ Books) (Ticket τ)) (elsewhere : Bool) (task : τ) :
    (bring embedding elsewhere task engine).2.Busy fuel base hand current := by
  have held : (engine.issuing false).held = true := busy.held
  have queued : Engine.bring embedding elsewhere task engine =
      (.ok .queued, ((engine.issuing false).enqueue ⟨engine.world.own.record.issued, task⟩).noting
        (.accumulated engine.world.own.record.issued)) := by
    simp only [Engine.bring, busy.held, Bool.not_true, Bool.false_and,
      accumulateFrom_of_held elsewhere held]
  rw [queued]
  exact ⟨busy.held, busy.kept.bring task⟩

end Busy

end Engine

open Engine in
/-- Whatever closures and tasks do while the realm is held, it stays held, and the books stay in
order. -/
theorem Routine.busy {α : Type} {body : CountedM σ τ α} (routine : Routine host fuel body)
    {engine : Counted σ τ} (busy : engine.Busy fuel base hand current) :
    (body engine).2.Busy fuel base hand current := by
  induction routine generalizing engine with
  | pure value => exact busy
  | panic => exact busy
  | bind _ _ ihNow ihRest =>
    exact Busy.bind (ihNow busy) fun value middle _ after => ihRest value after
  | onRealm operation => exact ⟨busy.held, busy.kept⟩
  | execution stack execution =>
    exact busy.onWorld (kept_of_execution _ execution fuel busy.kept)
  | write object key value site =>
    exact busy.onWorld (kept_of_setProperty object key value site busy.kept)
  | change update => exact ⟨busy.held, busy.kept⟩
  | look => exact ⟨busy.held, busy.kept.look⟩
  | takeErrors => exact ⟨busy.held, busy.kept.takeErrors⟩
  | withRealm embedding body =>
    rw [withRealm_of_held busy.held]
    exact busy
  | bring embedding elsewhere task => exact busy.bring embedding elsewhere task

namespace Engine

variable {code : τ → CountedM σ τ (Except ScriptError Unit)} {α : Type} {engine : Counted σ τ}

section Tasks

variable (routines : ∀ task, Routine host fuel (code task))
include routines

/-- A task that begins comes to its end, and its error is kept. -/
private theorem busy_runTask {ticket : Ticket τ} (held : engine.held = true)
    (kept : (engine.noting (.begun ticket.number)).Kept fuel base hand (some ticket.number)) :
    (runTask (counting host code fuel) ticket engine).2.Busy fuel base hand none := by
  have begun : (engine.noting (.begun ticket.number)).Busy fuel base hand (some ticket.number) :=
    ⟨held, kept⟩
  have after := (routines ticket.task).busy begun
  simp only [runTask, counting, performing, Act.bind_apply]
  generalize code ticket.task (engine.noting (.begun ticket.number)) = final at after
  have unfailed := Ledger.finish after.kept none
  rw [Option.toList_none, List.append_nil] at unfailed
  obtain ⟨abort | error | _, last⟩ := final
  · exact ⟨after.held, unfailed⟩
  · exact ⟨after.held, Ledger.finish after.kept (some error)⟩
  · exact ⟨after.held, unfailed⟩

private theorem busy_drainWithin (bound : Nat) (busy : engine.Busy fuel base hand none) :
    (drainWithin (counting host code fuel) bound engine).2.Busy fuel base hand none := by
  induction bound generalizing engine with
  | zero => exact busy
  | succ bound ih =>
    unfold drainWithin
    split
    · exact busy
    · next ticket rest queue =>
      -- Nobody looks between the moment a task leaves the queue and the moment it begins.
      have kept := busy.kept
      unfold Kept Books.Kept at kept
      rw [queue] at kept
      have started : (runTask (counting host code fuel) ticket
          { engine with world.queue := rest }).2.Busy fuel base hand none :=
        busy_runTask routines busy.held kept.start
      split
      · next ran =>
        rw [ran] at started
        exact ih started
      · next ran =>
        rw [ran] at started
        exact started

theorem Busy.drain (busy : engine.Busy fuel base hand none) :
    (drain (counting host code fuel) engine).2.Busy fuel base hand none :=
  busy_drainWithin routines fuel busy

end Tasks

/-- An engine that nobody holds. If the last call has come back, nothing waits. -/
structure Idle (fuel : Nat) (engine : Counted σ τ) : Prop where
  free : engine.held = false
  kept : engine.Kept fuel [] [] none
  quiet : History.cutOff engine.world.own.record.history = false → engine.world.queue = []

structure Settled (fuel : Nat) (base : List Event) (ended : Except Abort α × Counted σ τ) :
    Prop where
  free : ended.2.held = false
  kept : ended.2.Kept fuel base [] none
  quiet : ended.1.isOk = true → ended.2.world.queue = []

theorem Settled.map {β : Type} {call : CountedM σ τ α} (settled : Settled fuel base (call engine))
    (change : α → β) : Settled fuel base ((change <$> call) engine) := by
  rw [Act.map_apply]
  refine ⟨settled.free, settled.kept, fun ok => settled.quiet ?_⟩
  generalize (call engine).1 = result at ok
  cases result with
  | ok value => rfl
  | error abort => exact ok

theorem Settled.idle {call : Except Abort α × Counted σ τ} (settled : Settled fuel [] call) :
    (call.2.noting (.returned !call.1.isOk)).Idle fuel where
  free := settled.free
  kept := by
    have now : Justified fuel call.2.world.own.record.history (.returned !call.1.isOk) := trivial
    exact Ledger.record settled.kept now rfl rfl rfl nofun
  quiet uncut := by
    change History.cutOff (_ ++ [Event.returned !call.1.isOk]) = false at uncut
    exact settled.quiet (by simpa using uncut)

/-- A collection may begin if nothing waits, or after a call that was cut off. -/
theorem Busy.remark (busy : engine.Busy fuel base hand none) (aloud forced : Bool)
    (collected : Realm → Option CollectStats)
    (quiet : forced = true ∨ History.cutOff engine.world.own.record.history = false →
      engine.world.queue = []) :
    (remark aloud forced collected engine).2.Busy fuel base hand none := by
  have now : Justified fuel engine.world.own.record.history
      (.collecting forced (numbers engine.world.queue)) := by
    intro timely
    have kept := busy.kept
    unfold Kept Books.Kept at kept
    rw [quiet timely] at kept ⊢
    exact ⟨rfl, kept.count_ended⟩
  unfold Engine.remark
  split
  · exact ⟨busy.held, Ledger.record busy.kept now rfl rfl rfl nofun⟩
  · exact busy

section Calls

variable (routines : ∀ task, Routine host fuel (code task))
include routines

private theorem settled_taking {body : CountedM σ τ α}
    (after : (body { engine with held := true }).2.Busy fuel base [] none) :
    Settled fuel base (taking (counting host code fuel) body engine) := by
  rw [taking_eq]
  generalize body { engine with held := true } = ended at after
  rcases ended with ⟨abort | value, middle⟩
  · exact ⟨rfl, after.kept, nofun⟩
  · have last := after.drain routines
    dsimp only
    rcases drained : drain (counting host code fuel) middle with ⟨abort | _, final⟩
    · rw [drained] at last
      exact ⟨rfl, last.kept, nofun⟩
    · rw [drained] at last
      have quiet : final.world.queue = [] := queue_of_drain drained
      exact ⟨rfl, last.kept, fun _ => quiet⟩

private theorem settled_withRealm (idle : engine.Idle fuel) {body : CountedM σ τ α}
    (after : (body { engine with held := true }).2.Busy fuel [] [] none) :
    Settled fuel [] (withRealm (counting host code fuel) body engine) := by
  rw [withRealm_eq_taking idle.free]
  exact (settled_taking routines after).map Except.ok

private theorem settled_executeModuleAfter (idle : engine.Idle fuel) (aloud : Bool)
    (context : ContextRef) (program : Program) :
    Settled fuel [] (executeModuleAfter (remarkDue aloud context) (counting host code fuel)
      context program engine) := by
  have busy : ({ engine with held := true } : Counted σ τ).Busy fuel [] [] none := ⟨rfl, idle.kept⟩
  have rest : Routine host fuel (do
      let _ ← collectIfDue context
      onWorld (World.executeModule host.ticketed fuel context program)) :=
    .bind (.onRealm _) fun _ => .execution Realm.newStack (.executeModule context program)
  refine (settled_withRealm routines idle ?_).map flatten
  refine Busy.bind (busy.remark aloud false _ ?_) fun _ _ _ after => rest.busy after
  exact fun uncut => idle.quiet (uncut.resolve_left nofun)

private theorem settled_collectAfter (idle : engine.Idle fuel) (aloud : Bool) :
    Settled fuel [] (collectAfter (remarkForced aloud) (counting host code fuel) engine) := by
  have busy : ({ engine with held := true } : Counted σ τ).Busy fuel [] [] none := ⟨rfl, idle.kept⟩
  refine settled_withRealm routines idle ?_
  refine Busy.bind (busy.drain routines) fun _ middle drained after => ?_
  refine Busy.bind (after.remark aloud true _ ?_) fun _ _ _ after => ⟨after.held, after.kept⟩
  exact fun _ => queue_of_drain drained

/-- The books are in order after a task was brought to a free realm, and the task has begun unless
the call was cut off. -/
private def Launched (fuel number : Nat) (ended : Except Abort α × Counted σ τ) : Prop :=
  ∃ since, ended.2.Busy fuel since [] none ∧
    (ended.1.isOk = true → number ∈ History.begun since)

private theorem launched_runTask {ticket : Ticket τ} (held : engine.held = true)
    (kept : (engine.noting (.begun ticket.number)).Kept fuel [] [] (some ticket.number)) :
    Launched fuel ticket.number ((do
      runTask (counting host code fuel) ticket
      return Accumulated.ran : CountedM σ τ Accumulated) engine) := by
  have ran := busy_runTask routines held (kept.rebase (List.prefix_refl _))
  refine ⟨_, Busy.bind ran fun _ _ _ last => last, fun _ => ?_⟩
  change ticket.number ∈
    History.begun (engine.world.own.record.history ++ [Event.begun ticket.number])
  simp

/-- A late task begins once those that wait have been run. -/
private theorem launched_late {number : Nat} (task : τ)
    (busy : engine.Busy fuel base [number] none)
    (tardy : fuel ≠ 0 → number ∈ History.late base) :
    Launched fuel number ((do
      drain (counting host code fuel)
      runTask (counting host code fuel) ⟨number, task⟩
      return Accumulated.ran : CountedM σ τ Accumulated) engine) := by
  have after := busy.drain routines
  rw [Act.bind_apply]
  rcases drained : drain (counting host code fuel) engine with ⟨abort | _, middle⟩
  · rw [drained] at after
    exact ⟨[], ⟨after.held, after.kept.drop.rebase List.nil_prefix⟩, nofun⟩
  · rw [drained] at after
    have fuelled : fuel ≠ 0 := by
      rintro rfl
      cases drained
    -- The drain has also run what was brought meanwhile, with higher numbers.
    have quiet : middle.world.queue = [] := queue_of_drain drained
    have begun : (middle.noting (.begun number)).Kept fuel [] [] (some number) := by
      have kept := after.kept
      unfold Kept Books.Kept at kept ⊢
      rw [show (middle.noting (.begun number)).world.queue = [] from quiet]
      rw [quiet] at kept
      have late := History.late_since kept.since (tardy fuelled)
      exact (kept.begin late).rebase List.nil_prefix
    exact launched_runTask routines after.held begun

private theorem launched_timely {number : Nat} (task : τ) (fuelled : fuel ≠ 0)
    (held : engine.held = true) (quiet : engine.world.queue = [])
    (kept : (engine.noting (.begun number)).Kept fuel [] [] (some number)) :
    Launched fuel number ((do
      drain (counting host code fuel)
      runTask (counting host code fuel) ⟨number, task⟩
      return Accumulated.ran : CountedM σ τ Accumulated) engine) := by
  have fuelled : (counting host code fuel).fuel ≠ 0 := fuelled
  rw [Act.bind_apply, drain_of_quiet _ quiet, if_neg fuelled]
  exact launched_runTask routines held kept

private theorem settled_bring (idle : engine.Idle fuel) (elsewhere : Bool) (task : τ) :
    Settled fuel [] (bring (counting host code fuel) elsewhere task engine) := by
  obtain ⟨tardy, late⟩ : ∃ tardy, (!engine.world.queue.isEmpty) = tardy := ⟨_, rfl⟩
  have free : (engine.issuing tardy).held = false := idle.free
  obtain ⟨base, busy, began⟩ : Launched fuel engine.world.own.record.issued ((do
      drain (counting host code fuel)
      runTask (counting host code fuel) ⟨engine.world.own.record.issued, task⟩
      return Accumulated.ran : CountedM σ τ Accumulated)
        { engine.issuing tardy with held := true }) := by
    -- The books would not be in order between the call and the beginning of a task that is not
    -- late, but nobody looks there either.
    by_cases timely : fuel ≠ 0 ∧ engine.world.queue = []
    · obtain ⟨fuelled, quiet⟩ := timely
      obtain rfl : tardy = false := by simp [← late, quiet]
      refine launched_timely routines task fuelled rfl quiet ?_
      have kept := idle.kept
      unfold Kept Books.Kept at kept
      change Ledger fuel [] [] _ _ _ (numbers engine.world.queue) _
      rw [quiet] at kept ⊢
      exact kept.bring.start
    · have slow : fuel ≠ 0 → tardy = true := fun fuelled => by
        have waits : engine.world.queue ≠ [] := fun quiet => timely ⟨fuelled, quiet⟩
        simp [← late, waits]
      have opened : ({ engine.issuing tardy with held := true } : Counted σ τ).Busy fuel
          (engine.issuing tardy).world.own.record.history [engine.world.own.record.issued] none :=
        ⟨rfl, (Ledger.issue idle.kept slow).rebase (List.prefix_refl _)⟩
      refine launched_late routines task opened fun fuelled => ?_
      simp [issuing, Books.issue, Books.note, slow fuelled]
  have settled := settled_taking routines busy
  have begun := fun ok => began (isOk_of_taking (counting host code fuel) ok)
  simp only [bring, idle.free, Bool.not_false, Bool.true_and, late,
    accumulateFrom_of_free elsewhere free]
  generalize taking (counting host code fuel) _ _ = taken at settled begun
  rcases taken with ⟨abort | answer, last⟩
  · exact ⟨settled.free, settled.kept.rebase List.nil_prefix, nofun⟩
  · have now : Justified fuel last.world.own.record.history
        (.accumulated engine.world.own.record.issued) :=
      trivial
    have kept :
        (last.noting (.accumulated engine.world.own.record.issued)).Kept fuel base [] none := by
      refine Ledger.record settled.kept now rfl rfl rfl fun number isNumber => ?_
      obtain rfl : engine.world.own.record.issued = number := Option.some.inj isNumber
      exact List.mem_append_left _ (History.begun_since settled.kept.since (begun rfl))
    exact ⟨settled.free, kept.rebase List.nil_prefix, settled.quiet⟩

end Calls

end Engine

section Runs

variable {code : τ → CountedM σ τ (Except ScriptError Unit)} {engine : Counted σ τ}
  {aloud : Bool} {config : Config} {own : σ}

open Engine in
/-- A call from outside leaves a free engine with its books in order, and if it comes back nothing
waits. -/
theorem Call.settled (routines : ∀ task, Routine host fuel (code task)) (call : Call host fuel)
    (idle : engine.Idle fuel) :
    Engine.Settled fuel [] (call.run aloud (counting host code fuel) engine) := by
  cases call with
  | withRealm body routine =>
    have busy : ({ engine with held := true } : Counted σ τ).Busy fuel [] [] none :=
      ⟨rfl, idle.kept⟩
    exact (settled_withRealm routines idle (routine.busy busy)).map _
  | execute context program =>
    refine Settled.map ?_ _
    exact (settled_executeModuleAfter routines idle aloud context program).map _
  | executeModule context program =>
    exact (settled_executeModuleAfter routines idle aloud context program).map _
  | collect => exact (settled_collectAfter routines idle aloud).map _
  | accumulate elsewhere task => exact (settled_bring routines idle elsewhere task).map _

/-- Between the calls of a run nobody holds the realm, and the books are in order. -/
theorem Reached.idle (routines : ∀ task, Routine host fuel (code task))
    (reached : Reached host code fuel aloud config own engine) : engine.Idle fuel := by
  induction reached with
  | start => exact ⟨rfl, .empty fuel, fun _ => rfl⟩
  | call _ call ih => exact (call.settled routines ih).idle
  | look _ ih =>
    refine ⟨ih.free, ih.kept.look, fun uncut => ih.quiet ?_⟩
    simpa [Engine.look, Engine.noting, Books.note, History.cutOff] using uncut
  | takeErrors _ ih =>
    refine ⟨ih.free, ih.kept.takeErrors, fun uncut => ih.quiet ?_⟩
    simpa [Engine.takeErrors, Engine.takeTaskErrors, Engine.noting, Books.note,
      History.cutOff] using uncut
  | change _ update ih => exact ⟨ih.free, ih.kept, ih.quiet⟩

end Runs

end ScriptEngine
