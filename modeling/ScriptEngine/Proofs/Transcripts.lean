import ScriptEngine.Proofs.LockstepCalls
import ScriptEngine.Proofs.Drains
import ScriptEngine.Proofs.CollectionSurvivors

set_option autoImplicit false

namespace ScriptEngine

/-- What a session is asked for: a context for a new script, or a run of a program in the context
of a script that was opened before. -/
inductive Command where
  | openScript (path source : String)
  | runProgram (script : Nat) (program : Program)

/-- A line of a transcript: the text of a value, an error, or an abort. -/
inductive Entry where
  | shown (text : Except Fault String)
  | failed (error : ScriptError)
  | aborted (abort : Abort)

/-- Whether the entry is a text, an error or the end of the fuel, with no fault behind it. -/
def Entry.isPlain : Entry → Bool
  | .shown (.ok _) | .failed _ | .aborted .outOfFuel => true
  | .shown (.error _) | .aborted (.fault _) | .aborted .panicked => false

/-- An engine with the contexts of the scripts that were opened, in their order. -/
structure Session (σ τ : Type) where
  engine : Engine σ τ
  opened : List ContextRef

namespace Session

variable {σ τ : Type}

def start (config : Config) (own : σ) : Session σ τ := ⟨.new config own, []⟩

def space (session : Session σ τ) : Space := session.engine.world.realm.space

/-- What becomes of a run: an entry for its value or its error, or an abort. -/
def record (opened : List ContextRef) :
    Except Abort (Except ScriptError Value) × Engine σ τ →
      Except Abort (Option Entry) × Session σ τ
  | (.ok (.ok value), engine) =>
    (.ok (some (.shown (engine.world.realm.space.display value))), ⟨engine, opened⟩)
  | (.ok (.error error), engine) => (.ok (some (.failed error)), ⟨engine, opened⟩)
  | (.error abort, engine) => (.error abort, ⟨engine, opened⟩)

/-- Carries out one command. A script that was not opened cannot run. -/
def respond (embedding : Embedding σ τ) (command : Command) (session : Session σ τ) :
    Except Abort (Option Entry) × Session σ τ :=
  match command with
  | .openScript path source =>
    match Engine.onRealm (Realm.createGlobal path source) session.engine with
    | (.ok context, engine) => (.ok none, ⟨engine, session.opened ++ [context]⟩)
    | (.error abort, engine) => (.error abort, ⟨engine, session.opened⟩)
  | .runProgram script program =>
    match session.opened[script]? with
    | none => (.ok none, session)
    | some context =>
      record session.opened (Engine.execute embedding context program session.engine)

/-- Carries out commands up to the first abort. -/
def transcript (embedding : Embedding σ τ) :
    List Command → Session σ τ → List Entry × Session σ τ
  | [], session => ([], session)
  | command :: rest, session =>
    match session.respond embedding command with
    | (.ok entry, session) =>
      match transcript embedding rest session with
      | (entries, session) => (entry.toList ++ entries, session)
    | (.error abort, session) => ([.aborted abort], session)

end Session

theorem Twins.rebase {start start' left right : Space} {pairing : Pairing}
    (twins : Twins (.between start start') pairing left right) :
    Twins (.between left right) pairing left right where
  tidyLeft := twins.tidyLeft
  tidyRight := twins.tidyRight
  payloads := twins.payloads
  functional := twins.functional
  injective := twins.injective
  rooted := twins.rooted
  pinsLeft := rfl
  pinsRight := rfl
  same := False.elim
  apart := twins.apart

namespace Engine

variable {σ τ : Type}

/-- What an engine call makes of the end of a program, if no tasks are left to run. A task queue
cannot even be found empty without fuel. -/
private def verdict (fuel : Nat) :
    Except Halt (Value × ContextRef) → Except Abort (Except ScriptError Value)
  | .ok answer => if fuel = 0 then .error .outOfFuel else .ok (.ok answer.1)
  | .error (.raised error) => if fuel = 0 then .error .outOfFuel else .ok (.error error)
  | .error (.fault fault) => .error (.fault fault)
  | .error .outOfFuel => .error .outOfFuel

/-- The engine after a run, when nobody holds it any more. -/
private def resumed (engine : Engine σ τ) (state : RunState σ τ) : Engine σ τ :=
  ⟨⟨{ engine.world.realm with space := state.space }, state.own, state.queue⟩,
    engine.taskErrors, false⟩

private theorem maybeCollect_eq (realm : Realm) (extra : List Handle) :
    realm.maybeCollect extra = ((realm.maybeCollect extra).1,
      { realm with space := (realm.maybeCollect extra).2.space }) := by
  unfold Realm.maybeCollect
  split <;> rfl

private theorem execute_of_free {embedding : Embedding σ τ} {engine : Engine σ τ}
    (free : engine.held = false) {context : ContextRef} {program : Program}
    {result : Except Halt (Value × ContextRef)} {last : RunState σ τ}
    (ran : Eval.executeModule
      (Eval.environment embedding.host engine.world.realm.classes embedding.fuel) context program
      ⟨(engine.world.realm.maybeCollect [context.handle]).2.space,
        .empty engine.world.realm.config.maxCallDepth, engine.world.own, engine.world.queue⟩ =
      (result, last))
    (quiet : (∃ fault, result = .error (.fault fault)) ∨ last.queue = []) :
    execute embedding context program engine =
      (verdict embedding.fuel result, engine.resumed last) := by
  have unfolded : ∀ body, body = (do
      let _ ← collectIfDue context
      onWorld (World.executeModule embedding.host embedding.fuel context program)) →
      execute embedding context program engine =
        ((withRealm embedding body engine).1.map fun result => (flatten result).map (·.1),
          (withRealm embedding body engine).2) := by
    intro body equal
    unfold execute executeModule
    rw [← equal]
    change Act.bind (Act.bind (withRealm embedding body) _) _ engine = _
    simp only [Act.bind]
    rcases withRealm embedding body engine with ⟨abort | result, last⟩ <;> rfl
  have collected : (collectIfDue context : EngineM σ τ (Option CollectStats))
      { engine with held := true } =
        (.ok (engine.world.realm.maybeCollect [context.handle]).1, { engine with
          held := true
          world.realm.space := (engine.world.realm.maybeCollect [context.handle]).2.space }) := by
    simp only [collectIfDue, onRealm, modifyGet, MonadStateOf.modifyGet]
    rw [maybeCollect_eq]
    rfl
  rw [unfolded _ rfl, withRealm_of_free free, Act.bind_apply, collected]
  simp only [onWorld, World.executeModule, World.runFresh, World.run, Realm.newStack, ran]
  rcases result with (error | fault | _) | answer
  · have empty : last.queue = [] := quiet.resolve_left fun broken => by cases broken.choose_spec
    dsimp only
    rw [drain_of_quiet embedding empty]
    cases embedding.fuel <;> rfl
  · rfl
  · rfl
  · have empty : last.queue = [] := quiet.resolve_left fun broken => by cases broken.choose_spec
    dsimp only
    rw [drain_of_quiet embedding empty]
    cases embedding.fuel <;> rfl

end Engine

namespace Space

/-- The pins stay as they are in a collection, and so does what they hold. -/
private theorem remainder_maybeCollect {realm : Realm} (tidy : realm.space.Tidy)
    (extra : List Handle) :
    Remainder realm.space (realm.maybeCollect extra).2.space ∧
      (realm.maybeCollect extra).2.space.pins = realm.space.pins ∧
      ∀ handle, realm.space.isPinned handle = true →
        (realm.maybeCollect extra).2.space.get? handle = realm.space.get? handle := by
  unfold Realm.maybeCollect
  split
  · have done := remainder_collect tidy (realm.classes.references ++ extra)
    refine ⟨done.1, ?_, fun handle pinned => done.2 handle (.pinned pinned)⟩
    dsimp only [Realm.collect, Space.collect]
    split <;> rfl
  · exact ⟨.of_get? tidy (fun _ => rfl) id, rfl, fun _ _ => rfl⟩

end Space

namespace Session

variable {σ τ : Type}

/-- Two sessions whose engines differ in their collections. The contexts of the scripts stand for
each other, and they are pinned on both sides. -/
structure Alike (pairing : Pairing) (left right : Session σ τ) : Prop where
  spaces : Twins (.between left.space right.space) pairing left.space right.space
  opened : List.Forall₂ (fun source target => ContextRef.Alike pairing source target ∧
    left.space.isPinned source.handle = true ∧ right.space.isPinned target.handle = true)
    left.opened right.opened
  classes : left.engine.world.realm.classes = right.engine.world.realm.classes
  depth : left.engine.world.realm.config.maxCallDepth =
    right.engine.world.realm.config.maxCallDepth
  separator : left.engine.world.realm.config.pathSeparator =
    right.engine.world.realm.config.pathSeparator
  own : left.engine.world.own = right.engine.world.own
  quietLeft : left.engine.world.queue = []
  quietRight : right.engine.world.queue = []
  freeLeft : left.engine.held = false
  freeRight : right.engine.held = false

/-- How two sessions carry out one command. A session without slots says nothing about the
other. -/
inductive Response :
    Except Abort (Option Entry) × Session σ τ → Except Abort (Option Entry) × Session σ τ →
    Prop where
  | silent {pairing : Pairing} {left right : Session σ τ} (alike : Alike pairing left right) :
      Response (.ok none, left) (.ok none, right)
  | shown {pairing : Pairing} {left right : Session σ τ} (text : String)
      (alike : Alike pairing left right) :
      Response (.ok (some (.shown (.ok text))), left) (.ok (some (.shown (.ok text))), right)
  | failed {pairing : Pairing} {left right : Session σ τ} (error : ScriptError)
      (alike : Alike pairing left right) :
      Response (.ok (some (.failed error)), left) (.ok (some (.failed error)), right)
  | outOfFuel (left right : Session σ τ) :
      Response (.error .outOfFuel, left) (.error .outOfFuel, right)
  | fullLeft {abort : Abort} {left : Session σ τ}
      {second : Except Abort (Option Entry) × Session σ τ}
      (full : Space.capacity ≤ left.space.slots.size) : Response (.error abort, left) second
  | fullRight {first : Except Abort (Option Entry) × Session σ τ} {abort : Abort}
      {right : Session σ τ} (full : Space.capacity ≤ right.space.slots.size) :
      Response first (.error abort, right)

variable {pairing : Pairing} {left right : Session σ τ}

private theorem Alike.resumed (alike : Alike pairing left right) {start start' : Space}
    (pins : start.pins = left.space.pins) (pins' : start'.pins = right.space.pins)
    {larger : Pairing} {state state' : RunState σ τ}
    (states : Abreast (.between start start') [] larger state state')
    (kept : ∀ {source target}, ContextRef.Alike pairing source target →
      left.space.isPinned source.handle = true → right.space.isPinned target.handle = true →
      ContextRef.Alike larger source target) :
    Alike larger ⟨left.engine.resumed state, left.opened⟩
      ⟨right.engine.resumed state', right.opened⟩ where
  spaces := states.spaces.rebase
  opened := by
    refine alike.opened.imp fun source target ⟨paired, pinned, pinned'⟩ => ?_
    refine ⟨kept paired pinned pinned', ?_, ?_⟩
    · have same : state.space.pins = left.space.pins := states.spaces.pinsLeft.trans pins
      change state.space.pins.contains source.handle = true
      rw [same]
      exact pinned
    · have same : state'.space.pins = right.space.pins := states.spaces.pinsRight.trans pins'
      change state'.space.pins.contains target.handle = true
      rw [same]
      exact pinned'
  classes := alike.classes
  depth := alike.depth
  separator := alike.separator
  own := states.own
  quietLeft := states.queueLeft
  quietRight := states.queueRight
  freeLeft := rfl
  freeRight := rfl

private theorem obliging_between (start start' : Space) (host : Host σ τ) :
    Obliging (.between start start') host :=
  ⟨False.elim, False.elim⟩

/-- A lack of slots is all that the terms leave room for. -/
private theorem full_of_tolerated {start start' space : Space} {fault : Fault}
    (tolerated : (Terms.between start start').Tolerates space fault) :
    Space.capacity ≤ space.slots.size := by
  rcases tolerated trivial with ⟨-, full⟩ | ⟨-, endless⟩
  · exact full
  · exact absurd trivial endless

/-- Two runs of one program, each after a collection of its own if one is due. -/
private theorem Alike.record_run (alike : Alike pairing left right) (embedding : Embedding σ τ)
    {source target : ContextRef} (paired : source.Alike pairing target)
    (pinned : left.space.isPinned source.handle = true)
    (pinned' : right.space.isPinned target.handle = true) {program : Program}
    (formed : program.wellFormed = true) :
    Response (record left.opened (Engine.execute embedding source program left.engine))
      (record right.opened (Engine.execute embedding target program right.engine)) := by
  obtain ⟨part, pins, stays⟩ :=
    Space.remainder_maybeCollect alike.spaces.tidyLeft [source.handle]
  obtain ⟨part', pins', stays'⟩ :=
    Space.remainder_maybeCollect alike.spaces.tidyRight [target.handle]
  have twins := alike.spaces.remainder part part'
  have kept : ∀ {first second}, ContextRef.Alike pairing first second →
      left.space.isPinned first.handle = true → right.space.isPinned second.handle = true →
      ContextRef.Alike (pairing.within
        (left.engine.world.realm.maybeCollect [source.handle]).2.space
        (right.engine.world.realm.maybeCollect [target.handle]).2.space) first second := by
    intro first second paired pinned pinned'
    refine ⟨paired, ?_, ?_⟩
    · rw [Space.contains, stays _ pinned]
      exact alike.spaces.live_left paired
    · rw [Space.contains, stays' _ pinned']
      exact alike.spaces.live_right paired
  have outcome := Lockstep.executeModule
    (Lockstep.faithful_environment (obliging_between _ _ embedding.host)
      left.engine.world.realm.classes embedding.fuel)
    (kept paired pinned pinned') program (fun _ => formed) _
    ⟨_, .empty left.engine.world.realm.config.maxCallDepth, left.engine.world.own,
      left.engine.world.queue⟩
    ⟨_, .empty right.engine.world.realm.config.maxCallDepth, right.engine.world.own,
      right.engine.world.queue⟩
    (le_refl _) ⟨twins, by rw [alike.depth], alike.own, alike.quietLeft, alike.quietRight⟩
  generalize ran : Eval.executeModule _ source program _ = ended at outcome
  generalize ran' : Eval.executeModule _ target program _ = ended' at outcome
  rw [alike.classes] at ran'
  cases outcome with
  | value grown states answers =>
    have after := alike.resumed pins pins' states fun paired pinned pinned' =>
      (kept paired pinned pinned').mono grown
    obtain ⟨text, shown, shown'⟩ := states.spaces.display answers.1
    rw [Engine.execute_of_free alike.freeLeft ran (Or.inr states.queueLeft),
      Engine.execute_of_free alike.freeRight ran' (Or.inr states.queueRight)]
    by_cases empty : embedding.fuel = 0
    · simp only [Engine.verdict, empty, if_true, record]
      exact .outOfFuel _ _
    · simp only [Engine.verdict, empty, if_false, record, Engine.resumed, shown, shown']
      exact .shown text after
  | early grown states ends =>
    have after := alike.resumed pins pins' states fun paired pinned pinned' =>
      (kept paired pinned pinned').mono grown
    rw [Engine.execute_of_free alike.freeLeft ran (Or.inr states.queueLeft),
      Engine.execute_of_free alike.freeRight ran' (Or.inr states.queueRight)]
    cases ends with
    | raised error =>
      by_cases empty : embedding.fuel = 0
      · simp only [Engine.verdict, empty, if_true, record]
        exact .outOfFuel _ _
      · simp only [Engine.verdict, empty, if_false, record]
        exact .failed error after
    | outOfFuel => exact .outOfFuel _ _
    | fault tolerated => exact .fullLeft (full_of_tolerated tolerated)
  | lostLeft lost =>
    obtain ⟨fault, rfl, -, -, full⟩ := lost
    rw [Engine.execute_of_free alike.freeLeft ran (Or.inl ⟨fault, rfl⟩)]
    exact .fullLeft full
  | lostRight lost =>
    obtain ⟨fault, rfl, -, -, full⟩ := lost
    rw [Engine.execute_of_free alike.freeRight ran' (Or.inl ⟨fault, rfl⟩)]
    exact .fullRight full

private theorem Alike.respond_run (alike : Alike pairing left right)
    (embedding : Embedding σ τ) (script : Nat) {program : Program}
    (formed : program.wellFormed = true) :
    Response (left.respond embedding (.runProgram script program))
      (right.respond embedding (.runProgram script program)) := by
  have lookup := getElem?_rel alike.opened script
  unfold respond
  dsimp only
  generalize left.opened[script]? = found at lookup
  generalize right.opened[script]? = found' at lookup
  cases lookup with
  | none => exact .silent alike
  | some both =>
    obtain ⟨paired, pinned, pinned'⟩ := both
    exact alike.record_run embedding paired pinned pinned' formed

private theorem isPinned_pin {space : Space} {handle other : Handle}
    (pinned : other = handle ∨ space.isPinned other = true) :
    (space.pin handle).isPinned other = true := by
  unfold Space.isPinned Space.pin Table.contains at *
  dsimp only
  rw [Table.get?_insert]
  split
  · rfl
  · next apart => exact pinned.resolve_left apart

private theorem respond_open {embedding : Embedding σ τ} {path source : String}
    {session : Session σ τ} {result : Except Fault ContextRef} {after : Space}
    (made : Space.allocateContext (.global
      (.ofPath path session.engine.world.realm.config.pathSeparator) (Space.sourceLines source))
      session.space = (result, after)) :
    session.respond embedding (.openScript path source) =
      match result with
      | .ok context => (.ok none, ⟨{ session.engine with
          world.realm.space := after.pin context.handle }, session.opened ++ [context]⟩)
      | .error fault => (.error (.fault fault), ⟨{ session.engine with
          world.realm.space := after }, session.opened⟩) := by
  unfold respond
  simp only [Engine.onRealm, Realm.createGlobal, Realm.onSpace, Space.newGlobal, Act.bind_apply]
  unfold Session.space at made
  rw [made]
  cases result <;> rfl

private theorem Alike.respond_open (alike : Alike pairing left right)
    (embedding : Embedding σ τ) (path source : String) :
    Response (left.respond embedding (.openScript path source))
      (right.respond embedding (.openScript path source)) := by
  have outcome := Lockstep.allocateContext (.global
    (.ofPath path left.engine.world.realm.config.pathSeparator) (Space.sourceLines source))
    pairing left.space right.space (le_refl _) alike.spaces
  generalize made : Space.allocateContext _ left.space = ended at outcome
  generalize made' : Space.allocateContext _ right.space = ended' at outcome
  rw [alike.separator] at made'
  cases outcome with
  | @value larger after after' context context' grown twins paired =>
    rw [Session.respond_open made, Session.respond_open made']
    have kept : ∀ {role first second}, larger role first second → larger.within
        (after.pin context.handle) (after'.pin context'.handle) role first second :=
      fun paired => ⟨paired, Twins.live_left twins paired, Twins.live_right twins paired⟩
    have pins : after.pins = left.space.pins := Twins.pinsLeft twins
    have pins' : after'.pins = right.space.pins := Twins.pinsRight twins
    have twins' := Twins.remainder twins (.pin twins.tidyLeft context.handle)
      (.pin twins.tidyRight context'.handle)
    refine .silent ⟨twins', List.rel_append ?_ (.cons ?_ .nil), alike.classes, alike.depth,
      alike.separator, alike.own, alike.quietLeft, alike.quietRight, alike.freeLeft,
      alike.freeRight⟩
    · refine alike.opened.imp fun first second ⟨together, pinned, pinned'⟩ => ?_
      unfold Space.isPinned at pinned pinned'
      rw [← pins] at pinned
      rw [← pins'] at pinned'
      exact ⟨kept (grown _ _ _ together), isPinned_pin (Or.inr pinned),
        isPinned_pin (Or.inr pinned')⟩
    · exact ⟨kept paired, isPinned_pin (Or.inl rfl), isPinned_pin (Or.inl rfl)⟩
  | early grown twins ends =>
    rw [Session.respond_open made]
    exact .fullLeft (full_of_tolerated ends.1)
  | lostLeft lost =>
    rw [Session.respond_open made]
    exact .fullLeft lost.2.2
  | lostRight lost =>
    rw [Session.respond_open made']
    exact .fullRight lost.2.2

theorem Alike.respond (alike : Alike pairing left right) (embedding : Embedding σ τ)
    {command : Command} (formed : ∀ script program, command = .runProgram script program →
      program.wellFormed = true) :
    Response (left.respond embedding command) (right.respond embedding command) := by
  cases command with
  | openScript path source => exact alike.respond_open embedding path source
  | runProgram script program =>
    exact alike.respond_run embedding script (formed script program rfl)

private theorem transcript_cons (embedding : Embedding σ τ) (command : Command)
    (rest : List Command) (session : Session σ τ) :
    transcript embedding (command :: rest) session =
      match session.respond embedding command with
      | (.ok entry, after) => (entry.toList ++ (transcript embedding rest after).1,
          (transcript embedding rest after).2)
      | (.error abort, after) => ([.aborted abort], after) :=
  rfl

/-- Sessions that are alike leave the same transcript, unless one of them runs out of slots. -/
theorem Alike.transcript (embedding : Embedding σ τ) (commands : List Command)
    (formed : ∀ script program, .runProgram script program ∈ commands →
      program.wellFormed = true) (alike : Alike pairing left right)
    (room : (transcript embedding commands left).2.space.slots.size < Space.capacity)
    (room' : (transcript embedding commands right).2.space.slots.size < Space.capacity) :
    (transcript embedding commands left).1 = (transcript embedding commands right).1 ∧
      ∀ entry ∈ (transcript embedding commands left).1, entry.isPlain = true := by
  induction commands generalizing pairing left right with
  | nil => exact ⟨rfl, fun _ listed => nomatch listed⟩
  | cons command rest ih =>
    have later : ∀ script program, .runProgram script program ∈ rest →
        program.wellFormed = true :=
      fun script program listed => formed script program (List.mem_cons_of_mem _ listed)
    have response := alike.respond embedding fun script program equal =>
      formed script program (equal ▸ List.mem_cons_self)
    rw [transcript_cons] at room room' ⊢
    rw [transcript_cons]
    generalize left.respond embedding command = first at response room ⊢
    generalize right.respond embedding command = second at response room' ⊢
    cases response with
    | silent alike => exact ih later alike room room'
    | shown text alike =>
      obtain ⟨same, plain⟩ := ih later alike room room'
      exact ⟨congrArg (Entry.shown (.ok text) :: ·) same, List.forall_mem_cons.mpr ⟨rfl, plain⟩⟩
    | failed error alike =>
      obtain ⟨same, plain⟩ := ih later alike room room'
      exact ⟨congrArg (Entry.failed error :: ·) same, List.forall_mem_cons.mpr ⟨rfl, plain⟩⟩
    | outOfFuel => exact ⟨rfl, List.forall_mem_singleton.mpr rfl⟩
    | fullLeft full => exact absurd room (Nat.not_lt.mpr full)
    | fullRight full => exact absurd room' (Nat.not_lt.mpr full)

private theorem alike_start (config : Config) (threshold threshold' : Nat) (own : σ) :
    Alike (fun _ _ _ => False) (start { config with gcThreshold := threshold } own : Session σ τ)
      (start { config with gcThreshold := threshold' } own) where
  spaces := by
    refine ⟨Space.tidy_empty, Space.tidy_empty, False.elim, False.elim, False.elim, ?_, rfl, rfl,
      False.elim, fun _ _ => ⟨rfl, rfl⟩⟩
    exact fun _ _ _ => False.elim
  opened := .nil
  classes := rfl
  depth := rfl
  separator := rfl
  own := rfl
  quietLeft := rfl
  quietRight := rfl
  freeLeft := rfl
  freeRight := rfl

/-- When an engine collects does not show. Whatever scripts are opened and whatever well-formed
programs run in them, with one threshold or another, the values have the same texts and the errors
are the same, as long as neither engine runs out of slots. -/
theorem transcript_eq_of_threshold (embedding : Embedding σ τ) (config : Config) (own : σ)
    (threshold threshold' : Nat) (commands : List Command)
    (formed : ∀ script program, .runProgram script program ∈ commands →
      program.wellFormed = true)
    (room : (transcript embedding commands
      (start { config with gcThreshold := threshold } own)).2.space.slots.size < Space.capacity)
    (room' : (transcript embedding commands
      (start { config with gcThreshold := threshold' } own)).2.space.slots.size <
        Space.capacity) :
    (transcript embedding commands (start { config with gcThreshold := threshold } own)).1 =
      (transcript embedding commands (start { config with gcThreshold := threshold' } own)).1 ∧
    ∀ entry ∈ (transcript embedding commands
      (start { config with gcThreshold := threshold } own)).1, entry.isPlain = true :=
  Alike.transcript embedding commands formed (alike_start config threshold threshold' own) room
    room'

private def unattended : Embedding Unit Empty where
  host := .storing
  perform task := nomatch task
  fuel := 3

/-- Binds a name to a new array and returns the array. -/
private def renewing : Program :=
  let seven : Expression := .node .empty .plain (some (.literal .empty (.int 7))) none
  .mk .empty (.mk .empty [
    .statement .empty (.node .empty .assign (some (.var .empty ⟨.empty, "items", .mutable⟩))
      (some (.array .empty [seven]))),
    .statement .empty (.node .empty .ret none (some (.var .empty ⟨.empty, "items", .none⟩)))])

/-- The second run makes garbage of what the first one left. -/
private def renewals : List Command :=
  [.openScript "main" "", .runProgram 0 renewing, .runProgram 0 renewing]

theorem transcript_renewals :
    (transcript unattended renewals (start { gcThreshold := 0 } ())).2.space.slots.size = 5 ∧
    (transcript unattended renewals (start { gcThreshold := 1 } ())).2.space.slots.size = 3 ∧
    (transcript unattended renewals (start { gcThreshold := 0 } ())).1 =
      (transcript unattended renewals (start { gcThreshold := 1 } ())).1 := by
  have size : (transcript unattended renewals
      (start { gcThreshold := 0 } ())).2.space.slots.size = 5 := by decide +kernel
  have size' : (transcript unattended renewals
      (start { gcThreshold := 1 } ())).2.space.slots.size = 3 := by decide +kernel
  have formed : ∀ script program, .runProgram script program ∈ renewals →
      program.wellFormed = true := by
    intro script program listed
    unfold renewals at listed
    simp only [List.mem_cons, reduceCtorEq, Command.runProgram.injEq, List.not_mem_nil, or_false,
      false_or, or_self] at listed
    rw [listed.2]
    rfl
  refine ⟨size, size', (transcript_eq_of_threshold unattended {} () 0 1 renewals formed ?_ ?_).1⟩
  · exact size.trans_lt (by decide)
  · exact size'.trans_lt (by decide)

end Session

end ScriptEngine
