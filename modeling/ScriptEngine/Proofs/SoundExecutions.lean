import ScriptEngine.Proofs.Collection
import ScriptEngine.Proofs.SoundSpaces
import ScriptEngine.Realm

set_option autoImplicit false

namespace ScriptEngine

variable {σ τ α : Type}

/-- A write whose values are all live and of the right kind. -/
def Space.FitsWrite (space : Space) (write : HostWrite) : Prop :=
  space.Fits write.object ∧ space.Fits write.value ∧ ∀ value ∈ write.captures, space.Fits value

namespace Host

/-- Offered values that fit, the hooks store values that fit, and they do not give up. -/
def StoresLive (host : Host σ τ) : Prop :=
  ∀ number space write own, space.Sound → space.FitsWrite write →
    match (host.hook number space write own).1 with
    | .store value => space.Fits value
    | .absorb | .reject _ => True
    | .abort _ => False

/-- The hooks store what was written, one of their captures or a scalar. -/
def StoresGiven (host : Host σ τ) : Prop :=
  ∀ number space write own value, (host.hook number space write own).1 = .store value →
    value = write.value ∨ value ∈ write.captures ∨ value.handle? = none

private theorem fits_of_alike {space : Space} {write : HostWrite}
    (fits : write.Fits space.diagonal) : space.FitsWrite write :=
  ⟨Space.fits_iff.mpr fits.object, Space.fits_iff.mpr fits.value,
    Space.allFit_iff.mpr fits.captures⟩

theorem StoresLive.obliging {host : Host σ τ} (hooks : host.StoresLive) (strict rooted : Prop)
    (start : Space) : Obliging (.alone strict rooted start) host where
  stores _ pairing space twins number write own value fits answer := by
    obtain ⟨-, rfl⟩ := Space.pairing_eq_diagonal twins
    have sound := (Space.healthy_of_twins twins).sound
    have stored := hooks number space write own sound (fits_of_alike fits)
    rw [answer] at stored
    exact Space.fits_iff.mp stored
  stays _ _ pairing space twins number write own fault fits answer := by
    obtain ⟨-, rfl⟩ := Space.pairing_eq_diagonal twins
    have sound := (Space.healthy_of_twins twins).sound
    have stored := hooks number space write own sound (fits_of_alike fits)
    rw [answer] at stored
    exact stored

theorem StoresGiven.obliging {host : Host σ τ} (hooks : host.StoresGiven) (rooted : Prop)
    (start : Space) : Obliging (.alone False rooted start) host where
  stores _ pairing space twins number write own value fits answer := by
    rcases hooks number space write own value answer with rfl | captured | plain
    · exact fits.value
    · exact List.forall₂_same.mp fits.captures value captured
    · exact .scalar plain
  stays _ strict := absurd strict id

end Host

namespace Space

variable {strict rooted : Prop}

/-- A run in lockstep with itself keeps the space healthy, and ends in a fault only where the
terms leave room for it. -/
theorem Healthy.run {values : Pairing → α → α → Prop} (state : RunState σ τ)
    {run : Run σ τ Halt α} (healthy : state.space.Healthy strict rooted)
    (lockstep : Lockstep ((Terms.alone strict rooted state.space).calls σ state.queue)
      state.space.diagonal values run run) :
    Ended strict rooted state.space (run state).2.space ∧ (run state).2.queue = state.queue ∧
      (∀ answer, (run state).1 = .ok answer →
        values (run state).2.space.diagonal answer answer) ∧
      ∀ fault, (run state).1 = .error (.fault fault) →
        (Terms.alone strict rooted state.space).Tolerates (run state).2.space fault := by
  have outcome := lockstep _ _ _ (le_refl _) ⟨healthy.twins, rfl, rfl, rfl, rfl⟩
  generalize ends : run state = ended at outcome
  cases outcome with
  | value grown states alike =>
    obtain ⟨done, -, rfl⟩ := ended_of_twins states.spaces grown
    refine ⟨done, states.queueLeft, fun answer equal => ?_, fun _ => nofun⟩
    cases equal
    exact alike
  | early grown states alike =>
    refine ⟨(ended_of_twins states.spaces grown).1, states.queueLeft, fun _ => nofun, ?_⟩
    intro fault equal
    cases alike with
    | raised | outOfFuel => cases equal
    | fault tolerated =>
      cases equal
      exact tolerated
  | lostLeft lost =>
    obtain ⟨fault, -, differ, -⟩ := lost
    exact absurd trivial differ
  | lostRight lost =>
    obtain ⟨fault, -, differ, -⟩ := lost
    exact absurd trivial differ

end Space

namespace World

variable {strict rooted : Prop} {world : World σ τ}

theorem healthy_run {values : Pairing → α → α → Prop} (stack : CallStack)
    (body : ClassRegistry → Run σ τ Halt α)
    (healthy : world.realm.space.Healthy strict rooted)
    (lockstep : ∀ queue : List τ, Lockstep
      ((Terms.alone strict rooted world.realm.space).calls σ queue)
      world.realm.space.diagonal values (body world.realm.classes) (body world.realm.classes)) :
    Space.Ended strict rooted world.realm.space (run stack body world).2.realm.space ∧
      (∀ answer, (run stack body world).1 = .ok answer →
        values (run stack body world).2.realm.space.diagonal answer answer) ∧
      ∀ fault, (run stack body world).1 = .error (.fault fault) →
        (Terms.alone strict rooted world.realm.space).Tolerates
          (run stack body world).2.realm.space fault := by
  obtain ⟨⟨space, classes, config⟩, own, queue⟩ := world
  have done := Space.Healthy.run ⟨space, stack, own, queue⟩ healthy (lockstep queue)
  exact ⟨done.1, done.2.2⟩

theorem healthy_executeModule {host : Host σ τ}
    (obliging : Obliging (.alone strict rooted world.realm.space) host)
    (healthy : world.realm.space.Healthy strict rooted) {context : ContextRef}
    (live : world.realm.space.HasContext context) {program : Program}
    (formed : strict → program.wellFormed = true) (fuel : Nat) :
    Space.Ended strict rooted world.realm.space
        (executeModule host fuel context program world).2.realm.space ∧
      ∀ fault, (executeModule host fuel context program world).1 = .error (.fault fault) →
        (Terms.alone strict rooted world.realm.space).Tolerates
          (executeModule host fuel context program world).2.realm.space fault := by
  have done := healthy_run world.realm.newStack
    (fun classes => Eval.executeModule (Eval.environment host classes fuel) context program)
    healthy fun queue =>
      Lockstep.executeModule (Lockstep.faithful_environment obliging world.realm.classes fuel)
        (Space.hasContext_iff.mp live) program formed
  exact ⟨done.1, done.2.2⟩

theorem execute_eq (host : Host σ τ) (fuel : Nat) (context : ContextRef) (program : Program)
    (world : World σ τ) : execute host fuel context program world =
      ((executeModule host fuel context program world).1.map (·.1),
        (executeModule host fuel context program world).2) := by
  unfold execute
  rw [Act.bind_apply]
  generalize executeModule host fuel context program world = ended
  obtain ⟨result, after⟩ := ended
  cases result <;> rfl

/-- A well-formed program in a sound realm breaks no contract. It returns a value, raises an
error or does not come to an end; a search along a chain of contexts that never ends is such a
case, and shows as a fault here. -/
theorem execute_never_breaks_contract {host : Host σ τ} (hooks : host.StoresLive)
    (reachable : world.realm.space.Reachable) (sound : world.realm.space.Sound)
    (natives : ∀ handle callee, world.realm.space.get? handle = some (.native callee) →
      callee.body.IsEvent ∧ ∃ object, callee.captures = [.object object])
    (closures : ∀ handle closure, world.realm.space.get? handle = some (.function closure) →
      closure.body.wellFormed = true)
    {context : ContextRef} (live : world.realm.space.HasContext context) {program : Program}
    (formed : program.wellFormed = true) (fuel : Nat)
    (room : (execute host fuel context program world).2.realm.space.slots.size <
      Space.capacity) :
    (∃ value, (execute host fuel context program world).1 = .ok value) ∨
    (∃ error, (execute host fuel context program world).1 = .error (.raised error)) ∨
    (execute host fuel context program world).1 = .error .outOfFuel ∨
    ((execute host fuel context program world).1 = .error (.fault .brokenChain) ∧
      ∃ endless, world.realm.space.HasContext endless ∧ ¬ world.realm.space.Rooted endless) := by
  have healthy : world.realm.space.Healthy True world.realm.space.Grounded :=
    ⟨reachable.tidy, sound, fun held => (natives _ _ held).1,
      fun _ _ _ held => (natives _ _ held).2, fun _ _ _ held => closures _ _ held, id⟩
  have done := healthy_executeModule (hooks.obliging _ _ _) healthy live (fun _ => formed) fuel
  rw [execute_eq] at room ⊢
  cases result : (executeModule host fuel context program world).1 with
  | ok answer => exact Or.inl ⟨answer.1, rfl⟩
  | error halt =>
    cases halt with
    | raised error => exact Or.inr (Or.inl ⟨error, rfl⟩)
    | outOfFuel => exact Or.inr (Or.inr (Or.inl rfl))
    | fault fault =>
      rcases done.2 fault result trivial with ⟨-, full⟩ | ⟨rfl, endless⟩
      · exact absurd room (Nat.not_lt.mpr full)
      · refine Or.inr (Or.inr (Or.inr ⟨rfl, ?_⟩))
        have some := endless
        simp only [Terms.alone, Space.Grounded, not_forall] at some
        obtain ⟨context, present, unrooted⟩ := some
        exact ⟨context, present, unrooted⟩

/-- A realm with one global context. -/
private def opened : World Unit Empty :=
  ⟨{ space := ((SpaceAction.newGlobal "main" "" '/').run {}).2 }, (), []⟩

/-- Makes an array of 7, puts 9 behind it and returns its elements but the first one. -/
private def appending : Program :=
  let value (inner : Operand) : Expression := .node .empty .plain (some inner) none
  let number (n : Int64) : Operand := .literal .empty (.int n)
  let items (hint : Hint) : Operand := .var .empty ⟨.empty, "items", hint⟩
  .mk .empty (.mk .empty [
    .statement .empty (.node .empty .assign (some (items .mutable))
      (some (.array .empty [value (number 7)]))),
    .statement .empty (.node .empty .append (some (items .none)) (some (number 9))),
    .statement .empty (.node .empty .ret none
      (some (.nested .empty (.node .empty .index (some (items .none))
        (some (.range .empty (some (value (number 1))) none))))))])

private theorem context_of_opened {handle : Handle} {payload : Payload}
    (held : opened.realm.space.get? handle = some payload) :
    payload = .context ⟨.global ⟨"main", "main", ""⟩ [], ∅⟩ := by
  obtain ⟨index, generation⟩ := handle
  obtain ⟨slot, found, -, full⟩ := Space.get?_eq_some_iff.mp held
  cases index with
  | zero =>
    cases found
    exact (Option.some.inj full).symm
  | succ index => cases found

theorem execute_appending :
    opened.realm.space.Reachable ∧ opened.realm.space.Sound ∧ appending.wellFormed = true ∧
    ((∃ value, (execute .storing 3 ⟨⟨0, 0⟩⟩ appending opened).1 = .ok value) ∨
    (∃ error, (execute .storing 3 ⟨⟨0, 0⟩⟩ appending opened).1 = .error (.raised error)) ∨
    (execute .storing 3 ⟨⟨0, 0⟩⟩ appending opened).1 = .error .outOfFuel ∨
    ((execute .storing 3 ⟨⟨0, 0⟩⟩ appending opened).1 = .error (.fault .brokenChain) ∧
      ∃ endless, opened.realm.space.HasContext endless ∧
        ¬ opened.realm.space.Rooted endless)) := by
  have reachable : opened.realm.space.Reachable := Relation.ReflTransGen.refl.tail (.act _ _)
  have sound : opened.realm.space.Sound := by
    refine ⟨?_, fun found => nomatch found⟩
    intro handle payload held
    rw [context_of_opened held]
    exact ⟨fun parent above => (nomatch above), fun name binding found => (nomatch found)⟩
  have hooks : (Host.storing : Host Unit Empty).StoresLive := fun _ _ _ _ _ fits => fits.2.1
  have formed : appending.wellFormed = true := rfl
  refine ⟨reachable, sound, formed, ?_⟩
  apply execute_never_breaks_contract hooks reachable sound _ _ ⟨_, rfl⟩ formed 3 (by decide)
  · intro handle callee held
    cases context_of_opened held
  · intro handle closure held
    cases context_of_opened held

end World

end ScriptEngine
