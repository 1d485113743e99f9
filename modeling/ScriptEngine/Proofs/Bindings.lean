import ScriptEngine.Proofs.Collection
import ScriptEngine.Proofs.PermittedTrees

set_option autoImplicit false

namespace ScriptEngine

/-- Whatever is executed and however it ends: every context that was there before is there
afterwards, in its place, with the same names, each as mutable as before, and with the same
constants. -/
theorem old_contexts_keep_names_and_constants {σ τ α : Type} (host : Host σ τ)
    (classes : ClassRegistry) (fuel : Nat) (execution : Execution α) (state : RunState σ τ)
    (reachable : state.space.Reachable)
    (natives : ∀ {handle callee}, state.space.get? handle = some (.native callee) →
      callee.body.IsEvent)
    {handle : Handle} {before : Context}
    (held : state.space.get? handle = some (.context before)) :
    ∃ after, (execution.run host classes fuel state).2.space.get? handle =
      some (.context after) ∧ before.Preserved after := by
  have fits : execution.Fits (.unbounded state.space False) := Execution.fits_unbounded nofun
  have upheld : (Charter.unbounded state.space False).Upheld
      (execution.run host classes fuel state).2.space :=
    (Charter.upheld_unbounded reachable.tidy natives nofun).execution
      (fun _ _ _ _ _ _ _ _ => trivial) classes fuel fits
  exact upheld.preserved held

/-- A global context with a constant and a variable. -/
private def settings : Space :=
  let opened := ((SpaceAction.newGlobal "main" "" '/').run {}).2
  let fixed := ((SpaceAction.define ⟨⟨0, 0⟩⟩ "limit" (.int 1) .immutable).run opened).2
  ((SpaceAction.define ⟨⟨0, 0⟩⟩ "count" (.int 1) .mutable).run fixed).2

/-- Writes to the variable, to a name that nothing binds and to the constant. -/
private def tampering : Program :=
  let write (name : String) (number : Int64) : Control :=
    .statement .empty (.node .empty .assign (some (.var .empty ⟨.empty, name, .none⟩))
      (some (.literal .empty (.int number))))
  .mk .empty (.mk .empty [write "count" 2, write "fresh" 3, write "limit" 4])

private def tampered : Except Halt (Value × ContextRef) × RunState Unit Empty :=
  (Execution.executeModule ⟨⟨0, 0⟩⟩ tampering).run .storing {} 3 ⟨settings, .empty none, (), []⟩

private theorem settings_held {handle : Handle} {payload : Payload}
    (held : settings.get? handle = some payload) : ∃ data, payload = .context data := by
  obtain ⟨index, generation⟩ := handle
  obtain ⟨slot, found, -, full⟩ := Space.get?_eq_some_iff.mp held
  cases index with
  | zero =>
    cases found
    exact ⟨_, (Option.some.inj full).symm⟩
  | succ index => cases found

/-- The write to the constant fails, after the variable has changed. The name that nothing bound is
not bound in the old context either. -/
theorem old_context_of_tampering :
    (∃ error, tampered.1 = .error (.raised error)) ∧
    tampered.2.space.local? ⟨⟨0, 0⟩⟩ "count" = .ok (some (.int 2)) ∧
    ∃ before after, settings.get? ⟨0, 0⟩ = some (.context before) ∧
      tampered.2.space.get? ⟨0, 0⟩ = some (.context after) ∧ before.Preserved after := by
  have reachable : settings.Reachable :=
    ((Relation.ReflTransGen.refl.tail (.act _ _)).tail (.act _ _)).tail (.act _ _)
  have natives : ∀ {handle callee}, settings.get? handle = some (.native callee) →
      callee.body.IsEvent := by
    intro handle callee held
    obtain ⟨data, same⟩ := settings_held held
    cases same
  obtain ⟨before, held⟩ : ∃ before, settings.get? ⟨0, 0⟩ = some (.context before) := ⟨_, rfl⟩
  obtain ⟨after, present, kept⟩ := old_contexts_keep_names_and_constants .storing {} 3
    (.executeModule ⟨⟨0, 0⟩⟩ tampering) ⟨settings, .empty none, (), []⟩ reachable natives held
  exact ⟨⟨_, rfl⟩, rfl, before, after, held, present, kept⟩

end ScriptEngine
