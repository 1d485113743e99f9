import ScriptEngine.Proofs.Slots
import ScriptEngine.Space.Context

set_option autoImplicit false

namespace ScriptEngine

/-- What a payload is chained to. Only contexts have a parent. -/
def Payload.parent? : Payload → Option ContextRef
  | .context data => data.parent?
  | _ => none

namespace Space

/-- The context is so many steps away from the end of its chain. -/
inductive Depth (space : Space) : Nat → ContextRef → Prop where
  | last {context : ContextRef} {payload : Payload}
      (held : space.get? context.handle = some payload) (final : payload.parent? = none) :
      Depth space 0 context
  | child {depth : Nat} {context parent : ContextRef} {payload : Payload}
      (held : space.get? context.handle = some payload) (above : payload.parent? = some parent)
      (rest : Depth space depth parent) : Depth space (depth + 1) context

/-- The chain of the context ends. -/
def Rooted (space : Space) (context : ContextRef) : Prop := ∃ depth, Depth space depth context

theorem Depth.unique {space : Space} {depth other : Nat} {context : ContextRef}
    (first : Depth space depth context) (second : Depth space other context) :
    depth = other := by
  induction first generalizing other with
  | last held final =>
    cases second with
    | last => rfl
    | child held' above =>
      rw [held, Option.some.injEq] at held'
      subst held'
      rw [final] at above
      cases above
  | child held above rest ih =>
    cases second with
    | last held' final =>
      rw [held, Option.some.injEq] at held'
      subst held'
      rw [final] at above
      cases above
    | child held' above' rest' =>
      rw [held, Option.some.injEq] at held'
      subst held'
      rw [above, Option.some.injEq] at above'
      subst above'
      rw [ih rest']

private theorem Depth.handles {space : Space} {depth : Nat} {context : ContextRef}
    (chain : Depth space depth context) :
    ∃ handles : List Handle, handles.length = depth + 1 ∧ handles.Nodup ∧
      ∀ handle ∈ handles, space.contains handle = true ∧
        ∃ above ≤ depth, Depth space above ⟨handle⟩ := by
  induction chain with
  | @last context payload held final =>
    refine ⟨[context.handle], rfl, List.nodup_singleton _, ?_⟩
    intro handle member
    cases List.mem_singleton.mp member
    exact ⟨by simp [contains, held], 0, Nat.le_refl 0, .last held final⟩
  | @child depth context parent payload held above rest ih =>
    obtain ⟨handles, length, distinct, chain⟩ := ih
    have here : Depth space (depth + 1) context := .child held above rest
    refine ⟨context.handle :: handles, by simp [length], ?_, ?_⟩
    · refine List.nodup_cons.mpr ⟨fun member => ?_, distinct⟩
      obtain ⟨-, level, bound, again⟩ := chain _ member
      have equal := here.unique again
      omega
    · intro handle member
      rcases List.mem_cons.mp member with rfl | member
      · exact ⟨by simp [contains, held], depth + 1, Nat.le_refl _, here⟩
      · obtain ⟨live, level, bound, chained⟩ := chain handle member
        exact ⟨live, level, by omega, chained⟩

theorem Depth.lt_size {space : Space} {depth : Nat} {context : ContextRef}
    (chain : Depth space depth context) : depth < space.slots.size := by
  obtain ⟨handles, length, distinct, chained⟩ := chain.handles
  have bound := length_le_size distinct fun handle member => (chained handle member).1
  omega

/-- Chains do not notice changes that leave the parents in place. -/
theorem Depth.transfer {space other : Space} {depth : Nat} {context : ContextRef}
    (chain : Depth space depth context)
    (kept : ∀ handle payload, space.get? handle = some payload → ∃ payload',
      other.get? handle = some payload' ∧ payload'.parent? = payload.parent?) :
    Depth other depth context := by
  induction chain with
  | last held final =>
    obtain ⟨payload', held', same⟩ := kept _ _ held
    exact .last held' (same.trans final)
  | child held above rest ih =>
    obtain ⟨payload', held', same⟩ := kept _ _ held
    exact .child held' (same.trans above) ih

theorem Placed.depth {before after : Space} {handle : Handle} {payload : Payload}
    (placed : Placed before handle payload after)
    (kept : ∀ old, before.get? handle = some old → payload.parent? = old.parent?) {depth : Nat}
    {context : ContextRef} (chain : Depth before depth context) :
    Depth after depth context := by
  refine chain.transfer fun other old held => ?_
  by_cases here : other = handle
  · subst here
    exact ⟨payload, placed.here, kept old held⟩
  · exact ⟨old, (placed.elsewhere other here).trans held, rfl⟩

theorem ne_brokenChain_of_context {space : Space} {context : ContextRef} {fault : Fault}
    (failed : space.context context = .error fault) : fault ≠ .brokenChain := by
  unfold Space.context Space.get at failed
  cases found : space.get? context.handle with
  | none =>
    rw [found] at failed
    cases failed
    nofun
  | some payload =>
    rw [found] at failed
    cases payload <;> cases failed <;> nofun

/-- Every bound beyond the depth gives the same answer. -/
theorem Depth.ownerWithin_eq {space : Space} {depth : Nat} {context : ContextRef}
    (chain : Depth space depth context) (name : String) (bound bound' : Nat)
    (enough : depth < bound) (enough' : depth < bound') :
    space.ownerWithin name bound context = space.ownerWithin name bound' context := by
  induction chain generalizing bound bound' with
  | @last context payload held final =>
    obtain ⟨bound, rfl⟩ := Nat.exists_eq_add_one.mpr enough
    obtain ⟨bound', rfl⟩ := Nat.exists_eq_add_one.mpr enough'
    simp only [ownerWithin]
    cases found : space.context context with
    | error fault => rfl
    | ok data =>
      rw [context_eq_ok_iff, held, Option.some.injEq] at found
      subst found
      have global : data.parent? = none := final
      simp [bind, Except.bind, global]
  | @child depth context parent payload held above rest ih =>
    obtain ⟨bound, rfl⟩ : ∃ less, bound = less + 1 := ⟨bound - 1, by omega⟩
    obtain ⟨bound', rfl⟩ : ∃ less, bound' = less + 1 := ⟨bound' - 1, by omega⟩
    have same := ih bound bound' (by omega) (by omega)
    simp only [ownerWithin]
    cases found : space.context context with
    | error fault => rfl
    | ok data =>
      rw [context_eq_ok_iff, held, Option.some.injEq] at found
      subst found
      have nested : data.parent? = some parent := above
      simp [bind, Except.bind, nested, same]

/-- A chain that ends is never called broken. -/
theorem Depth.ownerWithin_ne {space : Space} {depth : Nat} {context : ContextRef}
    (chain : Depth space depth context) (name : String) (bound : Nat) (enough : depth < bound) :
    space.ownerWithin name bound context ≠ .error .brokenChain := by
  induction chain generalizing bound with
  | @last context payload held final =>
    obtain ⟨bound, rfl⟩ := Nat.exists_eq_add_one.mpr enough
    simp only [ownerWithin]
    cases found : space.context context with
    | error fault =>
      simpa [bind, Except.bind] using ne_brokenChain_of_context found
    | ok data =>
      rw [context_eq_ok_iff, held, Option.some.injEq] at found
      subst found
      have global : data.parent? = none := final
      simp only [bind, Except.bind, global]
      split <;> simp [pure, Except.pure]
  | @child depth context parent payload held above rest ih =>
    obtain ⟨bound, rfl⟩ : ∃ less, bound = less + 1 := ⟨bound - 1, by omega⟩
    have above' := ih bound (by omega)
    simp only [ownerWithin]
    cases found : space.context context with
    | error fault =>
      simpa [bind, Except.bind] using ne_brokenChain_of_context found
    | ok data =>
      rw [context_eq_ok_iff, held, Option.some.injEq] at found
      subst found
      have nested : data.parent? = some parent := above
      simp only [bind, Except.bind, nested]
      split
      · simp [pure, Except.pure]
      · exact above'

theorem owner_binds {space : Space} {name : String} {context owner : ContextRef}
    (found : space.owner? context name = .ok (some owner)) :
    ∃ data, space.context owner = .ok data ∧ data.bindings.contains name = true := by
  unfold owner? at found
  generalize space.chainBound = bound at found
  induction bound generalizing context with
  | zero => cases found
  | succ bound ih =>
    simp only [ownerWithin] at found
    cases read : space.context context with
    | error fault =>
      rw [read] at found
      cases found
    | ok data =>
      simp only [read, bind, Except.bind] at found
      split at found
      · rename_i here
        cases found
        exact ⟨data, read, here⟩
      · split at found
        · exact ih found
        · cases found

theorem owner?_self {space : Space} {name : String} {context : ContextRef} {data : Context}
    (held : space.context context = .ok data) (here : data.bindings.contains name = true) :
    space.owner? context name = .ok (some context) := by
  simp [owner?, chainBound, ownerWithin, held, here, bind, Except.bind, pure, Except.pure]

/-- A name means the same in the context that binds it. -/
theorem resolve_owner {space : Space} {name : String} {context owner : ContextRef}
    (found : space.owner? context name = .ok (some owner)) :
    space.resolve owner name = space.resolve context name := by
  obtain ⟨data, read, here⟩ := owner_binds found
  simp only [resolve, lookup?, found, owner?_self read here]

theorem resolve_unbound {space : Space} {name : String} {context : ContextRef}
    (missing : space.owner? context name = .ok none) :
    space.resolve context name = .ok (.error (.ofKind (.unresolvedVariable name))) := by
  simp [resolve, lookup?, missing, bind, Except.bind, pure, Except.pure]

theorem Tidy.fork {space : Space} (tidy : space.Tidy) (parent : ContextRef) (site : SourceInfo) :
    (∃ context after, Space.fork parent site space = (.ok context, after) ∧ after.Tidy ∧
      space.get? context.handle = none ∧
      Placed space context.handle (.context ⟨.child parent site, ∅⟩) after) ∨
    Space.fork parent site space = (.error .spaceExhausted, space) ∧
      capacity ≤ space.slots.size := by
  rcases tidy.allocateAs (.context ⟨.child parent site, ∅⟩) ContextRef.mk with
    ⟨handle, after, made⟩ | full
  · exact Or.inl ⟨⟨handle⟩, after, made⟩
  · exact Or.inr full

end Space

end ScriptEngine
