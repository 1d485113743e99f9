import ScriptEngine.Proofs.ContextChains

set_option autoImplicit false

namespace ScriptEngine

namespace Space

/-- The contexts from one up to the global context at the end of its chain, nearest first. -/
inductive Chain (space : Space) : ContextRef → List ContextRef → Prop where
  | global {context : ContextRef} {data : Context} (held : space.context context = .ok data)
      (top : data.parent? = none) : Chain space context [context]
  | child {context parent : ContextRef} {data : Context} {chain : List ContextRef}
      (held : space.context context = .ok data) (above : data.parent? = some parent)
      (rest : Chain space parent chain) : Chain space context (context :: chain)

/-- The context binds the name itself. -/
def binds (space : Space) (name : String) (context : ContextRef) : Bool :=
  match space.context context with
  | .ok data => data.bindings.contains name
  | .error _ => false

variable {space after : Space} {context writer reader : ContextRef} {chain line : List ContextRef}
  {name other : String} {value : Value} {mutability : Mutability}

theorem binds_eq {data : Context} (held : space.context context = .ok data) :
    space.binds name context = data.bindings.contains name := by
  simp only [binds, held]

theorem binding?_eq {data : Context} (held : space.context context = .ok data) :
    space.binding? context name = .ok (data.bindings.get? name) := by
  simp only [binding?, held]
  rfl

theorem binds_iff : space.binds name context = true ↔
    ∃ binding, space.binding? context name = .ok (some binding) := by
  cases held : space.context context with
  | error fault => simp [binds, binding?, held, bind, Except.bind]
  | ok data => simp [binds_eq held, binding?_eq held, Table.contains, Option.isSome_iff_exists]

theorem resolve_of_binding {binding : Binding}
    (bound : space.binding? context name = .ok (some binding)) :
    space.resolve context name = .ok (.ok binding.value) := by
  cases held : space.context context with
  | error fault =>
    simp only [binding?, held] at bound
    cases bound
  | ok data =>
    have listed := Except.ok.inj ((binding?_eq held).symm.trans bound)
    have here : data.bindings.contains name = true := by simp [Table.contains, listed]
    simp only [resolve, lookup?, owner?_self held here, local?, bound, bind, Except.bind]
    rfl

namespace Chain

theorem held (chained : space.Chain context chain) : ∃ data, space.context context = .ok data := by
  cases chained with
  | global held => exact ⟨_, held⟩
  | child held => exact ⟨_, held⟩

theorem depth (chained : space.Chain context chain) :
    ∃ depth, chain.length = depth + 1 ∧ Depth space depth context := by
  induction chained with
  | global held top => exact ⟨0, rfl, .last (context_eq_ok_iff.mp held) top⟩
  | child held above rest ih =>
    obtain ⟨depth, length, deep⟩ := ih
    exact ⟨depth + 1, by simp [length], .child (context_eq_ok_iff.mp held) above deep⟩

/-- No chain passes through a slot twice. -/
theorem length_le (chained : space.Chain context chain) : chain.length ≤ space.slots.size := by
  obtain ⟨depth, length, deep⟩ := chained.depth
  have := deep.lt_size
  omega

theorem ownerWithin_eq (chained : space.Chain context chain) (name : String) {bound : Nat}
    (enough : chain.length ≤ bound) :
    space.ownerWithin name bound context = .ok (chain.find? (space.binds name)) := by
  induction chained generalizing bound with
  | @global context data held top =>
    obtain ⟨bound, rfl⟩ := Nat.exists_eq_add_one.mpr enough
    simp only [ownerWithin, held, top, bind, Except.bind, pure, Except.pure, List.find?,
      binds_eq held]
    cases data.bindings.contains name <;> rfl
  | @child context parent data chain held above rest ih =>
    obtain ⟨bound, rfl⟩ : ∃ less, bound = less + 1 :=
      Nat.exists_eq_add_one.mpr (Nat.lt_of_lt_of_le (by simp) enough)
    simp only [ownerWithin, held, above, bind, Except.bind, pure, Except.pure, List.find?,
      binds_eq held, ih (by simpa using enough)]
    cases data.bindings.contains name <;> rfl

/-- The owner of a name is the nearest context that binds it. -/
theorem owner?_eq (chained : space.Chain context chain) (name : String) :
    space.owner? context name = .ok (chain.find? (space.binds name)) :=
  chained.ownerWithin_eq name (Nat.le_succ_of_le chained.length_le)

theorem lookup?_eq (chained : space.Chain context chain) (name : String) :
    space.lookup? context name =
      match chain.find? (space.binds name) with
      | some owner => space.local? owner name
      | none => .ok none := by
  simp only [lookup?, chained.owner?_eq, bind, Except.bind]
  cases chain.find? (space.binds name) <;> rfl

end Chain

/-- One name of one context is bound anew, and all else is bound as before. -/
structure Defined (before : Space) (context : ContextRef) (name : String) (value : Value)
    (mutability : Mutability) (after : Space) : Prop where
  chains : ∀ {start chain}, before.Chain start chain → after.Chain start chain
  here : after.binding? context name = .ok (some ⟨value, mutability⟩)
  elsewhere : ∀ {start other}, ¬ (start = context ∧ other = name) →
    after.binding? start other = before.binding? start other

theorem context_congr (same : after.get? context.handle = space.get? context.handle) :
    after.context context = space.context context := by
  simp only [Space.context, get, same]

theorem Placed.defined {data : Context} (held : space.context context = .ok data)
    (placed : Placed space context.handle
      (.context { data with bindings := data.bindings.insert name ⟨value, mutability⟩ }) after) :
    Defined space context name value mutability after := by
  have here := context_eq_ok_iff.mpr placed.here
  have elsewhere : ∀ {start : ContextRef}, start ≠ context →
      after.context start = space.context start := by
    intro start apart
    refine context_congr (placed.elsewhere _ fun same => apart ?_)
    cases start
    cases context
    exact congrArg ContextRef.mk same
  refine ⟨fun chained => ?_, by simp [binding?_eq here], fun {start other} apart => ?_⟩
  · -- The parents stay, so every step of a chain is a step of it afterwards.
    induction chained with
    | @global start data' held' top =>
      by_cases same : start = context
      · subst same
        obtain rfl : data' = data := Except.ok.inj (held'.symm.trans held)
        exact .global here top
      · exact .global ((elsewhere same).trans held') top
    | @child start parent data' chain held' above rest ih =>
      by_cases same : start = context
      · subst same
        obtain rfl : data' = data := Except.ok.inj (held'.symm.trans held)
        exact .child here above ih
      · exact .child ((elsewhere same).trans held') above ih
  · by_cases same : start = context
    · subst same
      rw [binding?_eq here, binding?_eq held]
      exact congrArg Except.ok (Table.get?_insert_of_ne _ _ fun equal => apart ⟨rfl, equal⟩)
    · simp only [binding?, elsewhere same]

theorem define_held {data : Context} (held : space.context context = .ok data) (name : String)
    (value : Value) (mutability : Mutability) :
    ∃ after, define context name value mutability space = (.ok (), after) ∧
      Defined space context name value mutability after := by
  obtain ⟨after, stored, placed⟩ := updateContext_held
    (fun data => { data with bindings := data.bindings.insert name ⟨value, mutability⟩ })
    (context_eq_ok_iff.mp held)
  exact ⟨after, stored, placed.defined held⟩

/-- A definition in `writer` is what the name means along the chain: nothing binds the name
before the chain comes to `writer`. -/
def Reaches (space : Space) (writer : ContextRef) (name : String) (line : List ContextRef) : Prop :=
  ∃ nearer rest, line = nearer ++ writer :: rest ∧
    ∀ between ∈ nearer, space.binds name between = false

theorem not_reaches_nil : ¬ space.Reaches writer name [] := by
  rintro ⟨nearer, rest, same, -⟩
  cases nearer <;> cases same

theorem reaches_cons {first : ContextRef} :
    space.Reaches writer name (first :: line) ↔
      first = writer ∨ space.binds name first = false ∧ space.Reaches writer name line := by
  constructor
  · rintro ⟨nearer, rest, same, unbound⟩
    cases nearer with
    | nil =>
      cases same
      exact Or.inl rfl
    | cons nearest nearer =>
      cases same
      obtain ⟨free, unbound⟩ := List.forall_mem_cons.mp unbound
      exact Or.inr ⟨free, nearer, rest, rfl, unbound⟩
  · rintro (rfl | ⟨free, nearer, rest, rfl, unbound⟩)
    · exact ⟨[], line, rfl, by simp⟩
    · exact ⟨first :: nearer, rest, rfl, List.forall_mem_cons.mpr ⟨free, unbound⟩⟩

namespace Defined

variable (defined : Defined space writer name value mutability after)
include defined

theorem local?_here : after.local? writer name = .ok (some value) := by
  simp only [local?, defined.here]
  rfl

theorem local?_elsewhere (apart : ¬ (context = writer ∧ other = name)) :
    after.local? context other = space.local? context other := by
  simp only [local?, defined.elsewhere apart]

theorem binds_iff : after.binds other context = true ↔
    space.binds other context = true ∨ context = writer ∧ other = name := by
  by_cases here : context = writer ∧ other = name
  · obtain ⟨rfl, rfl⟩ := here
    simp [Space.binds_iff, defined.here]
  · simp [Space.binds_iff, defined.elsewhere here, here]

theorem binds_of_ne (apart : other ≠ name) : after.binds other = space.binds other := by
  funext context
  exact Bool.eq_iff_iff.mpr (defined.binds_iff.trans (by simp [apart]))

theorem find?_of_reaches (reaches : space.Reaches writer name line) :
    line.find? (after.binds name) = some writer := by
  induction line with
  | nil => exact absurd reaches not_reaches_nil
  | cons first line ih =>
    rcases reaches_cons.mp reaches with rfl | ⟨free, reaches⟩
    · exact List.find?_cons_of_pos (defined.binds_iff.mpr (Or.inr ⟨rfl, rfl⟩))
    · by_cases here : first = writer
      · subst here
        exact List.find?_cons_of_pos (defined.binds_iff.mpr (Or.inr ⟨rfl, rfl⟩))
      · rw [List.find?_cons_of_neg (by simp [defined.binds_iff, free, here])]
        exact ih reaches

theorem find?_of_not_reaches (apart : ¬ space.Reaches writer name line) :
    line.find? (after.binds name) = line.find? (space.binds name) ∧
      line.find? (space.binds name) ≠ some writer := by
  induction line with
  | nil => simp
  | cons first line ih =>
    obtain ⟨other, shadowed⟩ := not_or.mp (mt reaches_cons.mpr apart)
    cases bound : space.binds name first with
    | true =>
      rw [List.find?_cons_of_pos (defined.binds_iff.mpr (Or.inl bound)),
        List.find?_cons_of_pos bound]
      exact ⟨rfl, fun same => other (Option.some.inj same)⟩
    | false =>
      rw [List.find?_cons_of_neg (by simp [defined.binds_iff, bound, other]),
        List.find?_cons_of_neg (by simp [bound])]
      exact ih fun reaches => shadowed ⟨bound, reaches⟩

/-- Where the nearest binding is not the new one, a name means what it meant before. -/
theorem lookup?_unchanged (chained : space.Chain reader line)
    (nearest : line.find? (after.binds other) = line.find? (space.binds other))
    (apart : other = name → line.find? (space.binds other) ≠ some writer) :
    after.lookup? reader other = space.lookup? reader other := by
  rw [(defined.chains chained).lookup?_eq, chained.lookup?_eq, nearest]
  cases found : line.find? (space.binds other) with
  | none => rfl
  | some owner =>
    refine defined.local?_elsewhere fun here => apart here.2 ?_
    rw [found, here.1]

/-- The readers whom the definition reaches get the new value, and no other look-up changes. -/
theorem lookup? (chained : space.Chain reader line) :
    (other = name ∧ space.Reaches writer name line →
      after.lookup? reader other = .ok (some value)) ∧
    (¬ (other = name ∧ space.Reaches writer name line) →
      after.lookup? reader other = space.lookup? reader other) := by
  constructor
  · rintro ⟨rfl, reaches⟩
    simp only [(defined.chains chained).lookup?_eq, defined.find?_of_reaches reaches,
      defined.local?_here]
  · intro apart
    by_cases same : other = name
    · subst same
      obtain ⟨nearest, distant⟩ :=
        defined.find?_of_not_reaches fun reaches => apart ⟨rfl, reaches⟩
      exact defined.lookup?_unchanged chained nearest fun _ => distant
    · exact defined.lookup?_unchanged chained (by rw [defined.binds_of_ne same])
        fun equal => absurd equal same

end Defined

/-- What becomes of an assignment along a chain: nothing binds the name, or the nearest binding is
a constant, or it is bound anew. -/
inductive Assigns (space : Space) (chain : List ContextRef) (name : String) (value : Value) :
    Assigned → Space → Prop where
  | undefined (free : chain.find? (space.binds name) = none) :
      Assigns space chain name value .undefined space
  | immutable {owner : ContextRef} {old : Value}
      (nearest : chain.find? (space.binds name) = some owner)
      (constant : space.binding? owner name = .ok (some ⟨old, .immutable⟩)) :
      Assigns space chain name value .immutable space
  | stored {owner : ContextRef} {old : Value} {after : Space}
      (nearest : chain.find? (space.binds name) = some owner)
      (held : space.binding? owner name = .ok (some ⟨old, .mutable⟩))
      (defined : Defined space owner name value .mutable after) :
      Assigns space chain name value .stored after

theorem Chain.assign (chained : space.Chain writer chain) (name : String) (value : Value) :
    ∃ answer after, Space.assign writer name value space = (.ok answer, after) ∧
      Assigns space chain name value answer after := by
  have owned := chained.owner?_eq name
  simp only [Space.assign, Act.bind_apply, Act.ask, owned]
  cases nearest : chain.find? (space.binds name) with
  | none => exact ⟨_, _, rfl, .undefined nearest⟩
  | some owner =>
    obtain ⟨⟨old, mutability⟩, bound⟩ := binds_iff.mp (List.find?_some nearest)
    simp only [Act.bind_apply, Act.ask, bound]
    cases mutability with
    | immutable => exact ⟨_, _, rfl, .immutable nearest bound⟩
    | mutable =>
      obtain ⟨data, held, -⟩ := owner_binds (owned.trans (congrArg Except.ok nearest))
      obtain ⟨after, stored, defined⟩ := define_held held name value .mutable
      refine ⟨.stored, after, ?_, .stored nearest bound defined⟩
      simp only [Act.bind_apply, stored]
      rfl

theorem Defined.binds_of_bound (defined : Defined space writer name value mutability after)
    (bound : space.binds name writer = true) (other : String) :
    after.binds other = space.binds other := by
  funext context
  refine Bool.eq_iff_iff.mpr (defined.binds_iff.trans (or_iff_left_of_imp ?_))
  rintro ⟨rfl, rfl⟩
  exact bound

/-- The readers with the same nearest binding get the assigned value, and no other look-up
changes. -/
theorem Defined.lookup?_of_bound (defined : Defined space writer name value mutability after)
    (bound : space.binds name writer = true) (chained : space.Chain reader line) :
    (other = name ∧ line.find? (space.binds other) = some writer →
      after.lookup? reader other = .ok (some value)) ∧
    (¬ (other = name ∧ line.find? (space.binds other) = some writer) →
      after.lookup? reader other = space.lookup? reader other) := by
  have same := defined.binds_of_bound bound other
  constructor
  · rintro ⟨rfl, nearest⟩
    simp only [(defined.chains chained).lookup?_eq, same, nearest, defined.local?_here]
  · intro apart
    exact defined.lookup?_unchanged chained (by rw [same]) fun equal nearest =>
      apart ⟨equal, nearest⟩

namespace Assigns

variable {answer : Assigned}

theorem unchanged (assigns : Assigns space chain name value answer after)
    (refused : answer ≠ .stored) : after = space := by
  cases assigns with
  | undefined | immutable => rfl
  | stored => exact absurd rfl refused

theorem immutable_iff (assigns : Assigns space chain name value answer after) :
    answer = .immutable ↔ ∃ owner old, chain.find? (space.binds name) = some owner ∧
      space.binding? owner name = .ok (some ⟨old, .immutable⟩) := by
  cases assigns with
  | undefined free => simp [free]
  | immutable nearest constant => simp [nearest, constant]
  | stored nearest held => simp [nearest, held]

theorem undefined_iff (assigns : Assigns space chain name value answer after) :
    answer = .undefined ↔ ∀ context ∈ chain, space.binds name context = false := by
  have none_iff : (∀ context ∈ chain, space.binds name context = false) ↔
      chain.find? (space.binds name) = none := by
    simp
  rw [none_iff]
  cases assigns with
  | undefined free => simp [free]
  | immutable nearest => simp [nearest]
  | stored nearest => simp [nearest]

theorem seen (assigns : Assigns space chain name value .stored after)
    (chained : space.Chain writer chain) (chained' : space.Chain reader line) :
    after.owner? reader other = space.owner? reader other ∧
      (other = name ∧ space.owner? reader other = space.owner? writer name →
        after.lookup? reader other = .ok (some value)) ∧
      (¬ (other = name ∧ space.owner? reader other = space.owner? writer name) →
        after.lookup? reader other = space.lookup? reader other) := by
  cases assigns with
  | stored nearest held defined =>
    have bound := List.find?_some nearest
    constructor
    · rw [(defined.chains chained').owner?_eq, chained'.owner?_eq, defined.binds_of_bound bound]
    · rw [chained'.owner?_eq, chained.owner?_eq, nearest, Except.ok.injEq]
      exact defined.lookup?_of_bound bound chained'

end Assigns

/-- Whatever is assigned or defined in `writer`, and whatever is looked up from `reader`, where
both chains end in a global context. An assignment that is stored changes no owners; the value is
seen where the same name has the same owner, and all other look-ups stay. An assignment that fails
changes nothing; it fails as immutable iff the nearest binding is a constant, and as undefined iff
there is no binding. A definition cannot fail; its value is seen where nothing between reader and
writer binds the name, and all other look-ups stay. -/
theorem writes_reach_their_readers (chained : space.Chain writer chain)
    (chained' : space.Chain reader line) (name other : String) (value : Value)
    (mutability : Mutability) :
    (∃ answer after, assign writer name value space = (.ok answer, after) ∧
      (answer = .stored → after.owner? reader other = space.owner? reader other ∧
        (other = name ∧ space.owner? reader other = space.owner? writer name →
          after.lookup? reader other = .ok (some value)) ∧
        (¬ (other = name ∧ space.owner? reader other = space.owner? writer name) →
          after.lookup? reader other = space.lookup? reader other)) ∧
      (answer ≠ .stored → after = space) ∧
      (answer = .immutable ↔ ∃ owner old, chain.find? (space.binds name) = some owner ∧
        space.binding? owner name = .ok (some ⟨old, .immutable⟩)) ∧
      (answer = .undefined ↔ ∀ context ∈ chain, space.binds name context = false)) ∧
    ∃ after, define writer name value mutability space = (.ok (), after) ∧
      (other = name ∧ space.Reaches writer name line →
        after.lookup? reader other = .ok (some value)) ∧
      (¬ (other = name ∧ space.Reaches writer name line) →
        after.lookup? reader other = space.lookup? reader other) := by
  constructor
  · obtain ⟨answer, after, assigned, assigns⟩ := chained.assign name value
    refine ⟨answer, after, assigned, ?_, assigns.unchanged, assigns.immutable_iff,
      assigns.undefined_iff⟩
    rintro rfl
    exact assigns.seen chained chained'
  · obtain ⟨data, held⟩ := chained.held
    obtain ⟨after, ended, defined⟩ := define_held held name value mutability
    exact ⟨after, ended, defined.lookup? chained'⟩

/-- A global context with a count, a context below it with a count of its own and a context below
that one, and a second context below the global one. -/
private def scopes : Space :=
  ((do
    let global ← newGlobal "main.js" "" '/'
    define global "count" (.int 1) .mutable
    let outer ← fork global .empty
    define outer "count" (.int 2) .mutable
    let _ ← fork outer .empty
    let _ ← fork global .empty : SpaceM Unit) {}).2

/-- The innermost context assigns to the count of the context around it, which hides the count that
the other branch has in sight. -/
theorem write_in_scopes :
    ∃ after, assign ⟨⟨2, 0⟩⟩ "count" (.int 5) scopes = (.ok .stored, after) ∧
      after.lookup? ⟨⟨1, 0⟩⟩ "count" = .ok (some (.int 5)) ∧
      after.lookup? ⟨⟨3, 0⟩⟩ "count" = .ok (some (.int 1)) := by
  have inner : scopes.Chain ⟨⟨2, 0⟩⟩ [⟨⟨2, 0⟩⟩, ⟨⟨1, 0⟩⟩, ⟨⟨0, 0⟩⟩] :=
    .child rfl rfl (.child rfl rfl (.global rfl rfl))
  have outer : scopes.Chain ⟨⟨1, 0⟩⟩ [⟨⟨1, 0⟩⟩, ⟨⟨0, 0⟩⟩] := .child rfl rfl (.global rfl rfl)
  have apart : scopes.Chain ⟨⟨3, 0⟩⟩ [⟨⟨3, 0⟩⟩, ⟨⟨0, 0⟩⟩] := .child rfl rfl (.global rfl rfl)
  obtain ⟨answer, after, assigned, seen, -⟩ :=
    (writes_reach_their_readers inner outer "count" "count" (.int 5) .mutable).1
  obtain ⟨answer', after', assigned', unseen, -⟩ :=
    (writes_reach_their_readers inner apart "count" "count" (.int 5) .mutable).1
  obtain ⟨rfl, rfl⟩ : answer = answer' ∧ after = after' := by
    simpa using assigned.symm.trans assigned'
  obtain rfl : Assigned.stored = answer := Except.ok.inj (congrArg Prod.fst assigned)
  exact ⟨after, assigned, (seen rfl).2.1 ⟨rfl, rfl⟩, (unseen rfl).2.2 fun same => nomatch same.2⟩

end Space

end ScriptEngine
