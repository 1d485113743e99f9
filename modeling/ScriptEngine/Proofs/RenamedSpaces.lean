import ScriptEngine.Proofs.RenamedValues
import ScriptEngine.Proofs.ContextChains

set_option autoImplicit false

namespace ScriptEngine

/-- What is known of two runs that are followed together. -/
structure Terms where
  /-- Both runs are one and the same. -/
  same : Prop
  /-- All trees are well formed, and hooks and native functions keep their side of the contract. -/
  strict : Prop
  /-- All chains of contexts end. -/
  rooted : Prop
  leftPins : Table Handle Nat
  rightPins : Table Handle Nat
  settled : same ∨ rooted

namespace Pairing

/-- The pairing with one more pair. -/
def add (pairing : Pairing) (role : Role) (left right : Handle) : Pairing :=
  fun role' source target =>
    pairing role' source target ∨ (role' = role ∧ source = left ∧ target = right)

theorem le_add (pairing : Pairing) (role : Role) (left right : Handle) :
    pairing ≤ pairing.add role left right :=
  fun _ _ _ paired => Or.inl paired

theorem add_self (pairing : Pairing) (role : Role) (left right : Handle) :
    pairing.add role left right role left right :=
  Or.inr ⟨rfl, rfl, rfl⟩

end Pairing

/-- A space beside itself. All live handles are paired with themselves, and only objects that are
live have a host. -/
structure Selfsame (pairing : Pairing) (left right : Space) : Prop where
  equal : left = right
  identity : ∀ {role source target}, pairing role source target → source = target
  total : ∀ {handle payload}, left.get? handle = some payload →
    pairing payload.role handle handle
  wrapped : ∀ {handle wrapping}, left.wraps.get? handle = some wrapping →
    pairing .object handle handle ∧ Value.AllAlike pairing wrapping.captures wrapping.captures

/-- Two spaces whose paired handles stand for payloads that are alike. Spaces that are not the
same have no wrapped objects. -/
structure Twins (terms : Terms) (pairing : Pairing) (left right : Space) : Prop where
  tidyLeft : left.Tidy
  tidyRight : right.Tidy
  payloads : ∀ {role source target}, pairing role source target → ∃ payload other,
    left.get? source = some payload ∧ right.get? target = some other ∧ payload.role = role ∧
      payload.Alike terms.strict pairing other
  functional : ∀ {role role' source target target'}, pairing role source target →
    pairing role' source target' → target = target'
  injective : ∀ {role role' source source' target}, pairing role source target →
    pairing role' source' target → source = source'
  rooted : terms.rooted → ∀ {source target}, pairing .context source target →
    left.Rooted ⟨source⟩ ∧ right.Rooted ⟨target⟩
  pinsLeft : left.pins = terms.leftPins
  pinsRight : right.pins = terms.rightPins
  same : terms.same → Selfsame pairing left right
  apart : ¬ terms.same → ∀ handle, left.wraps.get? handle = none ∧ right.wraps.get? handle = none

namespace Twins

variable {terms : Terms} {pairing : Pairing} {left right : Space}

theorem get_array (twins : Twins terms pairing left right) {source target : Handle}
    (paired : pairing .array source target) : ∃ items others,
      left.get? source = some (.array items) ∧ right.get? target = some (.array others) ∧
        Value.AllAlike pairing items.toList others.toList := by
  obtain ⟨payload, other, held, held', role, alike⟩ := twins.payloads paired
  cases alike with
  | array items => exact ⟨_, _, held, held', items⟩
  | object | function | native | context => cases role

theorem get_object (twins : Twins terms pairing left right) {source target : Handle}
    (paired : pairing .object source target) : ∃ data others,
      left.get? source = some (.object data) ∧ right.get? target = some (.object others) ∧
        data.Alike pairing others := by
  obtain ⟨payload, other, held, held', role, alike⟩ := twins.payloads paired
  cases alike with
  | object data => exact ⟨_, _, held, held', data⟩
  | array | function | native | context => cases role

theorem get_context (twins : Twins terms pairing left right) {source target : ContextRef}
    (paired : source.Alike pairing target) : ∃ data others,
      left.get? source.handle = some (.context data) ∧
        right.get? target.handle = some (.context others) ∧ data.Alike pairing others := by
  obtain ⟨payload, other, held, held', role, alike⟩ := twins.payloads paired
  cases alike with
  | context data => exact ⟨_, _, held, held', data⟩
  | array | object | function | native => cases role

theorem get_callable (twins : Twins terms pairing left right) {source target : Handle}
    (paired : pairing .callable source target) :
    (∃ closure other, left.get? source = some (.function closure) ∧
      right.get? target = some (.function other) ∧ closure.Alike terms.strict pairing other) ∨
    (∃ callee other, left.get? source = some (.native callee) ∧
      right.get? target = some (.native other) ∧ callee.Alike terms.strict pairing other) := by
  obtain ⟨payload, other, held, held', role, alike⟩ := twins.payloads paired
  cases alike with
  | function closures => exact Or.inl ⟨_, _, held, held', closures⟩
  | native callees => exact Or.inr ⟨_, _, held, held', callees⟩
  | array | object | context => cases role

theorem live_left (twins : Twins terms pairing left right) {role : Role} {source target : Handle}
    (paired : pairing role source target) : left.contains source = true := by
  obtain ⟨payload, other, held, -⟩ := twins.payloads paired
  simp [Space.contains, held]

theorem live_right (twins : Twins terms pairing left right) {role : Role}
    {source target : Handle} (paired : pairing role source target) :
    right.contains target = true := by
  obtain ⟨payload, other, -, held, -⟩ := twins.payloads paired
  simp [Space.contains, held]

theorem eq_iff (twins : Twins terms pairing left right) {role role' : Role}
    {source source' target target' : Handle} (paired : pairing role source target)
    (paired' : pairing role' source' target') : source = source' ↔ target = target' := by
  constructor
  · intro equal
    subst equal
    exact twins.functional paired paired'
  · intro equal
    subst equal
    exact twins.injective paired paired'

private theorem recount (twins : Twins terms pairing left right) (executions executions' : Nat)
    (equal : left = right → executions = executions') :
    Twins terms pairing { left with executions } { right with executions := executions' } where
  tidyLeft := twins.tidyLeft.congr rfl rfl rfl
  tidyRight := twins.tidyRight.congr rfl rfl rfl
  payloads := twins.payloads
  functional := twins.functional
  injective := twins.injective
  rooted holds _ _ paired := by
    obtain ⟨⟨depth, chain⟩, depth', chain'⟩ := twins.rooted holds paired
    refine ⟨⟨depth, chain.transfer ?_⟩, depth', chain'.transfer ?_⟩
    · exact fun handle payload held => ⟨payload, held, rfl⟩
    · exact fun handle payload held => ⟨payload, held, rfl⟩
  pinsLeft := twins.pinsLeft
  pinsRight := twins.pinsRight
  same holds := by
    obtain ⟨rfl, identity, total, wrapped⟩ := twins.same holds
    exact ⟨by rw [equal rfl], identity, total, wrapped⟩
  apart := twins.apart

theorem enter (twins : Twins terms pairing left right) :
    Twins terms pairing left.enterExecution right.enterExecution :=
  twins.recount _ _ fun equal => by rw [equal]

theorem leave (twins : Twins terms pairing left right) :
    Twins terms pairing left.leaveExecution right.leaveExecution :=
  twins.recount _ _ fun equal => by rw [equal]

/-- Both spaces take on payloads that are alike under handles that stand for each other. -/
theorem store (twins : Twins terms pairing left right) {role : Role} {source target : Handle}
    (paired : pairing role source target) (payload other : Payload) (kind : payload.role = role)
    (alike : payload.Alike terms.strict pairing other)
    (parents : ∀ old, left.get? source = some old → payload.parent? = old.parent?)
    (parents' : ∀ old, right.get? target = some old → other.parent? = old.parent?) :
    ∃ left' right', Space.store source payload left = (.ok (), left') ∧
      Space.store target other right = (.ok (), right') ∧ Twins terms pairing left' right' := by
  obtain ⟨left', stored, tidy, placed⟩ := twins.tidyLeft.store payload (twins.live_left paired)
  obtain ⟨right', stored', tidy', placed'⟩ :=
    twins.tidyRight.store other (twins.live_right paired)
  refine ⟨left', right', stored, stored', ?_⟩
  refine ⟨tidy, tidy', ?_, twins.functional, twins.injective, ?_, ?_, ?_, ?_, ?_⟩
  · intro role' source' target' paired'
    by_cases here : source' = source
    · subst here
      have there := twins.functional paired' paired
      subst there
      obtain ⟨old, old', held, held', kind', alike'⟩ := twins.payloads paired'
      obtain ⟨again, again', held₁, held₁', kind₁, -⟩ := twins.payloads paired
      rw [held, Option.some.injEq] at held₁
      subst held₁
      exact ⟨payload, other, placed.here, placed'.here, kind.trans (kind₁.symm.trans kind'), alike⟩
    · have there : target' ≠ target := fun equal =>
        here ((twins.eq_iff paired' paired).mpr equal)
      rw [placed.elsewhere source' here, placed'.elsewhere target' there]
      exact twins.payloads paired'
  · intro holds source' target' paired'
    obtain ⟨⟨depth, chain⟩, depth', chain'⟩ := twins.rooted holds paired'
    exact ⟨⟨depth, placed.depth parents chain⟩, depth', placed'.depth parents' chain'⟩
  · exact placed.ties.pins.trans twins.pinsLeft
  · exact placed'.ties.pins.trans twins.pinsRight
  · intro holds
    obtain ⟨equal, identity, total, wrapped⟩ := twins.same holds
    have payloads := alike.eq fun _ _ _ => identity
    have handles := identity paired
    subst equal payloads handles
    have spaces : left' = right' := congrArg Prod.snd (stored.symm.trans stored')
    subst spaces
    refine ⟨rfl, identity, ?_, ?_⟩
    · intro handle held found
      by_cases here : handle = source
      · subst here
        rw [placed.here, Option.some.injEq] at found
        subst found
        rw [kind]
        exact paired
      · rw [placed.elsewhere handle here] at found
        exact total found
    · intro handle wrapping found
      rw [placed.ties.wraps] at found
      exact wrapped found
  · intro differ handle
    rw [placed.ties.wraps, placed'.ties.wraps]
    exact twins.apart differ handle

private theorem parents_rooted (twins : Twins terms pairing left right) (holds : terms.rooted)
    {payload other : Payload} (alike : payload.Alike terms.strict pairing other) :
    (∀ parent, payload.parent? = some parent → left.Rooted parent) ∧
      ∀ parent, other.parent? = some parent → right.Rooted parent := by
  cases alike with
  | array | object | function | native =>
    constructor
    · intro parent above
      cases above
    · intro parent above
      cases above
  | @context first second data =>
    have kinds := data.kind
    simp only [Payload.parent?, Context.parent?]
    generalize first.kind = kind at kinds
    generalize second.kind = kind' at kinds
    cases kinds with
    | global =>
      constructor
      · intro parent above
        cases above
      · intro parent above
        cases above
    | child parents =>
      have chains := twins.rooted holds parents
      constructor
      · intro parent above
        cases above
        exact chains.1
      · intro parent above
        cases above
        exact chains.2

private theorem rooted_placed {before after : Space} {handle : Handle} {payload : Payload}
    (placed : Space.Placed before handle payload after) (fresh : before.get? handle = none)
    (parents : ∀ parent, payload.parent? = some parent → before.Rooted parent) :
    after.Rooted ⟨handle⟩ := by
  cases above : payload.parent? with
  | none => exact ⟨0, .last placed.here above⟩
  | some parent =>
    obtain ⟨depth, chain⟩ := parents parent above
    exact ⟨depth + 1, .child placed.here above (placed.depth (by simp [fresh]) chain)⟩

/-- What two allocations of payloads that are alike leave behind. -/
private theorem grow (twins : Twins terms pairing left right) {payload other : Payload}
    (alike : payload.Alike terms.strict pairing other) {source target : Handle}
    {left' right' : Space} (made : Space.allocate payload left = (.ok source, left'))
    (made' : Space.allocate other right = (.ok target, right')) (tidy : left'.Tidy)
    (tidy' : right'.Tidy) (fresh : left.get? source = none) (fresh' : right.get? target = none)
    (placed : Space.Placed left source payload left')
    (placed' : Space.Placed right target other right') :
    Twins terms (pairing.add payload.role source target) left' right' := by
  have unpaired : ∀ {role target'}, ¬ pairing role source target' := by
    intro role target' paired
    obtain ⟨payload, other, held, -⟩ := twins.payloads paired
    rw [fresh] at held
    cases held
  have unpaired' : ∀ {role source'}, ¬ pairing role source' target := by
    intro role source' paired
    obtain ⟨payload, other, -, held, -⟩ := twins.payloads paired
    rw [fresh'] at held
    cases held
  have grown := pairing.le_add payload.role source target
  refine ⟨tidy, tidy', ?_, ?_, ?_, ?_, placed.ties.pins.trans twins.pinsLeft,
    placed'.ties.pins.trans twins.pinsRight, ?_, ?_⟩
  · intro role source' target' either
    rcases either with paired | ⟨rfl, rfl, rfl⟩
    · have here : source' ≠ source := fun equal => unpaired (equal ▸ paired)
      have there : target' ≠ target := fun equal => unpaired' (equal ▸ paired)
      obtain ⟨old, old', held, held', kind, same⟩ := twins.payloads paired
      exact ⟨old, old', (placed.elsewhere _ here).trans held,
        (placed'.elsewhere _ there).trans held', kind, same.mono grown⟩
    · exact ⟨payload, other, placed.here, placed'.here, rfl, alike.mono grown⟩
  · intro role role' source' target₁ target₂ first second
    rcases first with paired | ⟨rfl, rfl, rfl⟩ <;> rcases second with paired' | ⟨rfl, equal, rfl⟩
    · exact twins.functional paired paired'
    · exact absurd (equal ▸ paired) unpaired
    · exact absurd paired' unpaired
    · rfl
  · intro role role' source₁ source₂ target' first second
    rcases first with paired | ⟨rfl, rfl, rfl⟩ <;> rcases second with paired' | ⟨rfl, rfl, equal⟩
    · exact twins.injective paired paired'
    · exact absurd (equal ▸ paired) unpaired'
    · exact absurd paired' unpaired'
    · rfl
  · intro holds source' target' either
    rcases either with paired | ⟨-, rfl, rfl⟩
    · obtain ⟨⟨depth, chain⟩, depth', chain'⟩ := twins.rooted holds paired
      exact ⟨⟨depth, placed.depth (by simp [fresh]) chain⟩, depth',
        placed'.depth (by simp [fresh']) chain'⟩
    · have parents := twins.parents_rooted holds alike
      exact ⟨rooted_placed placed fresh parents.1, rooted_placed placed' fresh' parents.2⟩
  · intro holds
    obtain ⟨equal, identity, total, wrapped⟩ := twins.same holds
    have payloads := alike.eq fun _ _ _ => identity
    subst equal payloads
    have outcome := made.symm.trans made'
    rw [Prod.mk.injEq, Except.ok.injEq] at outcome
    obtain ⟨rfl, rfl⟩ := outcome
    refine ⟨rfl, ?_, ?_, ?_⟩
    · intro role source' target' either
      rcases either with paired | ⟨-, rfl, rfl⟩
      · exact identity paired
      · rfl
    · intro handle held found
      by_cases here : handle = source
      · subst here
        rw [placed.here, Option.some.injEq] at found
        subst found
        exact pairing.add_self _ _ _
      · rw [placed.elsewhere handle here] at found
        exact grown _ _ _ (total found)
    · intro handle wrapping found
      rw [placed.ties.wraps] at found
      obtain ⟨paired, captures⟩ := wrapped found
      exact ⟨grown _ _ _ paired, captures.mono grown⟩
  · intro differ handle
    rw [placed.ties.wraps, placed'.ties.wraps]
    exact twins.apart differ handle

/-- Payloads that are alike get handles that stand for each other. Spaces that differ may run out
of slots one without the other. -/
theorem allocate (twins : Twins terms pairing left right) {payload other : Payload}
    (alike : payload.Alike terms.strict pairing other) :
    (∃ source target left' right', Space.allocate payload left = (.ok source, left') ∧
      Space.allocate other right = (.ok target, right') ∧
      Twins terms (pairing.add payload.role source target) left' right') ∨
    (Space.allocate payload left = (.error .spaceExhausted, left) ∧
      Space.capacity ≤ left.slots.size ∧
      (terms.same → Space.allocate other right = (.error .spaceExhausted, right) ∧
        Space.capacity ≤ right.slots.size)) ∨
    (Space.allocate other right = (.error .spaceExhausted, right) ∧
      Space.capacity ≤ right.slots.size ∧ ¬ terms.same) := by
  rcases twins.tidyLeft.allocate payload with
    ⟨source, left', made, tidy, fresh, placed⟩ | ⟨failed, full⟩
  · rcases twins.tidyRight.allocate other with
      ⟨target, right', made', tidy', fresh', placed'⟩ | ⟨failed', full'⟩
    · exact Or.inl ⟨source, target, left', right', made, made',
        twins.grow alike made made' tidy tidy' fresh fresh' placed placed'⟩
    · refine Or.inr (Or.inr ⟨failed', full', fun holds => ?_⟩)
      obtain ⟨equal, identity, -⟩ := twins.same holds
      have payloads := alike.eq fun _ _ _ => identity
      subst equal payloads
      rw [made] at failed'
      cases failed'
  · refine Or.inr (Or.inl ⟨failed, full, fun holds => ?_⟩)
    obtain ⟨equal, identity, -⟩ := twins.same holds
    have payloads := alike.eq fun _ _ _ => identity
    subst equal payloads
    exact ⟨failed, full⟩

end Twins

end ScriptEngine
