import ScriptEngine.Proofs.LockstepCalls
import ScriptEngine.Proofs.Marking

set_option autoImplicit false

namespace ScriptEngine

namespace Space

/-- The handle of the value, if it has one, is live and of the kind that the value says. -/
def Fits (space : Space) : Value → Prop
  | .array handle => ∃ items, space.get? handle = some (.array items)
  | .object handle => ∃ data, space.get? handle = some (.object data)
  | .callable handle => (∃ closure, space.get? handle = some (.function closure)) ∨
      ∃ callee, space.get? handle = some (.native callee)
  | _ => True

def HasContext (space : Space) (context : ContextRef) : Prop :=
  ∃ data, space.get? context.handle = some (.context data)

def FitsObject (space : Space) (data : ObjectData) : Prop :=
  (∀ key value, data.properties.get? key = some value → space.Fits value) ∧
    (∀ context, data.context = some context → space.HasContext context) ∧
    ∀ event callbacks, data.listeners.get? event = some callbacks →
      ∀ callback ∈ callbacks, space.Fits callback

/-- Every handle in the payload is live and of the right kind. -/
def FitsPayload (space : Space) : Payload → Prop
  | .array items => ∀ value ∈ items, space.Fits value
  | .object data => space.FitsObject data
  | .function closure => space.HasContext closure.context
  | .native callee => ∀ value ∈ callee.captures, space.Fits value
  | .context data => (∀ parent, data.parent? = some parent → space.HasContext parent) ∧
      ∀ name binding, data.bindings.get? name = some binding → space.Fits binding.value

/-- Every stored handle is live and of the right kind, and only live objects are wrapped. -/
structure Sound (space : Space) : Prop where
  stored : ∀ {handle payload}, space.get? handle = some payload → space.FitsPayload payload
  wrapped : ∀ {handle wrapping}, space.wraps.get? handle = some wrapping →
    space.Fits (.object handle) ∧ ∀ value ∈ wrapping.captures, space.Fits value

/-- All chains of contexts end. -/
def Grounded (space : Space) : Prop := ∀ context, space.HasContext context → space.Rooted context

/-- A sound space without native functions but the event methods. Under strict terms its closures
are well formed and each method belongs to an object; all chains end if that is asked for. -/
structure Healthy (strict rooted : Prop) (space : Space) : Prop where
  tidy : space.Tidy
  sound : space.Sound
  natives : ∀ {handle callee}, space.get? handle = some (.native callee) → callee.body.IsEvent
  owned : strict → ∀ {handle callee}, space.get? handle = some (.native callee) →
    ∃ object, callee.captures = [.object object]
  closures : strict → ∀ {handle closure}, space.get? handle = some (.function closure) →
    closure.body.wellFormed = true
  grounded : rooted → space.Grounded

/-- Every live handle stands for itself. -/
def diagonal (space : Space) : Pairing := fun role source target =>
  source = target ∧ ∃ payload, space.get? source = some payload ∧ payload.role = role

theorem diagonal_of_get? {space : Space} {handle : Handle} {payload : Payload}
    (held : space.get? handle = some payload) : space.diagonal payload.role handle handle :=
  ⟨rfl, payload, held, rfl⟩

theorem fits_iff {space : Space} {value : Value} :
    space.Fits value ↔ value.Alike space.diagonal value := by
  constructor
  · intro fits
    cases value with
    | undefined | null | bool | int | float | string => exact .scalar rfl
    | array =>
      obtain ⟨items, held⟩ := fits
      exact .array (diagonal_of_get? held)
    | object =>
      obtain ⟨data, held⟩ := fits
      exact .object (diagonal_of_get? held)
    | callable =>
      rcases fits with ⟨closure, held⟩ | ⟨callee, held⟩
      · exact .callable (diagonal_of_get? held)
      · exact .callable (diagonal_of_get? held)
  · intro alike
    cases alike with
    | scalar plain =>
      cases value with
      | array | object | callable => cases plain
      | undefined | null | bool | int | float | string => trivial
    | array paired =>
      obtain ⟨-, payload, held, role⟩ := paired
      cases payload <;> cases role
      exact ⟨_, held⟩
    | object paired =>
      obtain ⟨-, payload, held, role⟩ := paired
      cases payload <;> cases role
      exact ⟨_, held⟩
    | callable paired =>
      obtain ⟨-, payload, held, role⟩ := paired
      cases payload <;> cases role
      · exact Or.inl ⟨_, held⟩
      · exact Or.inr ⟨_, held⟩

theorem hasContext_iff {space : Space} {context : ContextRef} :
    space.HasContext context ↔ context.Alike space.diagonal context := by
  constructor
  · intro present
    obtain ⟨data, held⟩ := present
    exact diagonal_of_get? held
  · intro paired
    obtain ⟨-, payload, held, role⟩ := paired
    cases payload <;> cases role
    exact ⟨_, held⟩

theorem allFit_iff {space : Space} {values : List Value} :
    (∀ value ∈ values, space.Fits value) ↔ Value.AllAlike space.diagonal values values := by
  refine Iff.trans ?_ List.forall₂_same.symm
  exact forall₂_congr fun _ _ => fits_iff

private theorem rel_self {α : Type} {alike : α → α → Prop} {found : Option α} :
    Option.Rel alike found found ↔ ∀ value, found = some value → alike value value := by
  cases found with
  | none => exact ⟨fun _ _ => nofun, fun _ => .none⟩
  | some value =>
    constructor
    · intro alike other equal
      cases equal
      cases alike with
      | some here => exact here
    · intro each
      exact .some (each value rfl)

theorem fitsTable_iff {space : Space} {table : Table String Value} :
    (∀ key value, table.get? key = some value → space.Fits value) ↔
      table.Alike (Value.Alike space.diagonal) table := by
  refine forall_congr' fun key => Iff.trans ?_ rel_self.symm
  exact forall₂_congr fun _ _ => fits_iff

theorem fitsObject_iff {space : Space} {data : ObjectData} :
    space.FitsObject data ↔ data.Alike space.diagonal data := by
  constructor
  · intro fits
    obtain ⟨properties, context, listeners⟩ := fits
    refine ⟨fitsTable_iff.mp properties, rfl, rel_self.mpr fun owned equal =>
      hasContext_iff.mp (context owned equal), rfl, fun event => rel_self.mpr fun callbacks found =>
      allFit_iff.mp (listeners event callbacks found)⟩
  · intro alike
    refine ⟨fitsTable_iff.mpr alike.properties,
      fun owned equal => hasContext_iff.mpr (rel_self.mp alike.context owned equal),
      fun event callbacks found =>
        allFit_iff.mpr (rel_self.mp (alike.listeners event) callbacks found)⟩

theorem fitsContext_iff {space : Space} {data : Context} :
    space.FitsPayload (.context data) ↔ data.Alike space.diagonal data := by
  constructor
  · intro fits
    obtain ⟨parents, bindings⟩ := fits
    refine ⟨?_, fun name => rel_self.mpr fun binding found =>
      ⟨fits_iff.mp (bindings name binding found), rfl⟩⟩
    unfold Context.parent? at parents
    cases kind : data.kind with
    | global script lines => exact .global script lines
    | child parent site =>
      rw [kind] at parents
      exact .child (hasContext_iff.mp (parents parent rfl)) site
  · intro alike
    refine ⟨fun parent above => hasContext_iff.mpr (rel_self.mp alike.parent? parent above), ?_⟩
    intro name binding found
    exact fits_iff.mpr (rel_self.mp (alike.bindings name) binding found).value

theorem Healthy.alike {strict rooted : Prop} {space : Space} (healthy : space.Healthy strict rooted)
    {handle : Handle} {payload : Payload} (held : space.get? handle = some payload) :
    payload.Alike strict space.diagonal payload := by
  have fits := healthy.sound.stored held
  cases payload with
  | array items =>
    exact .array (allFit_iff.mp fun value member => fits value (by simpa using member))
  | object data => exact .object (fitsObject_iff.mp fits)
  | function closure =>
    exact .function ⟨hasContext_iff.mp fits, rfl, rfl, rfl,
      fun holds => healthy.closures holds held⟩
  | native callee =>
    exact .native ⟨rfl, rfl, allFit_iff.mp fits, rfl, healthy.natives held,
      fun holds => healthy.owned holds held⟩
  | context data => exact .context (fitsContext_iff.mp fits)

theorem fitsPayload_of_alike {strict : Prop} {space : Space} {payload : Payload}
    (alike : payload.Alike strict space.diagonal payload) : space.FitsPayload payload := by
  cases alike with
  | array items => exact fun value member => allFit_iff.mpr items value (by simpa using member)
  | object data => exact fitsObject_iff.mpr data
  | function closures => exact hasContext_iff.mpr closures.context
  | native callees => exact allFit_iff.mpr callees.captures
  | context data => exact fitsContext_iff.mpr data

end Space

/-- The terms of a space beside itself. -/
def Terms.alone (strict rooted : Prop) (space : Space) : Terms where
  same := True
  strict := strict
  rooted := rooted
  leftPins := space.pins
  rightPins := space.pins
  settled := Or.inl trivial

namespace Space

variable {strict rooted : Prop} {space : Space}

theorem Healthy.twins (healthy : space.Healthy strict rooted) :
    Twins (.alone strict rooted space) space.diagonal space space where
  tidyLeft := healthy.tidy
  tidyRight := healthy.tidy
  payloads := by
    intro role source target paired
    obtain ⟨rfl, payload, held, rfl⟩ := paired
    exact ⟨payload, payload, held, held, rfl, healthy.alike held⟩
  functional first second := first.1.symm.trans second.1
  injective first second := first.1.trans second.1.symm
  rooted holds _ _ paired := by
    obtain ⟨rfl, -⟩ := id paired
    have chain := healthy.grounded holds _ (hasContext_iff.mpr paired)
    exact ⟨chain, chain⟩
  pinsLeft := rfl
  pinsRight := rfl
  same _ := by
    refine ⟨rfl, fun paired => paired.1, diagonal_of_get?, fun found => ?_⟩
    have wrapped := healthy.sound.wrapped found
    refine ⟨?_, allFit_iff.mp wrapped.2⟩
    obtain ⟨data, held⟩ := wrapped.1
    exact diagonal_of_get? held
  apart differ := absurd trivial differ

theorem pairing_eq_diagonal {start left right : Space} {pairing : Pairing}
    (twins : Twins (.alone strict rooted start) pairing left right) :
    left = right ∧ pairing = left.diagonal := by
  obtain ⟨rfl, identity, total, -⟩ := twins.same trivial
  refine ⟨rfl, ?_⟩
  funext role source target
  apply propext
  constructor
  · intro paired
    obtain ⟨payload, other, held, -, kind, -⟩ := twins.payloads paired
    exact ⟨identity paired, payload, held, kind⟩
  · intro paired
    obtain ⟨rfl, payload, held, rfl⟩ := paired
    exact total held

/-- A space that is its own twin is healthy. -/
theorem healthy_of_twins {start : Space}
    (twins : Twins (.alone strict rooted start) space.diagonal space space) :
    space.Healthy strict rooted := by
  have each : ∀ {handle payload}, space.get? handle = some payload →
      payload.Alike strict space.diagonal payload := by
    intro handle payload held
    obtain ⟨payload', other, held', held'', -, alike⟩ :=
      twins.payloads (diagonal_of_get? held)
    rw [held, Option.some.injEq] at held' held''
    subst held' held''
    exact alike
  refine ⟨twins.tidyLeft, ⟨fun held => fitsPayload_of_alike (each held), ?_⟩, ?_, ?_, ?_, ?_⟩
  · intro handle wrapping found
    obtain ⟨paired, captures⟩ := (twins.same trivial).wrapped found
    exact ⟨fits_iff.mpr (.object paired), allFit_iff.mpr captures⟩
  · intro handle callee held
    cases each held with
    | native callees => exact callees.event
  · intro holds handle callee held
    cases each held with
    | native callees => exact callees.owned holds
  · intro holds handle closure held
    cases each held with
    | function closures => exact closures.wellFormed holds
  · intro holds context present
    exact (twins.rooted holds (hasContext_iff.mp present)).1

/-- How something that ran beside itself from a healthy space has ended. -/
structure Ended (strict rooted : Prop) (before after : Space) : Prop where
  healthy : after.Healthy strict rooted
  kept : before.diagonal ≤ after.diagonal
  pins : after.pins = before.pins

theorem ended_of_twins {after after' : Space} {pairing : Pairing}
    (twins : Twins (.alone strict rooted space) pairing after after')
    (grown : space.diagonal ≤ pairing) : Ended strict rooted space after ∧
      after = after' ∧ pairing = after.diagonal := by
  obtain ⟨rfl, rfl⟩ := pairing_eq_diagonal twins
  exact ⟨⟨healthy_of_twins twins, grown, twins.pinsLeft⟩, rfl, rfl⟩

/-- An operation in lockstep with itself keeps a space healthy. -/
theorem Healthy.act {α : Type} {values : Pairing → α → α → Prop} {operation : SpaceM α}
    (healthy : space.Healthy strict rooted)
    (lockstep : Lockstep (Terms.alone strict rooted space).spaces space.diagonal values operation
      operation) :
    Ended strict rooted space (operation space).2 ∧
      ∀ answer, (operation space).1 = .ok answer →
        values (operation space).2.diagonal answer answer := by
  have outcome := lockstep _ _ _ (le_refl _) healthy.twins
  generalize ends : operation space = ended at outcome
  cases outcome with
  | value grown twins alike =>
    obtain ⟨done, -, rfl⟩ := ended_of_twins twins grown
    refine ⟨done, fun answer equal => ?_⟩
    cases equal
    exact alike
  | early grown twins _ => exact ⟨(ended_of_twins twins grown).1, fun _ => nofun⟩
  | lostLeft lost => exact absurd trivial lost.1
  | lostRight lost => exact absurd trivial lost.1

end Space

end ScriptEngine
