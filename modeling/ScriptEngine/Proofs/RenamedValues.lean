import Mathlib.Data.List.Forall2
import Mathlib.Order.Basic
import ScriptEngine.Payload
import ScriptEngine.Proofs.WellFormed

set_option autoImplicit false
set_option linter.unusedSectionVars false

namespace ScriptEngine

/-- What a handle is held as. -/
inductive Role where
  | array
  | object
  | callable
  | context
deriving DecidableEq, Repr

def Payload.role : Payload → Role
  | .array _ => .array
  | .object _ => .object
  | .function _ | .native _ => .callable
  | .context _ => .context

/-- Handles of one space and handles of another that stand for each other. -/
abbrev Pairing := Role → Handle → Handle → Prop

theorem getElem?_rel {α β : Type} {alike : α → β → Prop} {left : List α} {right : List β}
    (all : List.Forall₂ alike left right) (index : Nat) :
    Option.Rel alike left[index]? right[index]? := by
  induction all generalizing index with
  | nil => exact .none
  | cons head _ ih =>
    cases index with
    | zero => exact .some head
    | succ index => exact ih index

namespace Table

variable {κ α β : Type} [Ord κ] [Std.TransOrd κ] [Std.LawfulEqOrd κ]

def Alike (alike : α → β → Prop) (left : Table κ α) (right : Table κ β) : Prop :=
  ∀ key, Option.Rel alike (left.get? key) (right.get? key)

variable {alike : α → β → Prop} {left : Table κ α} {right : Table κ β}

theorem Alike.empty : Alike alike (∅ : Table κ α) (∅ : Table κ β) :=
  fun _ => .none

theorem Alike.insert [DecidableEq κ] (same : Alike alike left right) (key : κ) {value : α}
    {other : β} (values : alike value other) :
    Alike alike (left.insert key value) (right.insert key other) := by
  intro at'
  rw [get?_insert, get?_insert]
  split
  · exact .some values
  · exact same at'

theorem Alike.erase [DecidableEq κ] (same : Alike alike left right) (key : κ) :
    Alike alike (left.erase key) (right.erase key) := by
  intro at'
  rw [get?_erase, get?_erase]
  split
  · exact .none
  · exact same at'

theorem Alike.insertAll [DecidableEq κ] {entries : List (κ × α)} {others : List (κ × β)}
    (added : List.Forall₂ (fun first second => first.1 = second.1 ∧ alike first.2 second.2)
      entries others) (same : Alike alike left right) :
    Alike alike (left.insertAll entries) (right.insertAll others) := by
  unfold Table.insertAll
  induction added generalizing left right with
  | nil => exact same
  | cons head _ ih =>
    rw [List.foldl_cons, List.foldl_cons, head.1]
    exact ih (same.insert _ head.2)

theorem Alike.transfer {alike' : α → β → Prop} (same : Alike alike left right)
    (kept : ∀ value ∈ left.values, ∀ other, alike value other → alike' value other) :
    Alike alike' left right := by
  intro key
  have here := same key
  generalize first : left.get? key = found at here ⊢
  generalize right.get? key = found' at here ⊢
  cases here with
  | none => exact .none
  | some values => exact .some (kept _ (mem_values_iff.mpr ⟨key, first⟩) _ values)

theorem Alike.contains (same : Alike alike left right) (key : κ) :
    left.contains key = right.contains key := by
  have here := same key
  unfold Table.contains
  generalize left.get? key = found at here ⊢
  generalize right.get? key = found' at here ⊢
  cases here <;> rfl

private def domain {γ : Type} (table : Table κ γ) : Table κ Unit :=
  ⟨table.entries.map fun entry => (entry.1, ()), by
    rw [List.pairwise_map]
    exact table.increasing⟩

private theorem get?_domain {γ : Type} (table : Table κ γ) (key : κ) :
    (domain table).get? key = (table.get? key).map fun _ => () := by
  cases found : table.get? key with
  | some value =>
    have member := get?_eq_some_iff.mp found
    exact get?_eq_some_iff.mpr (List.mem_map.mpr ⟨_, member, rfl⟩)
  | none =>
    rw [Option.map_none, Option.eq_none_iff_forall_ne_some]
    intro _ held
    obtain ⟨entry, member, equal⟩ := List.mem_map.mp (get?_eq_some_iff.mp held)
    have found' : table.get? entry.1 = some entry.2 := get?_eq_some_iff.mpr member
    cases equal
    rw [found] at found'
    cases found'

theorem Alike.keys (same : Alike alike left right) : left.keys = right.keys := by
  have domains : domain left = domain right := by
    apply ext_get?
    intro key
    have here := same key
    rw [get?_domain, get?_domain]
    generalize left.get? key = found at here ⊢
    generalize right.get? key = found' at here ⊢
    cases here <;> rfl
  have entries := congrArg (fun table => table.entries.map (·.1)) domains
  simpa [domain, Function.comp_def, Table.keys] using entries

theorem Alike.entries (same : Alike alike left right) :
    List.Forall₂ (fun first second => first.1 = second.1 ∧ alike first.2 second.2)
      left.entries right.entries := by
  have keys := same.keys
  unfold Table.keys at keys
  have lengths : left.entries.length = right.entries.length := by
    simpa using congrArg List.length keys
  refine List.forall₂_iff_get.mpr ⟨lengths, ?_⟩
  intro index bound bound'
  have key : (left.entries.get ⟨index, bound⟩).1 = (right.entries.get ⟨index, bound'⟩).1 := by
    have here := congrArg (·[index]?) keys
    simpa [bound, bound'] using here
  refine ⟨key, ?_⟩
  have first : left.get? _ = some _ :=
    get?_eq_some_iff.mpr (List.get_mem left.entries ⟨index, bound⟩)
  have second : right.get? _ = some _ :=
    get?_eq_some_iff.mpr (List.get_mem right.entries ⟨index, bound'⟩)
  have here := same (left.entries.get ⟨index, bound⟩).1
  rw [first, key, second] at here
  cases here with
  | some values => exact values

end Table

/-- The same scalar, or containers that stand for each other. -/
inductive Value.Alike (pairing : Pairing) : Value → Value → Prop where
  | scalar {value : Value} (plain : value.handle? = none) : Value.Alike pairing value value
  | array {left right : Handle} (paired : pairing .array left right) :
      Value.Alike pairing (.array left) (.array right)
  | object {left right : Handle} (paired : pairing .object left right) :
      Value.Alike pairing (.object left) (.object right)
  | callable {left right : Handle} (paired : pairing .callable left right) :
      Value.Alike pairing (.callable left) (.callable right)

/-- Two objects that stand for each other. -/
def Value.AlikeObjects (pairing : Pairing) (left right : Value) : Prop :=
  left.Alike pairing right ∧ left.type = .object

abbrev Value.AllAlike (pairing : Pairing) : List Value → List Value → Prop :=
  List.Forall₂ (Value.Alike pairing)

def ContextRef.Alike (pairing : Pairing) (left right : ContextRef) : Prop :=
  pairing .context left.handle right.handle

structure ObjectData.Alike (pairing : Pairing) (left right : ObjectData) : Prop where
  properties : Table.Alike (Value.Alike pairing) left.properties right.properties
  className : left.className = right.className
  context : Option.Rel (ContextRef.Alike pairing) left.context right.context
  site : left.site = right.site
  listeners : Table.Alike (Value.AllAlike pairing) left.listeners right.listeners

structure Binding.Alike (pairing : Pairing) (left right : Binding) : Prop where
  value : left.value.Alike pairing right.value
  mutability : left.mutability = right.mutability

inductive ContextKind.Alike (pairing : Pairing) : ContextKind → ContextKind → Prop where
  | global (script : ScriptInfo) (lines : List String) :
      ContextKind.Alike pairing (.global script lines) (.global script lines)
  | child {left right : ContextRef} (parents : left.Alike pairing right) (site : SourceInfo) :
      ContextKind.Alike pairing (.child left site) (.child right site)

structure Context.Alike (pairing : Pairing) (left right : Context) : Prop where
  kind : left.kind.Alike pairing right.kind
  bindings : Table.Alike (Binding.Alike pairing) left.bindings right.bindings

/-- One closure in two contexts. Under strict terms its body is well formed. -/
structure Closure.Alike (strict : Prop) (pairing : Pairing) (left right : Closure) : Prop where
  context : left.context.Alike pairing right.context
  parameters : left.parameters = right.parameters
  body : left.body = right.body
  name : left.name = right.name
  wellFormed : strict → left.body.wellFormed = true

/-- The methods of objects with events, the only native functions that are followed here. -/
def NativeBody.IsEvent (body : NativeBody) : Prop :=
  body = .subscribe ∨ body = .unsubscribe ∨ body = .dispatch

/-- One event method with captures of its own. Under strict terms it belongs to an object. -/
structure NativeFunction.Alike (strict : Prop) (pairing : Pairing) (left right : NativeFunction) :
    Prop where
  name : left.name = right.name
  arity : left.arity = right.arity
  captures : Value.AllAlike pairing left.captures right.captures
  body : left.body = right.body
  event : left.body.IsEvent
  owned : strict → ∃ handle, left.captures = [.object handle]

inductive Payload.Alike (strict : Prop) (pairing : Pairing) : Payload → Payload → Prop where
  | array {left right : Array Value} (items : Value.AllAlike pairing left.toList right.toList) :
      Payload.Alike strict pairing (.array left) (.array right)
  | object {left right : ObjectData} (data : left.Alike pairing right) :
      Payload.Alike strict pairing (.object left) (.object right)
  | function {left right : Closure} (closures : left.Alike strict pairing right) :
      Payload.Alike strict pairing (.function left) (.function right)
  | native {left right : NativeFunction} (callees : left.Alike strict pairing right) :
      Payload.Alike strict pairing (.native left) (.native right)
  | context {left right : Context} (data : left.Alike pairing right) :
      Payload.Alike strict pairing (.context left) (.context right)

section Inversion

variable {pairing : Pairing} {left right : Value}

theorem Value.Alike.type (alike : left.Alike pairing right) : left.type = right.type := by
  cases alike <;> rfl

theorem Value.Alike.typeName (alike : left.Alike pairing right) :
    left.typeName = right.typeName := by
  rw [Value.typeName, Value.typeName, alike.type]

theorem Value.Alike.isTruthy (alike : left.Alike pairing right) :
    left.isTruthy = right.isTruthy := by
  cases alike <;> rfl

theorem Value.Alike.of_array (alike : left.Alike pairing right) (kind : left.type = .array) :
    ∃ source target, left = .array source ∧ right = .array target ∧
      pairing .array source target := by
  cases alike with
  | scalar plain => cases left <;> simp_all [Value.type, Value.handle?]
  | array paired => exact ⟨_, _, rfl, rfl, paired⟩
  | object | callable => cases kind

theorem Value.Alike.of_object (alike : left.Alike pairing right) (kind : left.type = .object) :
    ∃ source target, left = .object source ∧ right = .object target ∧
      pairing .object source target := by
  cases alike with
  | scalar plain => cases left <;> simp_all [Value.type, Value.handle?]
  | object paired => exact ⟨_, _, rfl, rfl, paired⟩
  | array | callable => cases kind

end Inversion

section Transfer

variable {strict : Prop} {pairing larger : Pairing}

theorem Value.Alike.transfer {left right : Value} (alike : left.Alike pairing right)
    (kept : ∀ role source target, left.handle? = some source → pairing role source target →
      larger role source target) : left.Alike larger right := by
  cases alike with
  | scalar plain => exact .scalar plain
  | array paired => exact .array (kept _ _ _ rfl paired)
  | object paired => exact .object (kept _ _ _ rfl paired)
  | callable paired => exact .callable (kept _ _ _ rfl paired)

theorem Value.Alike.mono {left right : Value} (grown : pairing ≤ larger)
    (alike : left.Alike pairing right) : left.Alike larger right :=
  alike.transfer fun role source target _ paired => grown role source target paired

theorem Value.AllAlike.transfer {left right : List Value} (alike : AllAlike pairing left right)
    (kept : ∀ role source target, source ∈ valueHandles left → pairing role source target →
      larger role source target) : AllAlike larger left right := by
  have both := (List.forall₂_and_left (p := (· ∈ left)) left right).mpr
    ⟨fun _ member => member, alike⟩
  refine both.imp fun first second here => ?_
  refine here.2.transfer fun role source target points paired => kept role source target ?_ paired
  exact List.mem_filterMap.mpr ⟨first, here.1, points⟩

theorem Value.AllAlike.mono {left right : List Value} (grown : pairing ≤ larger)
    (alike : AllAlike pairing left right) : AllAlike larger left right :=
  List.Forall₂.imp (fun _ _ here => here.mono grown) alike

theorem ContextRef.Alike.mono {left right : ContextRef} (grown : pairing ≤ larger)
    (alike : left.Alike pairing right) : left.Alike larger right :=
  grown _ _ _ alike

theorem ObjectData.Alike.transfer {left right : ObjectData} (alike : left.Alike pairing right)
    (kept : ∀ role source target, source ∈ left.references → pairing role source target →
      larger role source target) : left.Alike larger right := by
  unfold ObjectData.references at kept
  refine ⟨?_, alike.className, ?_, alike.site, ?_⟩
  · refine alike.properties.transfer fun value member other here => ?_
    refine here.transfer fun role source target points => kept role source target ?_
    simp only [List.mem_append]
    exact Or.inl (Or.inl (List.mem_filterMap.mpr ⟨value, member, points⟩))
  · have contexts := alike.context
    generalize first : left.context = owned at contexts ⊢
    generalize right.context = owned' at contexts ⊢
    cases contexts with
    | none => exact .none
    | some here => exact .some (kept _ _ _ (by simp [first]) here)
  · refine alike.listeners.transfer fun callbacks member others here => ?_
    refine here.transfer fun role source target points => kept role source target ?_
    obtain ⟨callback, listed, points⟩ := List.mem_filterMap.mp points
    simp only [List.mem_append]
    refine Or.inr (List.mem_filterMap.mpr ⟨callback, ?_, points⟩)
    exact List.mem_flatten.mpr ⟨callbacks, member, listed⟩

theorem Context.Alike.transfer {left right : Context} (alike : left.Alike pairing right)
    (kept : ∀ role source target, source ∈ left.references → pairing role source target →
      larger role source target) : left.Alike larger right := by
  unfold Context.references at kept
  refine ⟨?_, ?_⟩
  · have kinds := alike.kind
    generalize first : left.kind = kind at kinds ⊢
    generalize right.kind = kind' at kinds ⊢
    cases kinds with
    | global script lines => exact .global script lines
    | child parents site =>
      exact .child (kept _ _ _ (by simp [Context.parent?, first]) parents) site
  · refine alike.bindings.transfer fun binding member other here => ⟨?_, here.mutability⟩
    refine here.value.transfer fun role source target points => kept role source target ?_
    refine List.mem_append_right _ (List.mem_filterMap.mpr ⟨binding.value, ?_, points⟩)
    exact List.mem_map.mpr ⟨binding, member, rfl⟩

/-- A payload needs only the pairs of the handles that it refers to. -/
theorem Payload.Alike.transfer {left right : Payload} (alike : left.Alike strict pairing right)
    (kept : ∀ role source target, source ∈ left.references → pairing role source target →
      larger role source target) : left.Alike strict larger right := by
  cases alike with
  | array items => exact .array (items.transfer kept)
  | object data => exact .object (data.transfer kept)
  | function closures =>
    exact .function { closures with context := kept _ _ _ (by simp [references]) closures.context }
  | native callees => exact .native { callees with captures := callees.captures.transfer kept }
  | context data => exact .context (data.transfer kept)

theorem Payload.Alike.mono {left right : Payload} (grown : pairing ≤ larger)
    (alike : left.Alike strict pairing right) : left.Alike strict larger right :=
  alike.transfer fun role source target _ paired => grown role source target paired

end Transfer

section Identity

variable {strict : Prop} {pairing : Pairing}

theorem Value.Alike.eq (identity : ∀ role source target, pairing role source target →
    source = target) {left right : Value} (alike : left.Alike pairing right) : left = right := by
  cases alike with
  | scalar => rfl
  | array paired => rw [identity _ _ _ paired]
  | object paired => rw [identity _ _ _ paired]
  | callable paired => rw [identity _ _ _ paired]

theorem Value.AllAlike.eq (identity : ∀ role source target, pairing role source target →
    source = target) {left right : List Value} (alike : AllAlike pairing left right) :
    left = right := by
  have equal := List.Forall₂.imp (fun _ _ here => Value.Alike.eq identity here) alike
  rwa [List.forall₂_eq_eq_eq] at equal

theorem ContextRef.Alike.eq (identity : ∀ role source target, pairing role source target →
    source = target) {left right : ContextRef} (alike : left.Alike pairing right) :
    left = right := by
  cases left
  cases right
  exact congrArg ContextRef.mk (identity _ _ _ alike)

private theorem Option.eq_of_rel {α : Type} {alike : α → α → Prop} {left right : Option α}
    (same : Option.Rel alike left right) (equal : ∀ a b, alike a b → a = b) : left = right := by
  cases same with
  | none => rfl
  | some here => rw [equal _ _ here]

theorem Table.Alike.eq {α : Type} {alike : α → α → Prop} {left right : Table String α}
    (same : left.Alike alike right) (equal : ∀ a b, alike a b → a = b) : left = right :=
  Table.ext_get? fun key => Option.eq_of_rel (same key) equal

/-- Under the identity only equal payloads are alike. -/
theorem Payload.Alike.eq (identity : ∀ role source target, pairing role source target →
    source = target) {left right : Payload} (alike : left.Alike strict pairing right) :
    left = right := by
  cases alike with
  | array items => rw [Array.toList_inj.mp (items.eq identity)]
  | @object left right data =>
    obtain ⟨properties, className, context, site, listeners⟩ := data
    have properties := properties.eq fun _ _ here => here.eq identity
    have context := Option.eq_of_rel context fun _ _ here => here.eq identity
    have listeners := listeners.eq fun _ _ here => here.eq identity
    cases left
    cases right
    simp_all
  | @function left right closures =>
    obtain ⟨context, parameters, body, name, -⟩ := closures
    have context := context.eq identity
    cases left
    cases right
    simp_all
  | @native left right callees =>
    obtain ⟨name, arity, captures, body, -, -⟩ := callees
    have captures := captures.eq identity
    cases left
    cases right
    simp_all
  | @context left right data =>
    obtain ⟨kind, bindings⟩ := data
    obtain ⟨kind₁, bindings₁⟩ := left
    obtain ⟨kind₂, bindings₂⟩ := right
    have bindings : bindings₁ = bindings₂ := by
      refine bindings.eq ?_
      intro ⟨value, mutability⟩ ⟨value', mutability'⟩ ⟨values, mutabilities⟩
      cases values.eq identity
      cases mutabilities
      rfl
    have kind : kind₁ = kind₂ := by
      cases kind with
      | global => rfl
      | child parents => rw [parents.eq identity]
    rw [bindings, kind]

end Identity

end ScriptEngine
