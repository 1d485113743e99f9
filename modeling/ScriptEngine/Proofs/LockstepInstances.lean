import ScriptEngine.Class
import ScriptEngine.Proofs.LockstepOperations

set_option autoImplicit false

namespace ScriptEngine

/-- A space beside itself may get other ties, as long as only live objects are tied. -/
theorem Twins.rewrap {terms : Terms} {pairing : Pairing} {left right : Space}
    (twins : Twins terms pairing left right) (same : terms.same) (wraps : Table Handle Wrapping)
    (wrapped : ∀ {handle wrapping}, wraps.get? handle = some wrapping →
      pairing .object handle handle ∧ Value.AllAlike pairing wrapping.captures wrapping.captures) :
    Twins terms pairing { left with wraps } { right with wraps } where
  tidyLeft := twins.tidyLeft.congr rfl rfl rfl
  tidyRight := twins.tidyRight.congr rfl rfl rfl
  payloads := twins.payloads
  functional := twins.functional
  injective := twins.injective
  rooted holds _ _ paired := by
    obtain ⟨⟨depth, chain⟩, depth', chain'⟩ := twins.rooted holds paired
    refine ⟨⟨depth, chain.transfer ?_⟩, depth', chain'.transfer ?_⟩
    · exact fun handle payload held => ⟨payload, held, rfl⟩
    · exact fun handle payload held => ⟨payload, held, rfl⟩
  pinsLeft := twins.pinsLeft
  pinsRight := twins.pinsRight
  same _ := by
    obtain ⟨rfl, identity, total, -⟩ := twins.same same
    exact ⟨rfl, identity, total, wrapped⟩
  apart differ := absurd same differ

namespace Lockstep

variable {terms : Terms} {pairing : Pairing} {object object' : Value}

theorem removeProperty (objects : object.Alike pairing object')
    (typed : terms.strict → object.type = .object) (key : String) :
    Lockstep terms.spaces pairing (fun larger => Option.Rel (Value.Alike larger))
      (Space.removeProperty object key) (Space.removeProperty object' key) := by
  refine (ask fun _ _ _ grown _ => Answers.objectHandle (objects.mono grown) typed).bind
    fun larger grown source target paired => ?_
  have read : Lockstep terms.spaces larger (fun larger => Option.Rel (Value.Alike larger))
      (Act.ask fun space => do return (← space.objectData source).properties.get? key)
      (Act.ask fun space => do return (← space.objectData target).properties.get? key) :=
    ask fun _ _ _ grown' twins =>
      (Answers.objectData twins (grown' _ _ _ paired)).map fun _ _ both => both.properties key
  refine read.bind fun larger' grown' old old' found => ?_
  let cleared (data : ObjectData) := { data with properties := data.properties.erase key }
  have erased : Lockstep terms.spaces larger' Equal (Space.updateObject source cleared)
      (Space.updateObject target cleared) :=
    updateObject (grown' _ _ _ paired) fun _ data others _ both =>
      { both with properties := both.properties.erase key }
  refine erased.bind fun larger'' grown'' _ _ _ => pure fun _ wider => ?_
  cases found with
  | none => exact .none
  | some alike => exact .some (alike.mono (grown''.trans wider))

theorem wrapObject (same : terms.same) (loose : ¬ terms.strict)
    (objects : object.Alike pairing object') (host : Nat) (setter : Option Nat)
    {captures captures' : List Value} (alike : Value.AllAlike pairing captures captures') :
    Lockstep terms.spaces pairing Equal (Space.wrapObject object host setter captures)
      (Space.wrapObject object' host setter captures') := by
  refine (ask fun _ _ _ grown _ => Answers.objectHandle (objects.mono grown)
    fun strict => absurd strict loose).bind fun larger grown source target paired => ?_
  intro wider left right grown' twins
  obtain ⟨rfl, identity, -, wrapped⟩ := Twins.same twins same
  cases identity (grown' _ _ _ paired)
  have captured := alike.mono (grown.trans grown')
  cases captured.eq fun _ _ _ => identity
  simp only [Act.bind_apply, Act.ask]
  cases left.wraps.get? source with
  | some existing =>
    exact .early (le_refl _) twins ⟨fun strict => absurd strict loose,
      fun strict => absurd strict loose⟩
  | none =>
    refine .value (le_refl _) (Twins.rewrap twins same _ fun {handle wrapping} found => ?_) rfl
    rw [Table.get?_insert] at found
    split at found
    · next here =>
      subst here
      cases found
      exact ⟨grown' _ _ _ paired, captured⟩
    · exact wrapped found

private theorem eventMethod (objects : object.Alike pairing object')
    (typed : terms.strict → object.type = .object) (name : String) (arity : Nat)
    {body : NativeBody} (event : body.IsEvent) :
    Lockstep terms.spaces pairing
      (fun larger member member' => member.1 = member'.1 ∧ member.2.Alike larger member'.2)
      (Space.eventMethod object name arity body) (Space.eventMethod object' name arity body) := by
  have alike : NativeFunction.Alike terms.strict pairing ⟨name, some arity, [object], body⟩
      ⟨name, some arity, [object'], body⟩ := by
    refine ⟨rfl, rfl, .cons objects .nil, rfl, event, fun strict => ?_⟩
    obtain ⟨source, target, rfl, -⟩ := objects.of_object (typed strict)
    exact ⟨source, rfl⟩
  exact (allocateNative alike).bind fun _ _ _ _ values => pure fun _ grown =>
    ⟨rfl, values.mono grown⟩

theorem eventMethods (objects : object.Alike pairing object')
    (typed : terms.strict → object.type = .object) :
    Lockstep terms.spaces pairing
      (fun larger => List.Forall₂ fun member member' =>
        member.1 = member'.1 ∧ member.2.Alike larger member'.2)
      (Space.eventMethods object) (Space.eventMethods object') := by
  refine (eventMethod objects typed "on" 2 (Or.inl rfl)).bind fun first grown _ _ on => ?_
  refine (eventMethod (objects.mono grown) typed "off" 1 (Or.inr (Or.inl rfl))).bind
    fun second grown' _ _ off => ?_
  refine (eventMethod (objects.mono (grown.trans grown')) typed "trigger" 2
    (Or.inr (Or.inr rfl))).bind fun third grown'' _ _ trigger => pure fun last wider => ?_
  refine .cons ⟨on.1, on.2.mono (grown'.trans (grown''.trans wider))⟩ ?_
  refine .cons ⟨off.1, off.2.mono (grown''.trans wider)⟩ ?_
  exact .cons ⟨trigger.1, trigger.2.mono wider⟩ .nil

theorem assignProperties (objects : object.Alike pairing object')
    (typed : terms.strict → object.type = .object) {members members' : List (String × Value)}
    (alike : List.Forall₂ (fun member member' =>
      member.1 = member'.1 ∧ member.2.Alike pairing member'.2) members members') :
    Lockstep terms.spaces pairing Equal (Space.assignProperties object members)
      (Space.assignProperties object' members') := by
  induction alike with
  | nil => exact pure fun _ _ => rfl
  | @cons member member' rest rest' head _ ih =>
    obtain ⟨key, value⟩ := member
    obtain ⟨key', value'⟩ := member'
    obtain ⟨rfl, values⟩ := head
    exact (assignProperty objects typed key values).bind fun _ grown _ _ _ => ih.mono grown

theorem wrapInstance (same : terms.same) (loose : ¬ terms.strict) {entry : ClassDef}
    (properties : entry.properties.Alike (Value.Alike pairing) entry.properties)
    (captures : Value.AllAlike pairing entry.captures entry.captures) (host : Nat)
    {extra : List (String × Value)} (given : List.Forall₂ (fun member member' =>
      member.1 = member'.1 ∧ member.2.Alike pairing member'.2) extra extra) :
    Lockstep terms.spaces pairing Value.Alike (Space.wrapInstance entry host extra)
      (Space.wrapInstance entry host extra) := by
  have data : ObjectData.Alike pairing
      { properties := entry.properties.insertAll extra, className := some entry.name }
      { properties := entry.properties.insertAll extra, className := some entry.name } :=
    ⟨.insertAll given properties, rfl, .none, rfl, .empty⟩
  refine (allocateObject data).bind fun larger grown object object' objects => ?_
  have tied : ∀ wider, larger ≤ wider → Lockstep terms.spaces wider Value.Alike
      (do
        Space.wrapObject object host entry.setter entry.captures
        return object)
      (do
        Space.wrapObject object' host entry.setter entry.captures
        return object') := by
    intro wider grown'
    have captured := captures.mono (grown.trans grown')
    refine (wrapObject same loose (objects.1.mono grown') host entry.setter captured).bind
      fun _ grown'' _ _ _ => pure fun _ last => ?_
    exact objects.1.mono (grown'.trans (grown''.trans last))
  dsimp only
  split
  · refine (eventMethods objects.1 fun _ => objects.2).bind fun _ grown' _ _ methods => ?_
    refine (assignProperties (objects.1.mono grown') (fun _ => objects.2) methods).bind
      fun _ grown'' _ _ _ => ?_
    exact tied _ (grown'.trans grown'')
  · exact tied _ (le_refl _)

end Lockstep

end ScriptEngine
