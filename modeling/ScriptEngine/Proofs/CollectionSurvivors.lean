import ScriptEngine.Proofs.Collection
import ScriptEngine.Proofs.SoundSpaces

set_option autoImplicit false

namespace ScriptEngine

namespace Space

variable {strict rooted : Prop} {space after : Space}

/-- A space that has lost some of its objects and ties, but nothing that is still referred to. -/
structure Remainder (space after : Space) : Prop where
  tidy : after.Tidy
  kept : ∀ {handle payload}, after.get? handle = some payload →
    space.get? handle = some payload
  closed : ∀ {source target payload}, after.get? source = some payload →
    space.Refers source target → after.get? target = space.get? target
  wraps : ∀ {handle wrapping}, after.wraps.get? handle = some wrapping →
    space.wraps.get? handle = some wrapping ∧ after.get? handle = space.get? handle

theorem Remainder.of_get? (tidy : after.Tidy)
    (same : ∀ handle, after.get? handle = space.get? handle)
    (wraps : ∀ {handle wrapping}, after.wraps.get? handle = some wrapping →
      space.wraps.get? handle = some wrapping) : Remainder space after where
  tidy := tidy
  kept held := (same _).symm.trans held
  closed _ _ := same _
  wraps found := ⟨wraps found, same _⟩

theorem Remainder.pin (tidy : space.Tidy) (handle : Handle) :
    Remainder space (space.pin handle) :=
  .of_get? (tidy.congr rfl rfl rfl) (fun _ => rfl) id

theorem refers_of_mem {source target : Handle} {payload : Payload}
    (held : space.get? source = some payload) (member : target ∈ payload.references) :
    space.Refers source target :=
  (mem_edges_iff held).mp (List.mem_append_left _ member)

theorem Remainder.depth (remainder : Remainder space after) {depth : Nat} {context : ContextRef}
    (chain : Depth space depth context) (live : after.contains context.handle = true) :
    Depth after depth context := by
  induction chain with
  | @last context payload held final =>
    obtain ⟨payload', held'⟩ := Option.isSome_iff_exists.mp live
    rw [remainder.kept held', Option.some.injEq] at held
    subst held
    exact .last held' final
  | @child depth context parent payload held above rest ih =>
    obtain ⟨payload', held'⟩ := Option.isSome_iff_exists.mp live
    rw [remainder.kept held', Option.some.injEq] at held
    subst held
    refine .child held' above (ih ?_)
    have refers : space.Refers context.handle parent.handle := by
      cases payload' with
      | context data => exact .parent (remainder.kept held') above
      | array | object | function | native => cases above
    have parentLive : (space.get? parent.handle).isSome = true := by
      cases rest with
      | last held | child held => rw [held]; rfl
    rw [contains, remainder.closed held' refers]
    exact parentLive

theorem diagonal_congr {role : Role} {source target : Handle}
    (same : after.get? source = space.get? source)
    (paired : space.diagonal role source target) : after.diagonal role source target := by
  obtain ⟨rfl, payload, held, kind⟩ := paired
  exact ⟨rfl, payload, same.trans held, kind⟩

theorem Healthy.remainder (healthy : space.Healthy strict rooted)
    (remainder : Remainder space after) : after.Healthy strict rooted where
  tidy := remainder.tidy
  sound := by
    constructor
    · intro handle payload held
      have before := remainder.kept held
      have alike : payload.Alike strict after.diagonal payload := by
        refine (healthy.alike before).transfer fun role source target member paired => ?_
        exact diagonal_congr (remainder.closed held (refers_of_mem before member)) paired
      exact fitsPayload_of_alike alike
    · intro handle wrapping found
      obtain ⟨wrapped, same⟩ := remainder.wraps found
      obtain ⟨⟨data, before⟩, captures⟩ := healthy.sound.wrapped wrapped
      have held := same.trans before
      refine ⟨⟨data, held⟩, allFit_iff.mpr ?_⟩
      refine (allFit_iff.mp captures).transfer fun role source target member paired => ?_
      obtain ⟨value, captured, points⟩ := mem_valueHandles.mp member
      exact diagonal_congr
        (remainder.closed held (.hookCapture before wrapped captured points)) paired
  natives held := healthy.natives (remainder.kept held)
  owned holds _ _ held := healthy.owned holds (remainder.kept held)
  closures holds _ _ held := healthy.closures holds (remainder.kept held)
  grounded holds := by
    intro context present
    obtain ⟨data, held⟩ := present
    obtain ⟨depth, chain⟩ := healthy.grounded holds context ⟨data, remainder.kept held⟩
    exact ⟨depth, remainder.depth chain (by simp [contains, held])⟩

/-- A collection leaves a remainder, and all that its roots stand for is in it. -/
theorem remainder_collect (tidy : space.Tidy) (extra : List Handle) :
    Remainder space (space.collect extra).2 ∧
      ∀ handle, Root space extra handle →
        (space.collect extra).2.get? handle = space.get? handle := by
  by_cases busy : space.inExecution = true
  · rw [collect_deferred busy]
    exact ⟨.of_get? (tidy.congr rfl rfl rfl) (fun _ => rfl) id, fun _ _ => rfl⟩
  · have done := collected tidy (by simpa using busy) extra
    have reached : ∀ {handle payload}, (space.collect extra).2.get? handle = some payload →
        Reached space (Root space extra) handle := by
      intro handle payload held
      by_contra lost
      rw [done.reclaims handle lost] at held
      cases held
    have stays : ∀ {handle}, (space.contains handle = true →
        Reached space (Root space extra) handle) →
        (space.collect extra).2.get? handle = space.get? handle := by
      intro handle arrives
      by_cases live : space.contains handle = true
      · exact done.survives handle (arrives live)
      · rw [done.reclaims handle fun arrived => live arrived.live]
        simpa [contains] using Eq.symm (Option.not_isSome_iff_eq_none.mp live)
    refine ⟨⟨done.tidy, ?_, ?_, ?_⟩, ?_⟩
    · intro handle payload held
      rw [← done.survives handle (reached held)]
      exact held
    · intro source target payload held refers
      exact stays fun live => .follow (reached held) refers live
    · intro handle wrapping found
      obtain ⟨wrapped, arrives⟩ := (done.wraps handle wrapping).mp found
      exact ⟨wrapped, stays arrives⟩
    · intro handle root
      exact stays fun live => .start root live

end Space

section References

variable {strict : Prop} {pairing : Pairing}

/-- Both lists hold the same number of handles, one paired with the other in order. -/
private abbrev Pairing.AllPaired (pairing : Pairing) : List Handle → List Handle → Prop :=
  List.Forall₂ fun source target => ∃ role, pairing role source target

private theorem allPaired_valueHandles {left right : List Value}
    (alike : Value.AllAlike pairing left right) :
    pairing.AllPaired (valueHandles left) (valueHandles right) := by
  induction alike with
  | nil => exact .nil
  | cons head _ ih =>
    unfold valueHandles at ih ⊢
    cases head with
    | scalar plain => simpa only [List.filterMap_cons, plain] using ih
    | array paired | object paired | callable paired => exact .cons ⟨_, paired⟩ ih

private theorem forall₂_values {α β : Type} {alike : α → β → Prop} {left : Table String α}
    {right : Table String β} (same : left.Alike alike right) :
    List.Forall₂ alike left.values right.values := by
  unfold Table.values
  rw [List.forall₂_map_left_iff, List.forall₂_map_right_iff]
  exact same.entries.imp fun _ _ both => both.2

private theorem allPaired_context {left right : Option ContextRef}
    (alike : Option.Rel (ContextRef.Alike pairing) left right) :
    pairing.AllPaired (left.toList.map (·.handle)) (right.toList.map (·.handle)) := by
  cases alike with
  | none => exact .nil
  | some paired => exact .cons ⟨_, paired⟩ .nil

private theorem Payload.Alike.references {payload other : Payload}
    (alike : payload.Alike strict pairing other) :
    pairing.AllPaired payload.references other.references := by
  cases alike with
  | array items => exact allPaired_valueHandles items
  | object data =>
    refine List.rel_append (List.rel_append ?_ ?_) ?_
    · exact allPaired_valueHandles (forall₂_values data.properties)
    · exact allPaired_context data.context
    · exact allPaired_valueHandles (List.rel_flatten (forall₂_values data.listeners))
  | function closures => exact .cons ⟨_, closures.context⟩ .nil
  | native callees => exact allPaired_valueHandles callees.captures
  | context data =>
    refine List.rel_append (allPaired_context data.parent?) (allPaired_valueHandles ?_)
    unfold Value.AllAlike
    rw [List.forall₂_map_left_iff, List.forall₂_map_right_iff]
    exact (forall₂_values data.bindings).imp fun _ _ both => both.value

end References

/-- The terms of two spaces of one script that differ in their collections. -/
def Terms.between (left right : Space) : Terms where
  same := False
  strict := True
  rooted := True
  leftPins := left.pins
  rightPins := right.pins
  settled := Or.inr trivial

/-- The pairs of which both sides are left. -/
def Pairing.within (pairing : Pairing) (left right : Space) : Pairing :=
  fun role source target =>
    pairing role source target ∧ left.contains source = true ∧ right.contains target = true

namespace Twins

variable {start start' left right left' right' : Space} {pairing : Pairing}

private theorem within_of_mem (twins : Twins (.between start start') pairing left right)
    (leftPart : Space.Remainder left left') (rightPart : Space.Remainder right right')
    {source target : Handle} {payload other : Payload} (held : left'.get? source = some payload)
    (held' : right'.get? target = some other) (alike : payload.Alike True pairing other)
    {role : Role} {next next' : Handle} (member : next ∈ payload.references)
    (paired : pairing role next next') : pairing.within left' right' role next next' := by
  have refers := Space.refers_of_mem (leftPart.kept held) member
  have unique : Relator.BiUnique fun source target => ∃ role, pairing role source target :=
    ⟨fun _ _ _ ⟨_, first⟩ ⟨_, second⟩ => twins.injective first second,
      fun _ _ _ ⟨_, first⟩ ⟨_, second⟩ => twins.functional first second⟩
  have member' := (List.rel_mem unique ⟨role, paired⟩ alike.references).mp member
  have refers' := Space.refers_of_mem (rightPart.kept held') member'
  refine ⟨paired, ?_, ?_⟩
  · rw [Space.contains, leftPart.closed held refers]
    exact twins.live_left paired
  · rw [Space.contains, rightPart.closed held' refers']
    exact twins.live_right paired

/-- The remainders of twins are twins. -/
theorem remainder (twins : Twins (.between start start') pairing left right)
    (leftPart : Space.Remainder left left') (rightPart : Space.Remainder right right') :
    Twins (.between left' right') (pairing.within left' right') left' right' where
  tidyLeft := leftPart.tidy
  tidyRight := rightPart.tidy
  payloads := by
    intro role source target left
    obtain ⟨paired, live, live'⟩ := left
    obtain ⟨payload, held⟩ := Option.isSome_iff_exists.mp live
    obtain ⟨other, held'⟩ := Option.isSome_iff_exists.mp live'
    obtain ⟨payload', other', before, before', kind, alike⟩ := twins.payloads paired
    cases (leftPart.kept held).symm.trans before
    cases (rightPart.kept held').symm.trans before'
    refine ⟨payload, other, held, held', kind, alike.transfer fun _ _ _ member paired' => ?_⟩
    exact twins.within_of_mem leftPart rightPart held held' alike member paired'
  functional paired paired' := twins.functional paired.1 paired'.1
  injective paired paired' := twins.injective paired.1 paired'.1
  rooted _ _ _ paired := by
    obtain ⟨paired, live, live'⟩ := paired
    obtain ⟨⟨depth, chain⟩, depth', chain'⟩ := twins.rooted trivial paired
    exact ⟨⟨depth, leftPart.depth chain live⟩, depth', rightPart.depth chain' live'⟩
  pinsLeft := rfl
  pinsRight := rfl
  same := False.elim
  apart differ handle := by
    obtain ⟨none, none'⟩ := twins.apart differ handle
    constructor
    · cases found : left'.wraps.get? handle with
      | none => rfl
      | some wrapping =>
        rw [(leftPart.wraps found).1] at none
        cases none
    · cases found : right'.wraps.get? handle with
      | none => rfl
      | some wrapping =>
        rw [(rightPart.wraps found).1] at none'
        cases none'

end Twins

end ScriptEngine
