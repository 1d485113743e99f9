import ScriptEngine.Proofs.UndisturbedObjects

set_option autoImplicit false

namespace ScriptEngine

/-- The handles that an action ties to a host while they stand for no live object. -/
def SpaceAction.strays (space : Space) {α : Type} : SpaceAction α → List Handle
  | .wrapObject (.object handle) _ _ _ =>
    if space.kind? handle = some .object then [] else [handle]
  | _ => []

namespace Space

section Actions

variable {α : Type} {space before after : Space} {handle : Handle} {wrapping : Wrapping}

private theorem Edits.wraps {operation : SpaceM α} (edits : Edits operation) (space : Space) :
    (operation space).2.wraps = space.wraps := by
  have keeps : Act.Keeps (fun other : Space => other.wraps = space.wraps) operation :=
    edits.keeps fun edit same => edit.sameTies.wraps.trans same
  exact keeps space rfl

private theorem wraps_newGlobal (path source : String) (separator : Char) (space : Space) :
    (newGlobal path source separator space).2.wraps = space.wraps := by
  have allocate : ∀ payload, Act.Keeps (fun other => other.wraps = space.wraps)
      (Space.allocate payload) := fun payload other same =>
    (sameTies_allocate payload other (.refl other)).wraps.trans same
  have keeps : Act.Keeps (fun other => other.wraps = space.wraps)
      (newGlobal path source separator) := by
    refine ((allocate _).bind fun _ => Act.Keeps.pure _).bind fun context => ?_
    refine (Act.Keeps.modify fun _ same => ?_).bind fun _ => Act.Keeps.pure _
    exact same
  exact keeps space rfl

private theorem wraps_unpin (space : Space) (handle : Handle) :
    (space.unpin handle).wraps = space.wraps := by
  unfold unpin
  split
  · rfl
  · split
    · rfl
    · rfl

private theorem wrapped_of_wrapObject (object : Value) (host : Nat) (setter : Option Nat)
    (captures : List Value)
    (tied : (wrapObject object host setter captures space).2.wraps.get? handle = some wrapping) :
    space.wraps.get? handle = some wrapping ∨ space.kind? handle = some .object ∨
      handle ∈ (SpaceAction.wrapObject object host setter captures).strays space := by
  cases object with
  | undefined | null | bool | int | float | string | array | callable => exact .inl tied
  | object target =>
    simp only [wrapObject, objectHandle, Act.bind_apply, Act.ask] at tied
    cases existing : space.wraps.get? target with
    | some other =>
      rw [existing] at tied
      exact .inl tied
    | none =>
      rw [existing] at tied
      replace tied : (space.wraps.insert target ⟨host, setter, captures⟩).get? handle =
        some wrapping := tied
      rw [Table.get?_insert] at tied
      split at tied
      · next same =>
        subst same
        by_cases live : space.kind? handle = some .object
        · exact .inr (.inl live)
        · exact .inr (.inr (by simp [SpaceAction.strays, live]))
      · exact .inl tied

private theorem wrapped_of_unlink (object : Value)
    (tied : (unlink object space).2.wraps.get? handle = some wrapping) :
    space.wraps.get? handle = some wrapping := by
  cases object with
  | undefined | null | bool | int | float | string | array | callable => exact tied
  | object target =>
    replace tied : (space.wraps.erase target).get? handle = some wrapping := tied
    rw [Table.get?_erase] at tied
    split at tied
    · cases tied
    · exact tied

private theorem wrapped_of_collect (tidy : space.Tidy) (extra : List Handle)
    (tied : (space.collect extra).2.wraps.get? handle = some wrapping) :
    space.wraps.get? handle = some wrapping := by
  by_cases busy : space.inExecution = true
  · rw [collect_deferred busy] at tied
    exact tied
  · exact (((collected tidy (by simpa using busy) extra).wraps handle wrapping).mp tied).1

/-- A tie that is there after an action was there before, or else the action has made it, under the
handle of a live object or under a stray one. -/
theorem wrapped_of_run (tidy : space.Tidy) (action : SpaceAction α)
    (tied : (action.run space).2.wraps.get? handle = some wrapping) :
    space.wraps.get? handle = some wrapping ∨ space.kind? handle = some .object ∨
      handle ∈ action.strays space := by
  have unchanged : (action.run space).2.wraps = space.wraps →
      space.wraps.get? handle = some wrapping := fun same => same ▸ tied
  cases action with
  | wrapObject object host setter captures =>
    exact wrapped_of_wrapObject object host setter captures tied
  | unlink object => exact .inl (wrapped_of_unlink object tied)
  | collect extra => exact .inl (wrapped_of_collect tidy extra tied)
  | allocateArray items => exact .inl (unchanged ((edits_allocateArray items).wraps space))
  | allocateObject data => exact .inl (unchanged ((edits_allocateObject data).wraps space))
  | allocateFunction closure =>
    exact .inl (unchanged ((edits_allocateFunction closure).wraps space))
  | allocateNative callee => exact .inl (unchanged ((edits_allocateNative callee).wraps space))
  | updateArray array change =>
    exact .inl (unchanged ((edits_updateArray array change).wraps space))
  | newGlobal path source separator =>
    exact .inl (unchanged (wraps_newGlobal path source separator space))
  | releaseGlobal context => exact .inl (unchanged (wraps_unpin space context.handle))
  | fork parent site => exact .inl (unchanged ((edits_fork parent site).wraps space))
  | define context name value mutability =>
    exact .inl (unchanged ((edits_define context name value mutability).wraps space))
  | assign context name value =>
    exact .inl (unchanged ((edits_assign context name value).wraps space))
  | addSourceLine context line => exact .inl (unchanged ((edits_updateLines context _).wraps space))
  | addSourceLines context lines =>
    exact .inl (unchanged ((edits_updateLines context _).wraps space))
  | putProperty object key value =>
    exact .inl (unchanged ((edits_putProperty object key value).wraps space))
  | assignProperty object key value =>
    exact .inl (unchanged ((edits_assignProperty object key value).wraps space))
  | removeProperty object key =>
    exact .inl (unchanged ((edits_removeProperty object key).wraps space))
  | addListener object event callback =>
    exact .inl (unchanged ((edits_addListener object event callback).wraps space))
  | removeListeners object event =>
    exact .inl (unchanged ((edits_removeListeners object event).wraps space))
  | unpin handle => exact .inl (unchanged (wraps_unpin space handle))
  | pin _ | addProvider _ | setProvider _ _ | dropProvider _ => exact .inl (unchanged rfl)

/-- An object with a tie goes away only together with the tie. -/
theorem kind?_of_run (tidy : space.Tidy) (action : SpaceAction α)
    (live : space.kind? handle = some .object)
    (tied : (action.run space).2.wraps.contains handle = true) :
    (action.run space).2.kind? handle = some .object := by
  rcases run_cases action with ⟨extra, collects⟩ | calm
  · rw [collects] at tied ⊢
    by_cases busy : space.inExecution = true
    · rw [collect_deferred busy]
      exact live
    · have done := collected tidy (by simpa using busy) extra
      obtain ⟨wrapping, found⟩ := Option.isSome_iff_exists.mp tied
      obtain ⟨payload, held, -⟩ := Option.map_eq_some_iff.mp live
      have reached := ((done.wraps handle wrapping).mp found).2 (by simp [contains, held])
      rw [kind?, done.survives handle reached]
      exact live
  · have undisturbed :=
      calm (Undisturbed space) undisturbed_allocate .edit .rewire space tidy.undisturbed
    exact undisturbed.later.kept handle .object live

end Actions

/-- Where the operations of a host have led to, and the handles that were stray when the host tied
them. -/
inductive Past : List Handle → Space → Prop where
  | start : Past [] {}
  | act {strays : List Handle} {space : Space} {α : Type} (past : Past strays space)
      (action : SpaceAction α) : Past (action.strays space ++ strays) (action.run space).2
  | enter {strays : List Handle} {space : Space} (past : Past strays space) :
      Past strays space.enterExecution
  | leave {strays : List Handle} {space : Space} (past : Past strays space) :
      Past strays space.leaveExecution

/-- Every tie is under the handle of a live object, or under a stray one. -/
structure Accounted (strays : List Handle) (space : Space) : Prop where
  tidy : space.Tidy
  live : ∀ handle, space.wraps.contains handle = true →
    space.kind? handle = some .object ∨ handle ∈ strays

section Pasts

variable {α : Type} {strays : List Handle} {space : Space}

theorem Accounted.act (accounted : Accounted strays space) (action : SpaceAction α) :
    Accounted (action.strays space ++ strays) (action.run space).2 := by
  refine ⟨keeps_run action space accounted.tidy, fun handle tied => ?_⟩
  rw [List.mem_append]
  obtain ⟨wrapping, found⟩ := Option.isSome_iff_exists.mp tied
  rcases wrapped_of_run accounted.tidy action found with old | live | stray
  · rcases accounted.live handle (Option.isSome_iff_exists.mpr ⟨wrapping, old⟩) with live | stray
    · exact .inl (kind?_of_run accounted.tidy action live tied)
    · exact .inr (.inr stray)
  · exact .inl (kind?_of_run accounted.tidy action live tied)
  · exact .inr (.inl stray)

theorem Past.accounted (past : Past strays space) : Accounted strays space := by
  induction past with
  | start => exact ⟨tidy_empty, nofun⟩
  | act _ action accounted => exact accounted.act action
  | enter _ accounted | leave _ accounted =>
    exact ⟨accounted.tidy.congr rfl rfl rfl, accounted.live⟩

end Pasts

/-- A tie is never left behind by the object that it was made for. What is tied and not live was
tied under a handle that was stale by then, and nothing is, where no such tie was made. -/
theorem ties_of_live_objects {strays : List Handle} {space : Space} (past : Past strays space) :
    (∀ handle, space.wraps.contains handle = true → handle ∉ strays →
      space.kind? handle = some .object) ∧
    (∀ handle, space.contains handle = false → handle ∉ strays →
      space.wraps.get? handle = none ∧ space.wrappedHost? (.object handle) = none) := by
  have live : ∀ handle, space.wraps.contains handle = true → handle ∉ strays →
      space.kind? handle = some .object := by
    intro handle tied known
    exact (past.accounted.live handle tied).resolve_right known
  refine ⟨live, fun handle reclaimed known => ?_⟩
  have untied : space.wraps.get? handle = none := by
    rw [← Option.not_isSome_iff_eq_none]
    intro tied
    obtain ⟨payload, held, -⟩ := Option.map_eq_some_iff.mp (live handle tied known)
    simp [contains, held] at reclaimed
  exact ⟨untied, by simp [wrappedHost?, Value.handle?, untied]⟩

private def bare : ObjectData := { properties := ∅ }

/-- Two objects with a host each. The first is pinned and the second was reclaimed. -/
private def widowed : Space :=
  let first : Space := ((SpaceAction.allocateObject bare).run {}).2
  let second := ((SpaceAction.allocateObject bare).run first).2
  let tied := ((SpaceAction.wrapObject (.object ⟨0, 0⟩) 1 none []).run second).2
  let both := ((SpaceAction.wrapObject (.object ⟨1, 0⟩) 2 none [.object ⟨0, 0⟩]).run tied).2
  ((SpaceAction.collect []).run ((SpaceAction.pin ⟨0, 0⟩).run both).2).2

theorem ties_of_widowed :
    Past [] widowed ∧ widowed.wrappedHost? (.object ⟨0, 0⟩) = some 1 ∧
    widowed.kind? ⟨0, 0⟩ = some .object ∧ widowed.contains ⟨1, 0⟩ = false ∧
    widowed.wrappedHost? (.object ⟨1, 0⟩) = none := by
  have past : Past [] widowed :=
    (((((Past.start.act (.allocateObject bare)).act (.allocateObject bare)).act
      (.wrapObject (.object ⟨0, 0⟩) 1 none [])).act
      (.wrapObject (.object ⟨1, 0⟩) 2 none [.object ⟨0, 0⟩])).act (.pin ⟨0, 0⟩)).act (.collect [])
  have tied : widowed.wrappedHost? (.object ⟨0, 0⟩) = some 1 := by decide +kernel
  have reclaimed : widowed.contains ⟨1, 0⟩ = false := by decide +kernel
  have main := ties_of_live_objects past
  refine ⟨past, tied, main.1 ⟨0, 0⟩ ?_ (by simp), reclaimed, (main.2 _ reclaimed (by simp)).2⟩
  decide +kernel

/-- An object that was reclaimed before it was given a host. -/
private def strayed : Space :=
  let made : Space := ((SpaceAction.allocateObject bare).run {}).2
  ((SpaceAction.collect []).run made).2

/-- A tie is made for an object that is gone already, and the next collection does not cut it. -/
theorem stray_tie_stays :
    (SpaceAction.allocateObject bare).run {} =
      (.ok (.object ⟨0, 0⟩), ((SpaceAction.allocateObject bare).run {}).2) ∧
    Past [] strayed ∧ strayed.contains ⟨0, 0⟩ = false ∧
    ((SpaceAction.wrapObject (.object ⟨0, 0⟩) 7 none []).run strayed).1 = .ok () ∧
    (let tied := ((SpaceAction.wrapObject (.object ⟨0, 0⟩) 7 none []).run strayed).2
     let later := ((SpaceAction.collect []).run tied).2
     tied.wraps.contains ⟨0, 0⟩ = true ∧ tied.kind? ⟨0, 0⟩ = none ∧
      later.wrappedHost? (.object ⟨0, 0⟩) = some 7) := by
  refine ⟨rfl, (Past.start.act (.allocateObject bare)).act (.collect []), ?_, ?_, ?_, ?_, ?_⟩
  all_goals decide +kernel

end Space

end ScriptEngine
