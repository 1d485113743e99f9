import ScriptEngine.Proofs.Collection
import ScriptEngine.Proofs.PermittedTrees
import ScriptEngine.Proofs.Journal

set_option autoImplicit false

namespace ScriptEngine

/-- The question to a hook that the note is about, if it concerns this object. -/
def Note.hookCall? (object : Handle) : Note → Option HookCall
  | .hook call =>
    match call.write.object with
    | .object other => if other = object then some call else none
    | _ => none
  | _ => none

/-- The write that the note is about, if it goes to a property of this object, in the form in which
the hook gets to see it. -/
def Note.propertyWrite? (object : Handle) (number : Nat) (captures : List Value) :
    Note → Option HostWrite
  | .write (.property (.object other) key) value site =>
    if other = object then some ⟨number, .object object, key, value, site, captures⟩ else none
  | _ => none

/-- What the answer of a hook makes of the properties. -/
def HookCall.settle (properties : Table String Value) (call : HookCall) : Table String Value :=
  match call.answer with
  | .store value => properties.insert call.write.key value
  | .absorb | .reject _ | .abort _ => properties

/-- An object with a hook. -/
structure Hooked (space : Space) where
  object : Handle
  number : Nat
  setter : Nat
  captures : List Value
  data : ObjectData
  held : space.get? object = some (.object data)
  wrapped : space.wraps.get? object = some ⟨number, some setter, captures⟩

namespace Charter.Upheld

variable {charter : Charter} {space after : Space} {free : Handle → Prop}

/-- An object that is not a free one keeps its properties. -/
theorem properties_of_change (upheld : charter.Upheld space)
    (change : charter.Change free space after) {handle : Handle} (fixed : ¬ free handle)
    {properties : Table String Value}
    (before : (space.get? handle).bind Payload.properties? = some properties) :
    (after.get? handle).bind Payload.properties? = some properties := by
  cases change with
  | @allocate payload admitted =>
    rcases upheld.tidy.allocate payload with ⟨made, after, done, -, fresh, placed⟩ | ⟨failed, -⟩
    · rw [done, placed.elsewhere handle ?_]
      · exact before
      · rintro rfl
        rw [fresh] at before
        cases before
    · rw [failed]
      exact before
  | @revise _ revised old payload held inside revision kept =>
    obtain ⟨after, stored, -, placed⟩ :=
      upheld.tidy.store payload (Option.isSome_iff_exists.mpr ⟨old, held⟩)
    rw [stored]
    by_cases same : handle = revised
    · subst same
      rw [held] at before
      rw [placed.here]
      exact (kept.resolve_left fixed).trans before
    · rw [placed.elsewhere handle same]
      exact before
  | count executions => exact before

theorem putProperty (upheld : charter.Upheld space) {handle : Handle}
    (inside : charter.inside handle) {properties : Table String Value}
    (before : (space.get? handle).bind Payload.properties? = some properties) (key : String)
    {value : Value} (within : value.Within charter.inside) :
    ∃ after, Space.putProperty handle key value space = (.ok (), after) ∧ charter.Upheld after ∧
      (after.get? handle).bind Payload.properties? = some (properties.insert key value) := by
  obtain ⟨payload, held, properties⟩ := Option.bind_eq_some_iff.mp before
  cases payload with
  | array | function | native | context => cases properties
  | object data =>
    cases properties
    obtain ⟨after, stored, -, placed⟩ := upheld.tidy.store
      (.object { data with properties := data.properties.insert key value })
      (Option.isSome_iff_exists.mpr ⟨_, held⟩)
    have put : Space.putProperty handle key value space = (.ok (), after) := by
      simp only [Space.putProperty, Space.updateObject, Act.bind_apply, Act.ask,
        Space.objectData_eq_ok_iff.mpr held]
      exact stored
    have obeys : Obeys charter (fun _ => True) (fun _ => True)
        (Space.putProperty handle key value) := .putProperty inside trivial key within
    have path := (obeys space upheld).1
    rw [put] at path
    refine ⟨after, put, upheld.changes path, ?_⟩
    rw [placed.here]
    rfl

end Charter.Upheld

theorem Space.nameFunction_fault {space after : Space} {value : Value} {name : String}
    {fault : Fault} (failed : Space.nameFunction value name space = (.error fault, after)) :
    ∃ target, value = .callable target ∧ space.get? target = none ∧
      fault = .staleHandle target ∧ after = space := by
  cases value with
  | undefined | null | bool | int | float | string | array | object => cases failed
  | callable target =>
    simp only [Space.nameFunction, Act.bind_apply, Act.ask, Space.get] at failed
    cases held : space.get? target with
    | none =>
      rw [held] at failed
      cases failed
      exact ⟨target, rfl, held, rfl, rfl⟩
    | some payload =>
      rw [held] at failed
      cases payload with
      | array | object | native | context => cases failed
      | function closure =>
        dsimp only at failed
        split at failed
        · have live : space.contains target = true := Option.isSome_iff_exists.mpr ⟨_, held⟩
          rw [Space.store, if_pos live] at failed
          cases failed
        · cases failed

namespace Hooked

variable {start : Space} (hooked : Hooked start)

/-- The questions about the object that were put to hooks. -/
def calls (notes : List Note) : List HookCall := notes.filterMap (Note.hookCall? hooked.object)

/-- The writes to properties of the object. -/
def writes (notes : List Note) : List HostWrite :=
  notes.filterMap (Note.propertyWrite? hooked.object hooked.number hooked.captures)

/-- By the journal the right hook was asked, and the object has what came of it. -/
structure Attended (notes : List Note) (space : Space) : Prop where
  setters : ∀ call ∈ hooked.calls notes, call.setter = hooked.setter
  properties : (space.get? hooked.object).bind Payload.properties? =
    some ((hooked.calls notes).foldl HookCall.settle hooked.data.properties)

theorem attended_iff {notes : List Note} {space : Space} : hooked.Attended notes space ↔
    (∀ call ∈ hooked.calls notes, call.setter = hooked.setter) ∧
      (space.get? hooked.object).bind Payload.properties? =
        some ((hooked.calls notes).foldl HookCall.settle hooked.data.properties) :=
  ⟨fun attended => ⟨attended.setters, attended.properties⟩, fun both => ⟨both.1, both.2⟩⟩

/-- The last write has not come to the hook, since its value is a callable that is not there any
more. -/
def Cut (fault : Fault) (notes : List Note) (space : Space) : Prop :=
  ∃ last target, hooked.writes notes = (hooked.calls notes).map (·.write) ++ [last] ∧
    last.value = .callable target ∧ space.get? target = none ∧ fault = .staleHandle target

/-- Every write has come to the hook, unless the last one was cut short. -/
def regime (σ : Type) : Regime (Journaled σ) where
  charter := .unbounded start False
  free handle := handle ≠ hooked.object
  errors _ _ := True
  law journaled space := hooked.Attended journaled.record space ∧
    (hooked.calls journaled.record).map (·.write) = hooked.writes journaled.record
  torn fault journaled space := hooked.Attended journaled.record space ∧
    ((hooked.calls journaled.record).map (·.write) = hooked.writes journaled.record ∨
      hooked.Cut fault journaled.record space)
  new_free {handle} new := by
    rintro rfl
    cases new.symm.trans hooked.held
  change upheld change law :=
    ⟨{ law.1 with properties :=
        upheld.properties_of_change change (not_not_intro rfl) law.1.properties }, law.2⟩
  tear _ law := ⟨law.1, Or.inl law.2⟩
  ordinary _ _ _ := trivial
  lax _ _ _ := trivial

section Notes

variable {σ : Type} {own : Journaled σ} {space : Space} (notes : List Note)

@[simp] theorem calls_append (note : Note) :
    hooked.calls (notes ++ [note]) =
      hooked.calls notes ++ (note.hookCall? hooked.object).toList := by
  cases called : note.hookCall? hooked.object <;> simp [calls, called]

@[simp] theorem writes_append (note : Note) :
    hooked.writes (notes ++ [note]) = hooked.writes notes ++
      (note.propertyWrite? hooked.object hooked.number hooked.captures).toList := by
  cases written : note.propertyWrite? hooked.object hooked.number hooked.captures <;>
    simp [writes, written]

variable {note : Note} (uncalled : note.hookCall? hooked.object = none)
  (unwritten : note.propertyWrite? hooked.object hooked.number hooked.captures = none)

include uncalled unwritten

theorem law_note (law : (hooked.regime σ).law own space) :
    (hooked.regime σ).law (own.note note) space := by
  simpa [regime, Journaled.note, attended_iff, uncalled, unwritten] using law

theorem torn_note {fault : Fault} (torn : (hooked.regime σ).torn fault own space) :
    (hooked.regime σ).torn fault (own.note note) space := by
  simpa [regime, Journaled.note, attended_iff, Cut, uncalled, unwritten] using torn

end Notes

section Writes

variable {σ τ : Type} {host : Host σ τ} {value : Value} {key : String} {site : SourceInfo}

/-- What becomes of the object once the hook has answered. -/
private theorem heed_here {state : RunState (Journaled σ) τ} {notes : List Note}
    (call : HookCall) (upheld : (Charter.unbounded start False).Upheld state.space)
    (attended : hooked.Attended notes state.space)
    (setter : call.setter = hooked.setter)
    (called : hooked.calls state.own.record = hooked.calls notes ++ [call])
    (equal : (hooked.calls state.own.record).map (·.write) = hooked.writes state.own.record) :
    (hooked.regime σ).Allows (hooked.regime σ).Halts (fun _ => True)
      (Eval.heed hooked.object call.write.key site call.answer state) := by
  have setters : ∀ other ∈ hooked.calls state.own.record, other.setter = hooked.setter := by
    rw [called]
    exact List.forall_mem_append.mpr ⟨attended.setters, by simpa using setter⟩
  have settled : (hooked.calls state.own.record).foldl HookCall.settle hooked.data.properties =
      HookCall.settle ((hooked.calls notes).foldl HookCall.settle hooked.data.properties) call := by
    rw [called, List.foldl_append]
    rfl
  have unchanged (same : ∀ properties, HookCall.settle properties call = properties) :
      (hooked.regime σ).Level state := by
    refine ⟨upheld, ⟨setters, ?_⟩, equal⟩
    rw [settled, same]
    exact attended.properties
  rcases call with ⟨number, write, answer⟩
  cases answer with
  | store stored =>
    have within : stored.Within (Charter.unbounded start False).inside := fun _ _ => trivial
    obtain ⟨after, put, upheld', properties⟩ :=
      upheld.putProperty trivial attended.properties write.key within
    simp only [Eval.heed, Run.ofSpace, put]
    refine .value ⟨upheld', ⟨setters, ?_⟩, equal⟩ trivial
    rw [settled]
    exact properties
  | absorb => exact .value (unchanged fun _ => rfl) trivial
  | reject error => exact .early (.raised (unchanged fun _ => rfl) trivial)
  | abort fault => exact .early ((unchanged fun _ => rfl).halts_fault fault)

/-- A write to a property of the object goes to its hook, unless a fault comes before. -/
theorem write_here : Abides (hooked.regime σ) (hooked.regime σ).Halts (fun _ => True)
    ((Manner.recorded .journal host).write (.property (.object hooked.object) key) value site) := by
  intro state level
  let write : HostWrite :=
    ⟨hooked.number, .object hooked.object, key, value, site, hooked.captures⟩
  -- The note is taken before anything else, so there is one write more than there are questions
  -- until the hook has answered. In between the law does not hold.
  let written := state.own.record ++ [.write (.property (.object hooked.object) key) value site]
  have calls : hooked.calls written = hooked.calls state.own.record := by
    simp [written, Note.hookCall?]
  have writes : hooked.writes written = hooked.writes state.own.record ++ [write] := by
    simp [written, write, Note.propertyWrite?]
  have names : Obeys (hooked.regime σ).charter (hooked.regime σ).free (fun _ => True)
      (Space.nameFunction value key) := .nameFunction (fun _ _ => trivial) key
  have path := (names state.space level.upheld).1
  simp only [Manner.write_journal, Eval.writePlace, Act.bind_apply, Run.ofSpace]
  rcases named : Space.nameFunction value key state.space with ⟨fault | _, space⟩
  · obtain ⟨target, points, stale, rfl, rfl⟩ := Space.nameFunction_fault named
    obtain ⟨⟨setters, properties⟩, equal⟩ := level.law
    have cut : hooked.writes written = (hooked.calls written).map (·.write) ++ [write] := by
      rw [calls, writes, equal]
    refine .early (.fault level.upheld ⟨⟨calls ▸ setters, calls ▸ properties⟩, Or.inr ?_⟩)
    exact ⟨write, target, cut, points, stale, rfl⟩
  · rw [named] at path
    have level' := level.changes path
    obtain ⟨attended, equal⟩ := level'.law
    dsimp only [Except.mapError]
    rw [Eval.setProperty_hooked (level'.upheld.wraps ▸ hooked.wrapped)]
    let call : HookCall :=
      ⟨hooked.setter, write, (host.hook hooked.setter space write state.own.own).1⟩
    have called : hooked.calls (written ++ [.hook call]) =
        hooked.calls state.own.record ++ [call] := by
      simp [calls, call, write, Note.hookCall?]
    have offered : hooked.writes (written ++ [.hook call]) =
        hooked.writes state.own.record ++ [write] := by
      simp [writes, Note.propertyWrite?]
    have equal' : (hooked.calls (written ++ [.hook call])).map (·.write) =
        hooked.writes (written ++ [.hook call]) := by
      rw [called, offered, List.map_append, equal]
      rfl
    refine hooked.heed_here call ?_ ?_ rfl called equal'
    · exact level'.upheld
    · exact attended

private theorem write_noted {place : Place}
    (unwritten : (Note.write place value site).propertyWrite? hooked.object hooked.number
      hooked.captures = none)
    (writes : Abides (hooked.regime σ) (hooked.regime σ).Halts (fun _ => True)
      (Eval.writePlace (host.recorded .journal) place value site)) :
    Abides (hooked.regime σ) (hooked.regime σ).Halts (fun _ => True)
      ((Manner.recorded .journal host).write place value site) :=
  fun _ level => writes _ ⟨level.upheld, hooked.law_note rfl unwritten level.law⟩

theorem write_beside {object : Value} (apart : object ≠ .object hooked.object) :
    Abides (hooked.regime σ) (hooked.regime σ).Halts (fun _ => True)
      ((Manner.recorded .journal host).write (.property object key) value site) := by
  have other : ∀ handle, object = .object handle → handle ≠ hooked.object := by
    rintro handle rfl rfl
    exact apart rfl
  have unwritten : (Note.write (.property object key) value site).propertyWrite? hooked.object
      hooked.number hooked.captures = none := by
    cases object with
    | object handle => exact if_neg (other handle rfl)
    | undefined | null | bool | int | float | string | array | callable => rfl
  refine hooked.write_noted unwritten ?_
  refine (Abides.ofSpace (.nameFunction (fun _ _ => trivial) key)).bind fun _ _ => ?_
  refine Abides.setProperty (fun _ _ => trivial) (fun _ _ => trivial) other ?_
  intro handle number setter captures same _ space own answer after _ law asked
  refine ⟨?_, fun _ _ _ _ => trivial, fun _ _ => trivial⟩
  cases asked
  refine hooked.law_note ?_ rfl law
  rw [Note.hookCall?, same]
  exact if_neg (other handle same)

theorem approves (host : Host σ τ) :
    (hooked.regime σ).Approves (Manner.recorded .journal host) := by
  refine Regime.approves_journal (fun {place value} site reaches within => ?_)
    (fun {body} bodies state level => ?_)
    (fun law _ => ⟨hooked.law_note rfl rfl law, trivial⟩)
  · cases place with
    | binding context name declared =>
      exact hooked.write_noted rfl (Abides.writeBinding reaches within)
    | element array index => exact hooked.write_noted rfl (Abides.writeElement reaches index within)
    | range array lower upper =>
      exact hooked.write_noted rfl (Abides.writeRange reaches lower upper within)
    | property object key =>
      by_cases here : object = .object hooked.object
      · subst here
        exact hooked.write_here
      · exact hooked.write_beside here
  · have allowed := Abides.finishing bodies state level
    simp only [Run.finishing] at allowed
    simp only [Manner.finish_journal]
    generalize body state = ended at allowed
    obtain ⟨result, last⟩ := ended
    dsimp only at allowed ⊢
    generalize Run.bodyResult last.stack result = answer at allowed ⊢
    cases allowed with
    | value level fitting =>
      exact .value ⟨level.upheld, hooked.law_note rfl rfl level.law⟩ fitting
    | early halts =>
      exact .early (halts.update id (hooked.law_note rfl rfl) (hooked.torn_note rfl rfl))

/-- However an execution ends, the object was attended to. -/
theorem execution {α : Type} {state : RunState σ τ} (hooked : Hooked state.space)
    (reachable : state.space.Reachable)
    (natives : ∀ {handle callee}, state.space.get? handle = some (.native callee) →
      callee.body.IsEvent) (host : Host σ τ) (classes : ClassRegistry) (fuel : Nat)
    (execution : Execution α) :
    let journaled := execution.journaled host classes fuel state
    hooked.Attended journaled.2.own.record journaled.2.space ∧
      ((hooked.calls journaled.2.own.record).map (·.write) =
          hooked.writes journaled.2.own.record ∨
        ∃ fault, journaled.1 = .error (.fault fault) ∧
          hooked.Cut fault journaled.2.own.record journaled.2.space) := by
  have fits : execution.Fits (hooked.regime σ).charter := Execution.fits_unbounded nofun
  have abides := (hooked.approves host).execution (host.recorded .journal) classes fuel fits
  have began : (hooked.regime σ).Level (state.beside []) := by
    have upheld : (hooked.regime σ).charter.Upheld state.space :=
      Charter.upheld_unbounded reachable.tidy natives False.elim
    exact ⟨upheld, ⟨List.forall_mem_nil _,
      congrArg (Option.bind · Payload.properties?) hooked.held⟩, rfl⟩
  have allowed := abides _ began
  intro journaled
  change (hooked.regime σ).Allows _ _ journaled at allowed
  generalize journaled = ended at allowed
  cases allowed with
  | value level _ => exact ⟨level.law.1, Or.inl level.law.2⟩
  | early halts =>
    cases halts with
    | raised level _ | outOfFuel level => exact ⟨level.law.1, Or.inl level.law.2⟩
    | fault _ torn => exact ⟨torn.1, torn.2.imp_right fun cut => ⟨_, rfl, cut⟩⟩

end Writes

end Hooked

/-- Whatever is executed and however it ends, the properties of a hooked object are those from
before with what its hook stored since, in the order of the questions. The hook was asked once about
every write to a property of the object, in the order of the writes, and about nothing else. A fault
can keep just the last write from the hook, if its value is a callable that is gone. The journal
that this is told by changes nothing about the execution. -/
theorem hook_decides_properties {σ τ α : Type} (host : Host σ τ) (classes : ClassRegistry)
    (fuel : Nat) (execution : Execution α) (state : RunState σ τ) (hooked : Hooked state.space)
    (reachable : state.space.Reachable)
    (natives : ∀ {handle callee}, state.space.get? handle = some (.native callee) →
      callee.body.IsEvent) :
    let plain := execution.run host classes fuel state
    let journaled := execution.journaled host classes fuel state
    let calls := hooked.calls journaled.2.own.record
    let writes := hooked.writes journaled.2.own.record
    Prod.map id Clerk.journal.forget journaled = plain ∧
    (∃ after, plain.2.space.get? hooked.object = some (.object after) ∧
      after.properties = calls.foldl HookCall.settle hooked.data.properties) ∧
    (∀ call ∈ calls, call.setter = hooked.setter) ∧
    (calls.map (·.write) = writes ∨
      ∃ last target, writes = calls.map (·.write) ++ [last] ∧ last.value = .callable target ∧
        plain.2.space.get? target = none ∧ plain.1 = .error (.fault (.staleHandle target))) := by
  intro plain journaled calls writes
  have same : Prod.map id Clerk.journal.forget journaled = plain :=
    execution.forget_journaled host classes fuel state
  have result : journaled.1 = plain.1 := congrArg Prod.fst same
  have space : journaled.2.space = plain.2.space := congrArg (fun ended => ended.2.space) same
  obtain ⟨attended, equal⟩ := hooked.execution reachable natives host classes fuel execution
  obtain ⟨payload, held, properties⟩ := Option.bind_eq_some_iff.mp attended.properties
  rw [space] at held
  refine ⟨same, ?_, attended.setters, ?_⟩
  · cases payload with
    | array | function | native | context => cases properties
    | object after => exact ⟨after, held, Option.some.inj properties⟩
  · rcases equal with equal | ⟨fault, failed, last, target, cut, points, stale, rfl⟩
    · exact Or.inl equal
    · rw [space] at stale
      exact Or.inr ⟨last, target, cut, points, stale, result ▸ failed⟩

/-- A global context that binds an object with a hook. -/
private def desk : Space :=
  let opened := ((SpaceAction.newGlobal "ui" "" '/').run {}).2
  let made := ((SpaceAction.allocateObject { properties := ∅ }).run opened).2
  let tied := ((SpaceAction.wrapObject (.object ⟨1, 0⟩) 4 (some 0) []).run made).2
  ((SpaceAction.define ⟨⟨0, 0⟩⟩ "dial" (.object ⟨1, 0⟩) .mutable).run tied).2

private def dial : Hooked desk := ⟨⟨1, 0⟩, 4, 0, [], _, rfl, rfl⟩

/-- Stores the property `value` and refuses all others. -/
private def attendant : Host Unit Empty where
  native _ _ := .succeed .undefined
  hook _ _ write own :=
    if write.key = "value" then (.store write.value, own)
    else (.reject (.ofKind (.writeRejected write.key "fixed")), own)

/-- Sets the value, counts it up by another way to write the same property, and tries to set the
limit. -/
private def turning : Program :=
  let var : Operand := .var .empty ⟨.empty, "dial", .none⟩
  let property (key : String) : Option Operand := some <| .nested .empty <|
    .node .empty .child (some var) (some (.literal .empty (.string key)))
  let element (key : String) : Option Operand := some <| .nested .empty <|
    .node .empty .index (some var) (some (.literal .empty (.string key)))
  let number (value : Int64) : Option Operand := some (.literal .empty (.int value))
  .mk .empty (.mk .empty
    [.statement .empty (.node .empty .assign (property "value") (number 3)),
      .statement .empty (.node .empty .increment (element "value") none),
      .statement .empty (.node .empty .assign (property "limit") (number 9))])

private def turned : Except Halt (Value × ContextRef) × RunState (Journaled Unit) Empty :=
  (Execution.executeModule ⟨⟨0, 0⟩⟩ turning).journaled attendant {} 3 ⟨desk, .empty none, (), []⟩

/-- Three writes, three questions, two of which change the object. -/
theorem hook_decides_about_dial :
    (dial.writes turned.2.own.record).map (·.key) = ["value", "value", "limit"] ∧
    (dial.calls turned.2.own.record).map (·.write) = dial.writes turned.2.own.record ∧
    ∃ after, turned.2.space.get? ⟨1, 0⟩ = some (.object after) ∧
      after.properties = ((∅ : Table String Value).insert "value" (.int 3)).insert "value"
        (.int 4) := by
  have reachable : desk.Reachable :=
    (((Relation.ReflTransGen.refl.tail (.act _ _)).tail (.act _ _)).tail (.act _ _)).tail (.act _ _)
  have natives : ∀ {handle callee}, desk.get? handle = some (.native callee) →
      callee.body.IsEvent := by
    rintro ⟨index, generation⟩ callee held
    obtain ⟨slot, found, -, full⟩ := Space.get?_eq_some_iff.mp held
    match index, found with
    | 0, found | 1, found =>
      cases found
      cases full
  obtain ⟨same, ⟨after, held, properties⟩, -, equal⟩ :=
    hook_decides_properties attendant {} 3 (.executeModule ⟨⟨0, 0⟩⟩ turning)
      ⟨desk, .empty none, (), []⟩ dial reachable natives
  refine ⟨rfl, ?_, after, ?_, properties⟩
  · rcases equal with equal | ⟨_, _, _, _, _, failed⟩
    · exact equal
    · cases failed
  · have space := congrArg (fun ended => ended.2.space) same
    exact space ▸ held

end ScriptEngine
