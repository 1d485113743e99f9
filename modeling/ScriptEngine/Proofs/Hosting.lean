import ScriptEngine.Proofs.LockstepInstances
import ScriptEngine.Proofs.SoundExecutions
import ScriptEngine.Proofs.CollectionSurvivors

set_option autoImplicit false

namespace ScriptEngine

namespace Space

/-- What a class would hand to its instances is live and of the right kind. -/
def FitsClass (space : Space) (entry : ClassDef) : Prop :=
  (∀ key value, entry.properties.get? key = some value → space.Fits value) ∧
    ∀ value ∈ entry.captures, space.Fits value

def FitsClasses (space : Space) (classes : ClassRegistry) : Prop :=
  ∀ name entry, classes.get? name = some entry → space.FitsClass entry

end Space

/-- The values and contexts that the action is given are live, and so is what it leaves in an
array. Native functions are event methods. A collection that does not know the classes is none
of these actions. -/
def SpaceAction.Admissible (space : Space) {α : Type} : SpaceAction α → Prop
  | .allocateArray items => ∀ value ∈ items, space.Fits value
  | .allocateObject data => space.FitsObject data
  | .allocateFunction closure => space.HasContext closure.context
  | .allocateNative callee =>
    callee.body.IsEvent ∧ ∀ value ∈ callee.captures, space.Fits value
  | .updateArray array change => space.Fits (.array array) ∧
    ∀ items : Array Value, (∀ value ∈ items, space.Fits value) →
      ∀ value ∈ change items, space.Fits value
  | .fork parent _ => space.HasContext parent
  | .define context _ value _ | .assign context _ value =>
    space.HasContext context ∧ space.Fits value
  | .addSourceLine context _ | .addSourceLines context _ => space.HasContext context
  | .putProperty object _ value => space.Fits (.object object) ∧ space.Fits value
  | .assignProperty object _ value | .addListener object _ value =>
    space.Fits object ∧ space.Fits value
  | .removeProperty object _ | .removeListeners object _ | .unlink object => space.Fits object
  | .wrapObject object _ _ captures =>
    space.Fits object ∧ ∀ value ∈ captures, space.Fits value
  | .newGlobal _ _ _ | .releaseGlobal _ | .pin _ | .unpin _ | .addProvider _ | .setProvider _ _
  | .dropProvider _ => True
  | .collect _ => False

namespace Space

variable {rooted : Prop} {space after : Space}

/-- What became of a space that may lose nothing. -/
structure Carried (rooted : Prop) (before after : Space) : Prop where
  healthy : after.Healthy False rooted
  kept : before.diagonal ≤ after.diagonal

theorem Ended.carried (ended : Ended False rooted space after) : Carried rooted space after :=
  ⟨ended.healthy, ended.kept⟩

theorem Carried.refl (healthy : space.Healthy False rooted) : Carried rooted space space :=
  ⟨healthy, le_refl _⟩

theorem Carried.trans {middle : Space} (first : Carried rooted space middle)
    (second : Carried rooted middle after) : Carried rooted space after :=
  ⟨second.healthy, first.kept.trans second.kept⟩

theorem Healthy.carried_of_get? (healthy : space.Healthy False rooted) (tidy : after.Tidy)
    (same : ∀ handle, after.get? handle = space.get? handle)
    (wraps : ∀ {handle wrapping}, after.wraps.get? handle = some wrapping →
      space.wraps.get? handle = some wrapping) : Carried rooted space after :=
  ⟨healthy.remainder (.of_get? tidy same wraps), fun _ _ _ => diagonal_congr (same _)⟩

/-- Another payload of the same role, if it refers to live handles only. -/
theorem Healthy.carried_store (healthy : space.Healthy False rooted) {handle : Handle}
    {old payload : Payload} (held : space.get? handle = some old)
    (kind : payload.role = old.role) (parents : payload.parent? = old.parent?)
    (alike : payload.Alike False space.diagonal payload) :
    Carried rooted space (Space.store handle payload space).2 := by
  have unchanged : ∀ other, space.get? handle = some other → payload.parent? = other.parent? := by
    intro other found
    cases held.symm.trans found
    exact parents
  obtain ⟨after, after', stored, stored', twins⟩ := healthy.twins.store (diagonal_of_get? held)
    payload payload kind alike unchanged unchanged
  rw [stored]
  exact (ended_of_twins twins (le_refl _)).1.carried

theorem Healthy.carried_act {α : Type} {values : Pairing → α → α → Prop} {operation : SpaceM α}
    (healthy : space.Healthy False rooted)
    (lockstep : Lockstep (Terms.alone False rooted space).spaces space.diagonal values operation
      operation) : Carried rooted space (operation space).2 :=
  (healthy.act lockstep).1.carried

private theorem hasContext_of_globalWithin {bound : Nat} {context last : ContextRef}
    (found : space.globalWithin bound context = .ok last) : space.HasContext last := by
  induction bound generalizing context with
  | zero => cases found
  | succ bound ih =>
    simp only [globalWithin, parent?] at found
    cases read : space.context context with
    | error fault =>
      rw [read] at found
      cases found
    | ok data =>
      rw [read] at found
      cases above : data.parent? with
      | some parent =>
        simp only [bind, Except.bind, pure, Except.pure, above] at found
        exact ih found
      | none =>
        simp only [bind, Except.bind, pure, Except.pure, above, Except.ok.injEq] at found
        subst found
        exact ⟨data, context_eq_ok_iff.mp read⟩

private theorem Healthy.carried_updateLines (healthy : space.Healthy False rooted)
    (context : ContextRef) (change : List String → List String) :
    Carried rooted space (updateLines context change space).2 := by
  unfold updateLines
  simp only [Act.bind_apply, Act.ask]
  cases found : space.globalOf context with
  | error fault => exact .refl healthy
  | ok global =>
    have live := hasContext_of_globalWithin found
    refine healthy.carried_act (Lockstep.updateContext (hasContext_iff.mp live) ?_ ?_ ?_)
    · intro larger data others _ both
      obtain ⟨kind, bindings⟩ := data
      obtain ⟨kind', bindings'⟩ := others
      obtain ⟨kinds, same⟩ := both
      cases kinds with
      | global script lines => exact ⟨.global script (change lines), same⟩
      | child parents site => exact ⟨.child parents site, same⟩
    · intro data
      obtain ⟨_ | _, bindings⟩ := data <;> rfl
    · intro data
      obtain ⟨_ | _, bindings⟩ := data <;> rfl

private theorem Healthy.carried_updateArray (healthy : space.Healthy False rooted)
    {array : Handle} {change : Array Value → Array Value} (live : space.Fits (.array array))
    (fits : ∀ items : Array Value, (∀ value ∈ items, space.Fits value) →
      ∀ value ∈ change items, space.Fits value) :
    Carried rooted space (updateArray array change space).2 := by
  obtain ⟨items, held⟩ := live
  have read : space.array array = .ok items := by simp [Space.array, Space.get, held]
  have done : updateArray array change space = store array (.array (change items)) space :=
    Act.ask_bind_ok items read
  rw [done]
  refine healthy.carried_store held rfl rfl (.array (allFit_iff.mp fun value member => ?_))
  exact fits items (healthy.sound.stored held) value (by simpa using member)

private theorem Healthy.carried_pin (healthy : space.Healthy False rooted) (handle : Handle) :
    Carried rooted space (space.pin handle) :=
  ⟨healthy.remainder (.pin healthy.tidy handle), le_refl _⟩

private theorem Healthy.carried_unpin (healthy : space.Healthy False rooted) (handle : Handle) :
    Carried rooted space (space.unpin handle) := by
  unfold unpin
  split
  · exact .refl healthy
  · split
    · exact healthy.carried_of_get? (healthy.tidy.congr rfl rfl rfl) (fun _ => rfl) id
    · exact healthy.carried_of_get? (healthy.tidy.congr rfl rfl rfl) (fun _ => rfl) id

private theorem Healthy.carried_newGlobal (healthy : space.Healthy False rooted)
    (path source : String) (separator : Char) :
    Carried rooted space (newGlobal path source separator space).2 := by
  have made := healthy.carried_act (Lockstep.allocateContext
    (.global (.ofPath path separator) (sourceLines source)))
  unfold newGlobal
  rw [Act.bind_apply]
  generalize allocateContext (.global (.ofPath path separator) (sourceLines source)) space = ended
    at made
  obtain ⟨result, middle⟩ := ended
  cases result with
  | error fault => exact made
  | ok context => exact made.trans (made.healthy.carried_pin context.handle)

private theorem Healthy.carried_unlink (healthy : space.Healthy False rooted) (object : Value) :
    Carried rooted space (unlink object space).2 := by
  cases object with
  | object handle =>
    refine healthy.carried_of_get? (healthy.tidy.congr rfl rfl rfl) (fun _ => rfl) ?_
    intro other wrapping found
    have erased : (space.wraps.erase handle).get? other = some wrapping := found
    rw [Table.get?_erase] at erased
    split at erased
    · cases erased
    · exact erased
  | undefined | null | bool | int | float | string | array | callable => exact .refl healthy

/-- Whatever a host may ask of a healthy space leaves it healthy. -/
theorem Healthy.carried_run {α : Type} {action : SpaceAction α}
    (healthy : space.Healthy False rooted) (admissible : action.Admissible space) :
    Carried rooted space (action.run space).2 := by
  cases action with
  | allocateArray items =>
    refine healthy.carried_act (Lockstep.allocateArray (allFit_iff.mp fun value member => ?_))
    exact admissible value (by simpa using member)
  | allocateObject data =>
    exact healthy.carried_act (Lockstep.allocateObject (fitsObject_iff.mp admissible))
  | allocateFunction closure =>
    exact healthy.carried_act (Lockstep.allocateFunction
      ⟨hasContext_iff.mp admissible, rfl, rfl, rfl, False.elim⟩)
  | allocateNative callee =>
    exact healthy.carried_act (Lockstep.allocateNative
      ⟨rfl, rfl, allFit_iff.mp admissible.2, rfl, admissible.1, False.elim⟩)
  | updateArray array change => exact healthy.carried_updateArray admissible.1 admissible.2
  | newGlobal path source separator => exact healthy.carried_newGlobal path source separator
  | releaseGlobal context => exact healthy.carried_unpin context.handle
  | fork parent site =>
    exact healthy.carried_act (Lockstep.fork (hasContext_iff.mp admissible) site)
  | define context name value mutability =>
    exact healthy.carried_act (Lockstep.define (hasContext_iff.mp admissible.1) name
      (fits_iff.mp admissible.2) mutability)
  | assign context name value =>
    exact healthy.carried_act (Lockstep.assign (hasContext_iff.mp admissible.1) name
      (fits_iff.mp admissible.2))
  | addSourceLine context line => exact healthy.carried_updateLines context (· ++ [line])
  | addSourceLines context lines => exact healthy.carried_updateLines context (lines ++ ·)
  | putProperty object key value =>
    obtain ⟨⟨data, held⟩, fits⟩ := admissible
    exact healthy.carried_act (Lockstep.putProperty (diagonal_of_get? held) key
      (fits_iff.mp fits))
  | assignProperty object key value =>
    exact healthy.carried_act (Lockstep.assignProperty (fits_iff.mp admissible.1) False.elim key
      (fits_iff.mp admissible.2))
  | removeProperty object key =>
    exact healthy.carried_act (Lockstep.removeProperty (fits_iff.mp admissible) False.elim key)
  | addListener object event callback =>
    exact healthy.carried_act (Lockstep.addListener (fits_iff.mp admissible.1) False.elim event
      (fits_iff.mp admissible.2))
  | removeListeners object event =>
    exact healthy.carried_act (Lockstep.removeListeners (fits_iff.mp admissible) False.elim event)
  | wrapObject object host setter captures =>
    exact healthy.carried_act (Lockstep.wrapObject trivial id (fits_iff.mp admissible.1) host
      setter (allFit_iff.mp admissible.2))
  | unlink object => exact healthy.carried_unlink object
  | pin handle => exact healthy.carried_pin handle
  | unpin handle => exact healthy.carried_unpin handle
  | addProvider values | setProvider number values | dropProvider number =>
    exact healthy.carried_of_get? (healthy.tidy.congr rfl rfl rfl) (fun _ => rfl) id
  | collect extra => exact admissible.elim

end Space

namespace Space

variable {space after : Space}

theorem Fits.mono {value : Value} (kept : space.diagonal ≤ after.diagonal)
    (fits : space.Fits value) : after.Fits value :=
  fits_iff.mpr ((fits_iff.mp fits).mono kept)

theorem FitsClasses.mono {classes : ClassRegistry} (kept : space.diagonal ≤ after.diagonal)
    (fits : space.FitsClasses classes) : after.FitsClasses classes := by
  intro name entry found
  obtain ⟨properties, captures⟩ := fits name entry found
  exact ⟨fun key value member => (properties key value member).mono kept,
    fun value member => (captures value member).mono kept⟩

private theorem Fits.congr {value : Value} (fits : space.Fits value)
    (same : ∀ handle, value.handle? = some handle → after.get? handle = space.get? handle) :
    after.Fits value :=
  fits_iff.mpr ((fits_iff.mp fits).transfer fun _ source _ points paired =>
    diagonal_congr (same source points) paired)

/-- The classes are roots of a collection, so it leaves alone all that they hold. -/
private theorem FitsClasses.collect {classes : ClassRegistry} (fits : space.FitsClasses classes)
    (tidy : space.Tidy) (extra : List Handle) :
    (space.collect (classes.references ++ extra)).2.FitsClasses classes := by
  have stays := (remainder_collect tidy (classes.references ++ extra)).2
  intro name entry found
  obtain ⟨properties, captures⟩ := fits name entry found
  have listed : ∀ {handle}, handle ∈ valueHandles entry.properties.values ++
      valueHandles entry.captures → Root space (classes.references ++ extra) handle := by
    intro handle member
    refine .given (List.mem_append_left _ (List.mem_flatMap.mpr ⟨entry, ?_, member⟩))
    exact Table.mem_values_iff.mpr ⟨name, found⟩
  constructor
  · intro key value member
    refine (properties key value member).congr fun handle points => stays handle (listed ?_)
    exact List.mem_append_left _
      (mem_valueHandles.mpr ⟨value, Table.mem_values_iff.mpr ⟨key, member⟩, points⟩)
  · intro value member
    refine (captures value member).congr fun handle points => stays handle (listed ?_)
    exact List.mem_append_right _ (mem_valueHandles.mpr ⟨value, member, points⟩)

private theorem forall₂_members {members : List (String × Value)}
    (fits : ∀ member ∈ members, space.Fits member.2) :
    List.Forall₂ (fun member member' : String × Value =>
      member.1 = member'.1 ∧ member.2.Alike space.diagonal member'.2) members members :=
  List.forall₂_same.mpr fun member here => ⟨rfl, fits_iff.mp (fits member here)⟩

private theorem FitsClasses.register {classes after' : ClassRegistry}
    (fits : space.FitsClasses classes) {name : String} {spec : ClassSpec}
    (properties : ∀ member ∈ spec.properties, space.Fits member.2)
    (captures : ∀ value ∈ spec.captures, space.Fits value)
    (registered : classes.register name spec = .ok after') : space.FitsClasses after' := by
  have added : ∀ entry, space.FitsClass entry → space.FitsClasses (classes.add name entry) := by
    intro entry fitting other found member
    unfold ClassRegistry.get? ClassRegistry.add at member
    rw [Table.get?_insert] at member
    split at member
    · cases member
      exact fitting
    · exact fits other found member
  have given := forall₂_members properties
  unfold ClassRegistry.register at registered
  split at registered
  · cases registered
  · split at registered
    · cases registered
      refine added _ ⟨fitsTable_iff.mpr ?_, captures⟩
      exact .insertAll given .empty
    · split at registered
      · cases registered
      · next parent found =>
        cases registered
        obtain ⟨inherited, held⟩ := fits _ parent found
        refine added _ ⟨fitsTable_iff.mpr (.insertAll given (fitsTable_iff.mp inherited)), ?_⟩
        intro value member
        unfold ClassSpec.below at member
        dsimp only at member
        split at member
        · exact captures value member
        · exact held value member

end Space

namespace World

variable {σ τ : Type}

/-- One step of a host that hands over nothing but live values and contexts: an action on the
space, a class, an instance, an execution of any kind, a collection, or work on what is its own. -/
inductive Step (host : Host σ τ) (world : World σ τ) : World σ τ → Prop where
  | act {α : Type} (action : SpaceAction α) (admissible : action.Admissible world.realm.space) :
      Step host world { world with realm := (Realm.onSpace action.run world.realm).2 }
  | registerClass (name : String) (spec : ClassSpec)
      (properties : ∀ member ∈ spec.properties, world.realm.space.Fits member.2)
      (captures : ∀ value ∈ spec.captures, world.realm.space.Fits value) :
      Step host world { world with realm := (world.realm.registerClass name spec).2 }
  | wrap (className : String) (number : Nat) (extra : List (String × Value))
      (fits : ∀ member ∈ extra, world.realm.space.Fits member.2) :
      Step host world { world with realm := (Realm.wrap className number extra world.realm).2 }
  | executeModule (fuel : Nat) (context : ContextRef)
      (live : world.realm.space.HasContext context) (program : Program) :
      Step host world (World.executeModule host fuel context program world).2
  | call (fuel : Nat) (callee : Value) (arguments : List Value)
      (fits : ∀ value ∈ callee :: arguments, world.realm.space.Fits value) :
      Step host world (World.call host fuel callee arguments world).2
  | callAt (fuel : Nat) (limit : Option Nat) (callee : Value) (arguments : List Value)
      (fits : ∀ value ∈ callee :: arguments, world.realm.space.Fits value) (site : SourceInfo) :
      Step host world (World.callAt host fuel limit callee arguments site world).2
  | trigger (fuel : Nat) (object : Value) (event : String) (data : Value)
      (fits : ∀ value ∈ [object, data], world.realm.space.Fits value) :
      Step host world (World.trigger host fuel object event data world).2
  | setProperty (object : Handle) (key : String) (value : Value)
      (fits : ∀ value ∈ [.object object, value], world.realm.space.Fits value)
      (site : SourceInfo) :
      Step host world (World.setProperty host (.object object) key value site world).2
  | collect (extra : List Handle) :
      Step host world { world with realm := (world.realm.collect extra).2 }
  | maybeCollect (extra : List Handle) :
      Step host world { world with realm := (world.realm.maybeCollect extra).2 }
  | change (own : σ) (queue : List τ) : Step host world { world with own, queue }

/-- The invariant of all steps. Whether chains end may be left open. -/
structure Upright (rooted : Prop) (world : World σ τ) : Prop where
  healthy : world.realm.space.Healthy False rooted
  classes : world.realm.space.FitsClasses world.realm.classes

variable {rooted : Prop} {host : Host σ τ} {world : World σ τ}

private theorem Upright.carried (upright : world.Upright rooted) {after : World σ τ}
    (carried : Space.Carried rooted world.realm.space after.realm.space)
    (same : after.realm.classes = world.realm.classes) : after.Upright rooted :=
  ⟨carried.healthy, same ▸ upright.classes.mono carried.kept⟩

private theorem Upright.wrap (upright : world.Upright rooted) {className : String} {number : Nat}
    {extra : List (String × Value)} (fits : ∀ member ∈ extra, world.realm.space.Fits member.2) :
    Upright rooted { world with realm := (Realm.wrap className number extra world.realm).2 } := by
  unfold Realm.wrap
  rw [Act.bind_apply]
  dsimp only [get, getThe, MonadStateOf.get]
  cases found : world.realm.classes.get? className with
  | none => exact upright
  | some entry =>
    obtain ⟨properties, captures⟩ := upright.classes className entry found
    have lockstep : Lockstep (Terms.alone False rooted world.realm.space).spaces
        world.realm.space.diagonal (fun larger => Settled (Value.Alike larger))
        (Except.ok <$> Space.wrapInstance entry number extra)
        (Except.ok <$> Space.wrapInstance entry number extra) :=
      (Lockstep.wrapInstance trivial id (Space.fitsTable_iff.mp properties)
        (Space.allFit_iff.mp captures) number (Space.forall₂_members fits)).map
        fun _ _ _ alike => .value alike
    exact upright.carried (upright.healthy.carried_act lockstep) rfl

private theorem Upright.run {α : Type} {values : Pairing → α → α → Prop}
    (upright : world.Upright rooted) (stack : CallStack) (body : ClassRegistry → Run σ τ Halt α)
    (lockstep : ∀ queue : List τ, Lockstep
      ((Terms.alone False rooted world.realm.space).calls σ queue)
      world.realm.space.diagonal values (body world.realm.classes) (body world.realm.classes)) :
    (World.run stack body world).2.Upright rooted := by
  refine upright.carried (healthy_run stack body upright.healthy lockstep).1.carried ?_
  rfl

private theorem Upright.collect (upright : world.Upright rooted) (extra : List Handle) :
    Upright rooted { world with realm := (world.realm.collect extra).2 } :=
  ⟨upright.healthy.remainder (Space.remainder_collect upright.healthy.tidy _).1,
    upright.classes.collect upright.healthy.tidy extra⟩

/-- A step of the host keeps a world upright. -/
theorem Upright.step (upright : world.Upright rooted) (hooks : host.StoresGiven)
    {after : World σ τ} (step : Step host world after) : after.Upright rooted := by
  have obliging := hooks.obliging rooted world.realm.space
  have faithful : ∀ fuel (queue : List τ), Faithful (.alone False rooted world.realm.space) queue
      (Eval.environment host world.realm.classes fuel) :=
    fun fuel _ => Lockstep.faithful_environment obliging world.realm.classes fuel
  cases step with
  | act action admissible =>
    exact upright.carried (upright.healthy.carried_run admissible) rfl
  | registerClass name spec properties captures =>
    unfold Realm.registerClass
    cases registered : world.realm.classes.register name spec with
    | error error => exact upright
    | ok classes =>
      exact ⟨upright.healthy, upright.classes.register properties captures registered⟩
  | wrap className number extra fits => exact upright.wrap fits
  | executeModule fuel context live program =>
    exact upright.run _ _ fun queue =>
      Lockstep.executeModule (faithful fuel queue) (Space.hasContext_iff.mp live) program False.elim
  | call fuel callee arguments fits =>
    obtain ⟨head, rest⟩ := List.forall_mem_cons.mp fits
    exact upright.run _ _ fun _ => Lockstep.call obliging world.realm.classes fuel
      (Space.fits_iff.mp head) (Space.allFit_iff.mp rest) .empty
  | callAt fuel limit callee arguments fits site =>
    obtain ⟨head, rest⟩ := List.forall_mem_cons.mp fits
    exact upright.run _ _ fun _ => Lockstep.call obliging world.realm.classes fuel
      (Space.fits_iff.mp head) (Space.allFit_iff.mp rest) site
  | trigger fuel object event data fits =>
    exact upright.run _ _ fun queue => Lockstep.triggerEvent (faithful fuel queue)
      (Space.fits_iff.mp (fits object (by simp))) False.elim event
      (Space.fits_iff.mp (fits data (by simp))) .empty
  | setProperty object key value fits site =>
    obtain ⟨contents, held⟩ := fits (.object object) (by simp)
    exact upright.run _ _ fun _ => Lockstep.setProperty obliging (Space.diagonal_of_get? held) key
      (Space.fits_iff.mp (fits value (by simp))) site
  | collect extra => exact upright.collect extra
  | maybeCollect extra =>
    unfold Realm.maybeCollect
    split
    · exact upright.collect extra
    · exact upright
  | change own queue => exact ⟨upright.healthy, upright.classes⟩

theorem Upright.steps (upright : world.Upright rooted) (hooks : host.StoresGiven)
    {after : World σ τ} (steps : Relation.ReflTransGen (Step host) world after) :
    after.Upright rooted := by
  induction steps with
  | refl => exact upright
  | tail _ step ih => exact ih.step hooks step

theorem upright_ofConfig (config : Config) (own : σ) (queue : List τ) :
    Upright rooted ⟨.ofConfig config, own, queue⟩ := by
  refine ⟨⟨Space.tidy_empty, ⟨?_, ?_⟩, ?_, False.elim, False.elim, ?_⟩, ?_⟩
  · intro handle payload held
    cases held
  · intro handle wrapping found
    cases found
  · intro handle callee held
    cases held
  · intro _ context present
    cases present.choose_spec
  · intro name entry found
    cases found

/-- Whatever a host does with live values, and whatever its scripts do, every handle in a live
slot, in the tie of a live object or in a class is live and of the kind that its holder takes it
for. Collections in between do not matter, if they know the classes. -/
theorem stored_handles_stay_live (hooks : host.StoresGiven) (config : Config) (own : σ)
    (queue : List τ)
    (steps : Relation.ReflTransGen (Step host) ⟨.ofConfig config, own, queue⟩ world) :
    world.realm.space.Sound ∧ world.realm.space.FitsClasses world.realm.classes := by
  have upright : world.Upright True := (upright_ofConfig config own queue).steps hooks steps
  exact ⟨upright.healthy.sound, upright.classes⟩

/-- Returns a new array. -/
private def returnsArray : Program :=
  .mk .empty (.mk .empty [.statement .empty (.node .empty .ret none (some (.array .empty [])))])

/-- A new realm, a context in it, a class with events and an instance of it. -/
private def equipped : World Unit Empty :=
  let fresh : World Unit Empty := ⟨.ofConfig {}, (), []⟩
  let opened : World Unit Empty :=
    { fresh with realm := (Realm.onSpace (SpaceAction.newGlobal "main" "" '/').run fresh.realm).2 }
  let classed : World Unit Empty := { opened with
    realm := (opened.realm.registerClass "button" { setter := some 0, triggers := true }).2 }
  { classed with realm := (Realm.wrap "button" 7 [("label", .string "ok")] classed.realm).2 }

/-- The same realm after a script and a collection. -/
private def collectedWorld : World Unit Empty :=
  let executed := (World.executeModule .storing 3 ⟨⟨0, 0⟩⟩ returnsArray equipped).2
  { executed with realm := (executed.realm.collect []).2 }

theorem stored_handles_of_buttons :
    (Host.storing : Host Unit Empty).StoresGiven ∧
    Relation.ReflTransGen (Step .storing) ⟨.ofConfig {}, (), []⟩ collectedWorld ∧
    collectedWorld.realm.space.Sound ∧
      collectedWorld.realm.space.FitsClasses collectedWorld.realm.classes := by
  have hooks : (Host.storing : Host Unit Empty).StoresGiven := by
    intro number space write own value answer
    cases answer
    exact Or.inl rfl
  have made : Relation.ReflTransGen (Step .storing) ⟨.ofConfig {}, (), []⟩ equipped := by
    refine ((Relation.ReflTransGen.refl.tail (.act (.newGlobal "main" "" '/') trivial)).tail
      (.registerClass "button" { setter := some 0, triggers := true } ?noProperties
        ?noCaptures)).tail (.wrap "button" 7 [("label", .string "ok")] ?label)
    case noProperties => exact fun _ listed => nomatch listed
    case noCaptures => exact fun _ listed => nomatch listed
    case label =>
      intro member listed
      cases List.mem_singleton.mp listed
      trivial
  have opened : equipped.realm.space.HasContext ⟨⟨0, 0⟩⟩ := by
    have found : (equipped.realm.space.context ⟨⟨0, 0⟩⟩).toOption.isSome = true := by
      decide +kernel
    cases read : equipped.realm.space.context ⟨⟨0, 0⟩⟩ with
    | ok data => exact ⟨data, Space.context_eq_ok_iff.mp read⟩
    | error fault =>
      rw [read] at found
      cases found
  have steps : Relation.ReflTransGen (Step .storing) ⟨.ofConfig {}, (), []⟩ collectedWorld :=
    (made.tail (.executeModule 3 ⟨⟨0, 0⟩⟩ opened returnsArray)).tail (.collect [])
  exact ⟨hooks, steps, stored_handles_stay_live hooks {} () [] steps⟩

end World

end ScriptEngine
