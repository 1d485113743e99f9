import ScriptEngine.Proofs.PairedExecutions
import ScriptEngine.Proofs.PermittedRuns

set_option autoImplicit false

namespace ScriptEngine

/-- A place that a script can mean. -/
def Charter.Reaches (charter : Charter) : Place → Prop
  | .binding context name _ => charter.ReachesBinding context name
  | .property object _ => object.Within charter.inside
  | .element array _ | .range array _ _ => charter.inside array

/-- The hook may be asked about the write: the law survives, what it stores may be touched, and an
error that it rejects the write with may be raised. -/
def Regime.Consents {σ τ : Type} (regime : Regime σ) (host : Host σ τ) (setter : Nat)
    (write : HostWrite) : Prop :=
  ∀ {space own answer after}, regime.charter.Upheld space → regime.law own space →
    host.hook setter space write own = (answer, after) → regime.law after space ∧
      (∀ value, answer = .store value → value.Within regime.charter.inside) ∧
      ∀ error, answer = .reject error → regime.errors after error.kind

namespace Eval

variable {σ τ : Type} {host : Host σ τ} {handle : Handle} {key : String} {value : Value}
  {site : SourceInfo} {state : RunState σ τ}

/-- What becomes of a write after the hook has answered. -/
def heed (handle : Handle) (key : String) (site : SourceInfo) : HookAnswer → Run σ τ Halt Unit
  | .store stored => Run.ofSpace (Space.putProperty handle key stored)
  | .absorb => pure ()
  | .reject error => Run.raise (error.locate site)
  | .abort fault => throw (.fault fault)

theorem setProperty_hooked {number setter : Nat} {captures : List Value}
    (wrapped : state.space.wraps.get? handle = some ⟨number, some setter, captures⟩) :
    setProperty host (.object handle) key value site state =
      let (answer, own) := host.hook setter state.space
        ⟨number, .object handle, key, value, site, captures⟩ state.own
      heed handle key site answer { state with own } := by
  simp only [setProperty, Act.bind_apply, Run.askSpace, Space.objectHandle, Except.mapError,
    wrapped, consult]
  rfl

theorem setProperty_plain
    (bare : ∀ number setter captures,
      state.space.wraps.get? handle ≠ some ⟨number, some setter, captures⟩) :
    setProperty host (.object handle) key value site state =
      Run.ofSpace (Space.putProperty handle key value) state := by
  simp only [setProperty, Act.bind_apply, Run.askSpace, Space.objectHandle, Except.mapError]

end Eval

/-- An environment whose writes, bodies, handlers and calls abide by the regime. -/
structure Regime.Conforms {σ τ : Type} (regime : Regime σ) (env : Environment σ τ) : Prop where
  write : ∀ {place : Place} {value : Value} (site : SourceInfo), regime.charter.Reaches place →
    value.Within regime.charter.inside →
    Abides regime regime.Halts (fun _ => True) (env.write place value site)
  finish : ∀ {body : Run σ τ Exit Unit},
    Abides regime (regime.Exits false) (fun _ => True) body →
    Abides regime regime.Halts (Value.Within regime.charter.inside) (env.finish body)
  rescue : ∀ {loop : Bool} {body : Run σ τ Exit Unit} {handler : ScriptError → Run σ τ Exit Unit},
    Abides regime (regime.Exits loop) (fun _ => True) body →
    (∀ error state, regime.Level state → regime.errors state.own error.kind →
      regime.Allows (regime.Exits loop) (fun _ => True) (handler error state)) →
    Abides regime (regime.Exits loop) (fun _ => True) (env.rescue body handler)
  call : ∀ {callee : Value} {arguments : List Value} (site : SourceInfo),
    callee.Within regime.charter.inside →
    (∀ argument ∈ arguments, argument.Within regime.charter.inside) →
    Abides regime regime.Halts (Value.Within regime.charter.inside)
      (env.call callee arguments site)

/-- A manner that abides by the regime, whose native functions are the event methods. -/
structure Regime.Approves {σ τ : Type} (regime : Regime σ) (manner : Manner σ τ) : Prop where
  write : ∀ {place : Place} {value : Value} (site : SourceInfo), regime.charter.Reaches place →
    value.Within regime.charter.inside →
    Abides regime regime.Halts (fun _ => True) (manner.write place value site)
  finish : ∀ {body : Run σ τ Exit Unit},
    Abides regime (regime.Exits false) (fun _ => True) body →
    Abides regime regime.Halts (Value.Within regime.charter.inside) (manner.finish body)
  rescue : ∀ {loop : Bool} {body : Run σ τ Exit Unit} {handler : ScriptError → Run σ τ Exit Unit},
    Abides regime (regime.Exits loop) (fun _ => True) body →
    (∀ error state, regime.Level state → regime.errors state.own error.kind →
      regime.Allows (regime.Exits loop) (fun _ => True) (handler error state)) →
    Abides regime (regime.Exits loop) (fun _ => True) (manner.rescue body handler)
  frame : ∀ (frame : Frame) {body : Run σ τ Halt Value},
    Abides regime regime.Halts (Value.Within regime.charter.inside) body →
    Abides regime regime.Halts (Value.Within regime.charter.inside) (manner.frame frame body)
  allow : ∀ closure, Abides regime regime.Halts (fun _ => True) (manner.allow closure)
  body : ∀ {env : Environment σ τ}, regime.Conforms env → ∀ {kind : NativeBody} {call : NativeCall},
    kind.IsEvent → (∀ value ∈ call.arguments, value.Within regime.charter.inside) →
    (∀ value ∈ call.captures, value.Within regime.charter.inside) →
    Abides regime regime.Halts (Value.Within regime.charter.inside) (manner.body env kind call)

section Ordinary

variable {error : ScriptError}

theorem ordinary_compareValues {comparison : Comparison} {left right : Value}
    (failed : Eval.compareValues comparison left right = .error error) :
    error.kind.isLoopControl = false := by
  unfold Eval.compareValues at failed
  split at failed
  · cases failed
  · cases failed
  · split at failed
    · cases failed
    · cases failed
      rfl

theorem ordinary_checked {operation : String} {exact : Int}
    (failed : Eval.checked operation exact = .error error) :
    error.kind.isLoopControl = false := by
  unfold Eval.checked at failed
  split at failed
  · cases failed
  · cases failed
    rfl

theorem ordinary_intArithmetic {op : Arithmetic} {a b : Int64}
    (failed : Eval.intArithmetic op a b = .error error) : error.kind.isLoopControl = false := by
  cases op with
  | add | sub | mul => exact ordinary_checked failed
  | div =>
    simp only [Eval.intArithmetic] at failed
    split at failed
    · cases failed
      rfl
    · exact ordinary_checked failed
  | rem =>
    simp only [Eval.intArithmetic] at failed
    split at failed
    · cases failed
      rfl
    · split at failed
      · cases failed
      · rename_i reason checked
        cases failed
        exact ordinary_checked checked

theorem arithmetic_cases (op : Arithmetic) (left right : Value) :
    (∃ value, Eval.arithmetic op left right = .ok value ∧ value.handle? = none) ∨
      ∃ error, Eval.arithmetic op left right = .error error ∧
        error.kind.isLoopControl = false := by
  unfold Eval.arithmetic
  split
  · rename_i a b
    cases exact : Eval.intArithmetic op a b with
    | ok value => exact Or.inl ⟨_, rfl, rfl⟩
    | error error => exact Or.inr ⟨_, rfl, ordinary_intArithmetic exact⟩
  · split
    · exact Or.inl ⟨_, rfl, rfl⟩
    · exact Or.inr ⟨_, rfl, rfl⟩

theorem ordinary_validateIndex {length : Nat} {index : Int64}
    (failed : validateIndex length index = .error error) : error.kind.isLoopControl = false := by
  unfold validateIndex at failed
  split at failed
  · cases failed
  · cases failed
    rfl

theorem ordinary_validateRange {length : Nat} {lower upper : Int64}
    (failed : validateRange length lower upper = .error error) :
    error.kind.isLoopControl = false := by
  unfold validateRange at failed
  split at failed
  · cases failed
  · cases failed
    rfl

theorem ordinary_expectInt {value : Value} (failed : Eval.expectInt value = .error error) :
    error.kind.isLoopControl = false := by
  cases value with
  | int => cases failed
  | undefined | null | bool | float | string | array | object | callable =>
    cases failed
    rfl

theorem ordinary_thrownError {value : Value} {space : Space}
    (thrown : Eval.thrownError value space = .ok error) : error.kind.isLoopControl = false := by
  unfold Eval.thrownError at thrown
  split at thrown
  · obtain ⟨code, -, thrown⟩ := ok_of_bind thrown
    obtain ⟨reason, -, thrown⟩ := ok_of_bind thrown
    obtain ⟨text, -, thrown⟩ := ok_of_bind thrown
    cases thrown
    rfl
  · obtain ⟨text, -, thrown⟩ := ok_of_bind thrown
    cases thrown
    rfl

end Ordinary

namespace Abides

variable {σ τ : Type} {regime : Regime σ}

private theorem arithmetic (op : Arithmetic) (left right : Value) :
    Abides regime regime.Halts (Value.Within regime.charter.inside)
      (Run.orRaise (Eval.arithmetic op left right) : Run σ τ Halt Value) := by
  rcases arithmetic_cases op left right with ⟨value, done, scalar⟩ | ⟨error, failed, ordinary⟩
  · rw [done]
    exact pure (Value.within_of_scalar scalar)
  · rw [failed]
    exact raise ordinary

theorem array {handle : Handle} (inside : regime.charter.inside handle) :
    Abides regime regime.Halts
      (fun items : Array Value => ∀ value ∈ items, value.Within regime.charter.inside)
      (Run.askSpace (·.array handle) : Run σ τ Halt (Array Value)) :=
  askSpace fun _ upheld _ read => upheld.array inside read

private theorem mem_of_mem_extract {items : Array Value} {lower upper : Nat} {value : Value}
    (member : value ∈ items.extract lower upper) : value ∈ items := by
  rw [Array.mem_def, Array.toList_extract] at member
  exact Array.mem_def.mpr (List.mem_of_mem_drop (List.mem_of_mem_take member))

theorem resolve {context : ContextRef} (inside : regime.charter.inside context.handle)
    (name : String) :
    Abides regime regime.Halts (fun found : Except ScriptError Value =>
        (∀ value, found = .ok value → value.Within regime.charter.inside) ∧
          ∀ error, found = .error error → error.kind.isLoopControl = false)
      (Run.askSpace (·.resolve context name) : Run σ τ Halt (Except ScriptError Value)) := by
  refine askSpace fun space upheld found read => ⟨?_, ?_⟩
  · rintro value rfl
    exact upheld.resolve inside read
  · rintro error rfl
    obtain ⟨looked, -, read⟩ := ok_of_bind read
    cases looked with
    | some value => cases read
    | none =>
      cases read
      rfl

theorem addition {left right : Value} (first : left.Within regime.charter.inside)
    (second : right.Within regime.charter.inside) :
    Abides regime regime.Halts (Value.Within regime.charter.inside)
      (Eval.add left right : Run σ τ Halt Value) := by
  have joined : Abides regime regime.Halts (Value.Within regime.charter.inside)
      (Eval.join left right : Run σ τ Halt Value) := by
    refine askSpace fun _ _ answer text => ?_
    obtain ⟨_, -, text⟩ := ok_of_bind text
    obtain ⟨_, -, text⟩ := ok_of_bind text
    cases text
    exact Value.within_of_scalar rfl
  unfold Eval.add
  split
  · exact joined
  · exact joined
  · refine (array (first _ rfl)).bind fun items within => ?_
    refine (array (second _ rfl)).bind fun others within' => ofSpace (.allocateArray ?_)
    intro value member
    rcases Array.mem_append.mp member with member | member
    · exact within value member
    · exact within' value member
  · exact arithmetic _ _ _

theorem binary (op : BinaryOperator) {left right : Value}
    (first : left.Within regime.charter.inside) (second : right.Within regime.charter.inside) :
    Abides regime regime.Halts (Value.Within regime.charter.inside)
      (Eval.binary op left right : Run σ τ Halt Value) := by
  unfold Eval.binary
  split
  · refine askSpace fun _ _ answer same => ?_
    obtain ⟨_, -, same⟩ := ok_of_bind same
    cases same
    exact Value.within_of_scalar rfl
  · refine askSpace fun _ _ answer same => ?_
    obtain ⟨_, -, same⟩ := ok_of_bind same
    cases same
    exact Value.within_of_scalar rfl
  · rename_i comparison
    cases compared : Eval.compareValues comparison left right with
    | ok value => exact pure (Value.within_of_scalar rfl)
    | error error => exact raise (ordinary_compareValues compared)
  · exact addition first second
  · exact arithmetic _ _ _

/-- In a new context a name means a binding that may be touched, or one that may be made. -/
theorem bindingPlace {context : ContextRef} (new : regime.charter.New context.handle)
    (name : String) :
    Abides regime regime.Halts regime.charter.Reaches
      (Eval.bindingPlace context name : Run σ τ Halt Place) := by
  refine askSpace fun space upheld place found => ?_
  obtain ⟨owner, owned, found⟩ := ok_of_bind found
  have inside := regime.charter.new new
  cases owner with
  | none =>
    cases found
    exact ⟨inside, Or.inl new⟩
  | some owner =>
    cases found
    exact upheld.owner? inside owned

theorem propertyPlace {object : Value} (within : object.Within regime.charter.inside)
    (key : String) :
    Abides regime regime.Halts regime.charter.Reaches
      (Run.orRaise (Eval.propertyPlace object key) : Run σ τ Halt Place) := by
  cases object with
  | object handle => exact pure within
  | undefined | null | bool | int | float | string | array | callable => exact raise rfl

theorem keyPlace {target : Value} (within : target.Within regime.charter.inside) (key : Value) :
    Abides regime regime.Halts regime.charter.Reaches
      (Eval.keyPlace target key : Run σ τ Halt Place) := by
  unfold Eval.keyPlace
  split
  · refine (asking _).bind fun items _ => ?_
    refine (orRaise (fun _ _ => trivial) fun _ => ordinary_validateIndex).bind fun index _ => ?_
    exact pure (within _ rfl)
  · exact pure within
  · exact raise rfl

theorem rangePlace {array : Handle} (inside : regime.charter.inside array)
    (lower upper : Option Int64) :
    Abides regime regime.Halts regime.charter.Reaches
      (Eval.rangePlace array lower upper : Run σ τ Halt Place) := by
  refine (asking _).bind fun items _ => ?_
  refine (orRaise (fun _ _ => trivial) fun _ => ordinary_validateRange).bind fun bounds _ => ?_
  exact pure inside

theorem readPlace {place : Place} (reaches : regime.charter.Reaches place) :
    Abides regime regime.Halts (Value.Within regime.charter.inside)
      (Eval.readPlace place : Run σ τ Halt Value) := by
  cases place with
  | binding context name declared =>
    cases declared with
    | true => exact (resolve reaches.1 name).bind fun found fitting =>
        orRaise fitting.1 fitting.2
    | false => exact raise rfl
  | property object key =>
    simp only [Eval.readPlace]
    refine askSpace fun _ upheld answer read => ?_
    obtain ⟨found, looked, same⟩ := ok_of_bind read
    cases same
    exact upheld.property? reaches looked
  | element handle index =>
    refine (array reaches).bind fun items within => ?_
    cases found : items[index]? with
    | some value => exact pure (within value (Array.mem_of_getElem? found))
    | none => exact raise rfl
  | range handle lower upper =>
    refine (array reaches).bind fun items within => ?_
    split
    · refine ofSpace (.allocateArray fun value member => within value ?_)
      exact mem_of_mem_extract member
    · exact raise rfl

/-- The hook of a wrapped object is asked first. Without a hook the write goes to the object. -/
theorem setProperty {host : Host σ τ} {object value : Value} {key : String} {site : SourceInfo}
    (inside : object.Within regime.charter.inside) (within : value.Within regime.charter.inside)
    (loose : ∀ handle, object = .object handle → regime.free handle)
    (consents : ∀ handle number setter captures, object = .object handle →
      regime.charter.start.wraps.get? handle = some ⟨number, some setter, captures⟩ →
      regime.Consents host setter ⟨number, object, key, value, site, captures⟩) :
    Abides regime regime.Halts (fun _ => True)
      (Eval.setProperty host object key value site) := by
  cases object with
  | undefined | null | bool | int | float | string | array | callable =>
    exact fun _ level => .early (level.halts_fault _)
  | object handle =>
    have puts : ∀ stored : Value, stored.Within regime.charter.inside →
        Abides regime regime.Halts (fun _ => True)
          (Run.ofSpace (Space.putProperty handle key stored) : Run σ τ Halt Unit) :=
      fun _ fitting => ofSpace (.putProperty (inside _ rfl) (loose handle rfl) key fitting)
    intro state level
    -- Nothing is wrapped or unwrapped on the way, so the hook is the one from the start.
    rcases wrapped : regime.charter.start.wraps.get? handle with _ | ⟨number, _ | setter, captures⟩
    · rw [Eval.setProperty_plain (by simp [level.upheld.wraps, wrapped])]
      exact puts value within state level
    · rw [Eval.setProperty_plain (by simp [level.upheld.wraps, wrapped])]
      exact puts value within state level
    · rw [Eval.setProperty_hooked (level.upheld.wraps ▸ wrapped)]
      rcases asked : host.hook setter state.space _ state.own with ⟨answer, own⟩
      obtain ⟨law, stored, rejected⟩ :=
        consents handle number setter captures rfl wrapped level.upheld level.law asked
      have level' : regime.Level { state with own } := ⟨level.upheld, law⟩
      cases answer with
      | store stored' => exact puts stored' (stored stored' rfl) _ level'
      | absorb => exact .value level' trivial
      | abort fault => exact .early (level'.halts_fault fault)
      | reject error =>
        exact .early (.raised level' (by simpa using rejected error rfl))

theorem writeBinding {context : ContextRef} {name : String}
    (reaches : regime.charter.ReachesBinding context name) {value : Value}
    (within : value.Within regime.charter.inside) :
    Abides regime regime.Halts (fun _ => True)
      (Eval.writeBinding context name value : Run σ τ Halt Unit) := by
  refine (ofSpace (.nameFunction within name)).bind fun _ _ => ?_
  refine (ofSpace (.assign reaches within)).bind fun assigned fitting => ?_
  cases assigned with
  | stored => exact pure trivial
  | undefined => exact ofSpace (.define (fitting rfl) name within .mutable)
  | immutable => exact raise rfl

theorem writeElement {handle : Handle} (inside : regime.charter.inside handle) (index : Nat)
    {value : Value} (within : value.Within regime.charter.inside) :
    Abides regime regime.Halts (fun _ => True)
      (Eval.writeElement handle index value : Run σ τ Halt Unit) := by
  refine (asking _).bind fun items _ => ?_
  split
  · refine ofSpace (.updateArray inside fun items before other member => ?_)
    rcases Array.mem_or_eq_of_mem_setIfInBounds member with member | rfl
    · exact before other member
    · exact within
  · exact raise rfl

theorem writeRange {handle : Handle} (inside : regime.charter.inside handle) (lower upper : Nat)
    {value : Value} (within : value.Within regime.charter.inside) :
    Abides regime regime.Halts (fun _ => True)
      (Eval.writeRange handle lower upper value : Run σ τ Halt Unit) := by
  cases value with
  | undefined | null | bool | int | float | string | object | callable => exact raise rfl
  | array source =>
    refine (array (within _ rfl)).bind fun replacement fitting => (asking _).bind fun items _ => ?_
    split
    · refine ofSpace (.updateArray inside fun items before other member => ?_)
      rcases Array.mem_append.mp member with member | member
      · rcases Array.mem_append.mp member with member | member
        · exact before other (mem_of_mem_extract member)
        · exact fitting other member
      · exact before other (mem_of_mem_extract member)
    · exact raise rfl

theorem writePlace {host : Host σ τ}
    (sets : ∀ {object value : Value} (key : String) (site : SourceInfo),
      object.Within regime.charter.inside → value.Within regime.charter.inside →
      Abides regime regime.Halts (fun _ => True) (Eval.setProperty host object key value site))
    {place : Place} {value : Value} (site : SourceInfo) (reaches : regime.charter.Reaches place)
    (within : value.Within regime.charter.inside) :
    Abides regime regime.Halts (fun _ => True) (Eval.writePlace host place value site) := by
  cases place with
  | binding context name _ => exact writeBinding reaches within
  | property object key =>
    exact (ofSpace (.nameFunction within key)).bind fun _ _ => sets key site reaches within
  | element handle index => exact writeElement reaches index within
  | range handle lower upper => exact writeRange reaches lower upper within

variable {loop : Bool}

theorem readProperty {value : Value} (within : value.Within regime.charter.inside) (key : String) :
    Abides regime regime.Halts (Value.Within regime.charter.inside)
      (Eval.readProperty value key : Run σ τ Halt Value) := by
  cases value with
  | undefined | null | bool | int | float | callable => exact raise rfl
  | object handle =>
    simp only [Eval.readProperty]
    refine askSpace fun _ upheld answer read => ?_
    obtain ⟨found, looked, same⟩ := ok_of_bind read
    cases same
    exact upheld.property? within looked
  | array handle =>
    simp only [Eval.readProperty]
    split
    · refine askSpace fun _ _ answer read => ?_
      obtain ⟨items, -, same⟩ := ok_of_bind read
      cases same
      exact Value.within_of_scalar rfl
    · exact raise rfl
  | string text =>
    simp only [Eval.readProperty]
    split
    · exact pure (Value.within_of_scalar rfl)
    · exact raise rfl

theorem variableValue {context : ContextRef} (new : regime.charter.New context.handle)
    (named : Variable) :
    Abides regime regime.Halts (Value.Within regime.charter.inside)
      (Eval.variableValue context named : Run σ τ Halt Value) := by
  unfold Eval.variableValue
  cases Eval.declared? named.hint with
  | none =>
    refine (resolve (regime.charter.new new) named.name).bind fun found fitting => ?_
    cases found with
    | ok value => exact pure (fitting.1 value rfl)
    | error error =>
      refine raise ?_
      rw [ScriptError.kind_locate]
      exact fitting.2 error rfl
  | some mutability =>
    have scalar : Value.Within regime.charter.inside .undefined := Value.within_of_scalar rfl
    exact (ofSpace (.define new named.name scalar mutability)).bind fun _ _ => pure scalar

theorem appendTo {target value : Value} (inside : target.Within regime.charter.inside)
    (within : value.Within regime.charter.inside) :
    Abides regime regime.Halts (Value.Within regime.charter.inside)
      (Eval.appendTo target value : Run σ τ Halt Value) := by
  cases target with
  | undefined | null | bool | int | float | string | object | callable => exact raise rfl
  | array handle =>
    refine (ofSpace (.updateArray (inside _ rfl) fun items before other member => ?_)).bind
      fun _ _ => pure inside
    rcases Array.mem_or_eq_of_mem_push member with member | rfl
    · exact before other member
    · exact within

theorem loopItems {value : Value} (within : value.Within regime.charter.inside) :
    Abides regime regime.Halts
      (fun items : List Value => ∀ item ∈ items, item.Within regime.charter.inside)
      (Eval.loopItems value : Run σ τ Halt (List Value)) := by
  cases value with
  | undefined | null | bool | int | float | string | callable => exact raise rfl
  | array handle =>
    simp only [Eval.loopItems]
    refine askSpace fun _ upheld answer read => ?_
    obtain ⟨items, found, same⟩ := ok_of_bind read
    cases same
    exact fun item member => upheld.array (within _ rfl) found item (Array.mem_def.mpr member)
  | object handle =>
    simp only [Eval.loopItems]
    refine askSpace fun _ _ answer read => ?_
    obtain ⟨data, -, same⟩ := ok_of_bind read
    cases same
    intro item member
    obtain ⟨key, -, rfl⟩ := List.mem_map.mp member
    exact Value.within_of_scalar rfl

/-- The right side of an index expression, ready to run under the regime. -/
inductive Selects (regime : Regime σ) (loop : Bool) : Eval.Selector σ τ → Prop where
  | missing : Selects regime loop .missing
  | range {lower upper : Run σ τ Exit (Option Int64)}
      (lowers : Abides regime (regime.Exits loop) (fun _ => True) lower)
      (uppers : Abides regime (regime.Exits loop) (fun _ => True) upper) :
      Selects regime loop (.range lower upper)
  | key {key : Run σ τ Exit Value}
      (keys : Abides regime (regime.Exits loop) (Value.Within regime.charter.inside) key) :
      Selects regime loop (.key key)

theorem indexPlace {target : Run σ τ Exit Value} {selector : Eval.Selector σ τ}
    (targets : Abides regime (regime.Exits loop) (Value.Within regime.charter.inside) target)
    (selects : Selects regime loop selector) :
    Abides regime (regime.Exits loop) regime.charter.Reaches
      (Eval.indexPlace target selector) := by
  refine targets.bind fun value within => ?_
  cases selects with
  | missing => exact fault _
  | key keys => exact keys.bind fun key _ => lift (keyPlace within key)
  | range lowers uppers =>
    cases value with
    | undefined | null | bool | int | float | string | object | callable => exact raised rfl
    | array handle =>
      exact lowers.bind fun lower _ => uppers.bind fun upper _ =>
        lift (rangePlace (within _ rfl) lower upper)

theorem strict (op : BinaryOperator) {left right : Run σ τ Exit Value}
    (lefts : Abides regime (regime.Exits loop) (Value.Within regime.charter.inside) left)
    (rights : Abides regime (regime.Exits loop) (Value.Within regime.charter.inside) right) :
    Abides regime (regime.Exits loop) (Value.Within regime.charter.inside)
      (Eval.strict op left right) :=
  lefts.bind fun _ first => rights.bind fun _ second => lift (binary op first second)

theorem compound {env : Environment σ τ} (conforms : regime.Conforms env) (op : Arithmetic)
    {place : Run σ τ Exit Place} {amount : Run σ τ Exit Value}
    (places : Abides regime (regime.Exits loop) regime.charter.Reaches place)
    (amounts : Abides regime (regime.Exits loop) (Value.Within regime.charter.inside) amount)
    (site : SourceInfo) :
    Abides regime (regime.Exits loop) (Value.Within regime.charter.inside)
      (Eval.compound env.write op place amount site) := by
  refine places.bind fun found reaches => (lift (readPlace reaches)).bind fun current first => ?_
  refine amounts.bind fun amount second => lift ?_
  refine (binary _ first second).bind fun updated within => ?_
  exact (conforms.write site reaches within).bind fun _ _ => pure within

end Abides

end ScriptEngine
