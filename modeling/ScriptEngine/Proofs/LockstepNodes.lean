import ScriptEngine.Eval.Node
import ScriptEngine.Proofs.LockstepPlaces

set_option autoImplicit false

namespace ScriptEngine

namespace Answers

variable {terms : Terms} {pairing : Pairing} {left right : Space}

theorem thrownError (twins : Twins terms pairing left right) {value other : Value}
    (alike : value.Alike pairing other) : Answers terms.spaces pairing Equal left right
      (Eval.thrownError value left) (Eval.thrownError other right) := by
  have plain : ∀ {value other : Value}, value.Alike pairing other →
      Answers terms.spaces pairing Equal left right
        (do return ScriptError.ofKind (.thrown Eval.defaultCode (← left.display value)))
        (do return ScriptError.ofKind (.thrown Eval.defaultCode (← right.display other))) := by
    intro value other alike
    exact (display twins alike).map fun text text' same => by rw [same]
  cases alike with
  | scalar plain' =>
    cases value with
    | array | object | callable => cases plain'
    | undefined | null | bool | int | float | string => exact plain (.scalar rfl)
  | array paired => exact plain (.array paired)
  | callable paired => exact plain (.callable paired)
  | @object source target paired =>
    have objects : Value.Alike pairing (.object source) (.object target) := .object paired
    refine (property twins "type" objects fun _ => rfl).bind fun code code' codes => ?_
    refine (property twins "reason" objects fun _ => rfl).bind fun reason reason' reasons => ?_
    have shown : (reason.getD (.object source)).Alike pairing (reason'.getD (.object target)) := by
      cases reasons with
      | none => exact objects
      | some reasons => exact reasons
    refine (display twins shown).map fun text text' same => ?_
    rw [same]
    cases codes with
    | none => rfl
    | some codes => cases codes <;> rfl

end Answers

theorem Lockstep.errorObject {terms : Terms} {pairing : Pairing} (error : ScriptError) :
    Lockstep terms.spaces pairing Value.AlikeObjects (Eval.errorObject error)
      (Eval.errorObject error) := by
  refine Lockstep.allocateObject ⟨?_, rfl, .none, rfl, .empty⟩
  refine Table.Alike.insertAll ?_ Table.Alike.empty
  exact .cons ⟨rfl, .scalar rfl⟩ (.cons ⟨rfl, .scalar rfl⟩ (.cons ⟨rfl, .scalar rfl⟩ .nil))

/-- An environment whose writes, bodies, handlers and calls stay in lockstep. -/
structure Faithful {σ τ : Type} (terms : Terms) (queue : List τ) (env : Environment σ τ) :
    Prop where
  write : Lockstep.Writes terms queue env.write
  finish : ∀ {pairing : Pairing} {first second : Run σ τ Exit Unit},
    Lockstep (terms.nodes σ queue) pairing Equal first second →
    Lockstep (terms.calls σ queue) pairing Value.Alike (env.finish first) (env.finish second)
  rescue : ∀ {pairing : Pairing} {first second : Run σ τ Exit Unit}
    {handler handler' : ScriptError → Run σ τ Exit Unit},
    Lockstep (terms.nodes σ queue) pairing Equal first second →
    (∀ error larger, pairing ≤ larger →
      Lockstep (terms.nodes σ queue) larger Equal (handler error) (handler' error)) →
    Lockstep (terms.nodes σ queue) pairing Equal (env.rescue first handler)
      (env.rescue second handler')
  call : ∀ pairing callee callee' arguments arguments' site, Value.Alike pairing callee callee' →
    Value.AllAlike pairing arguments arguments' →
    Lockstep (terms.calls σ queue) pairing Value.Alike (env.call callee arguments site)
      (env.call callee' arguments' site)

namespace Lockstep

variable {σ τ α β : Type} {terms : Terms} {queue : List τ} {pairing : Pairing}
  {values : Pairing → α → β → Prop}

theorem readProperty {value other : Value} (alike : value.Alike pairing other) (key : String) :
    Lockstep (terms.calls σ queue) pairing Value.Alike (Eval.readProperty value key)
      (Eval.readProperty other key) := by
  cases alike with
  | scalar plain =>
    cases value with
    | array | object | callable => cases plain
    | undefined | null | bool | int | float => exact raise _
    | string text =>
      simp only [Eval.readProperty]
      split
      · exact pure fun _ _ => .scalar rfl
      · exact raise _
  | callable => exact raise _
  | object paired =>
    simp only [Eval.readProperty]
    refine askSpace fun larger left right grown twins => ?_
    refine (Answers.property twins key (.object (grown _ _ _ paired)) fun _ => rfl).map
      fun found found' both => ?_
    cases both with
    | none => exact .scalar rfl
    | some both => exact both
  | array paired =>
    simp only [Eval.readProperty]
    split
    · refine askSpace fun larger left right grown twins => ?_
      refine (Answers.array twins (grown _ _ _ paired)).map fun items others both => ?_
      have sizes : items.size = others.size := by simpa using both.length_eq
      rw [sizes]
      exact .scalar rfl
    · exact raise _

theorem keyName {operand : Option Operand}
    (named : terms.strict → operand.any Operand.isName = true) :
    Lockstep (terms.calls σ queue) pairing Equal (Run.askSpace fun _ => Eval.keyName operand)
      (Run.askSpace fun _ => Eval.keyName operand) := by
  refine askSpace fun larger left right grown twins => ?_
  have refused : ∀ fault, (¬ terms.strict) → Answers terms.spaces larger Equal left right
      (Except.error fault : Except Fault String) (.error fault) := fun fault loose =>
    .early ⟨fun strict => absurd strict loose, fun strict => absurd strict loose⟩
  unfold Eval.keyName
  split
  · exact .value rfl
  · exact .value rfl
  · rename_i inner notVar notText
    refine refused _ fun strict => ?_
    have name : inner.isName = true := named strict
    unfold Operand.isName at name
    split at name
    · exact notVar _ _ rfl
    · exact notText _ _ rfl
    · cases name
  · exact refused _ fun strict => absurd (named strict) (by simp)

theorem variableValue {source target : ContextRef} (paired : source.Alike pairing target)
    (named : Variable) : Lockstep (terms.calls σ queue) pairing Value.Alike
      (Eval.variableValue source named) (Eval.variableValue target named) := by
  unfold Eval.variableValue
  cases Eval.declared? named.hint with
  | none =>
    refine (askSpace fun _ _ _ grown twins =>
      Answers.resolve twins named.name (paired.mono grown)).bind
      fun larger grown found found' both => ?_
    cases both with
    | value both => exact pure fun _ grown' => both.mono grown'
    | error error => exact raise _
  | some mutability =>
    exact (ofSpace (define paired named.name (.scalar rfl) mutability)).bind fun _ _ _ _ _ =>
      pure fun _ _ => .scalar rfl

theorem appendTo {object object' value value' : Value} (objects : object.Alike pairing object')
    (alike : value.Alike pairing value') : Lockstep (terms.calls σ queue) pairing Value.Alike
      (Eval.appendTo object value) (Eval.appendTo object' value') := by
  cases objects with
  | scalar plain =>
    cases object with
    | array | object | callable => cases plain
    | undefined | null | bool | int | float | string => exact raise _
  | object | callable => exact raise _
  | array paired =>
    refine (ofSpace (updateArray paired fun _ items others grown both => ?_)).bind
      fun _ grown _ _ _ => pure fun _ grown' => .array (grown' _ _ _ (grown _ _ _ paired))
    rw [Array.toList_push, Array.toList_push]
    exact List.rel_append both (.cons (alike.mono grown) .nil)

theorem loopItems {value other : Value} (alike : value.Alike pairing other) :
    Lockstep (terms.calls σ queue) pairing Value.AllAlike (Eval.loopItems value)
      (Eval.loopItems other) := by
  cases alike with
  | scalar plain =>
    cases value with
    | array | object | callable => cases plain
    | undefined | null | bool | int | float | string => exact raise _
  | callable => exact raise _
  | array paired =>
    simp only [Eval.loopItems]
    exact askSpace fun _ _ _ grown twins =>
      (Answers.array twins (grown _ _ _ paired)).map fun _ _ both => both
  | object paired =>
    simp only [Eval.loopItems]
    refine askSpace fun larger _ _ grown twins => ?_
    refine (Answers.objectData twins (grown _ _ _ paired)).map fun data others both => ?_
    rw [both.properties.keys]
    refine List.forall₂_same.mpr fun value member => ?_
    obtain ⟨key, -, rfl⟩ := List.mem_map.mp member
    exact .scalar rfl

theorem expectInt {value other : Value} (alike : value.Alike pairing other) :
    Settled Eq (Eval.expectInt value) (Eval.expectInt other) := by
  cases alike with
  | scalar plain => exact .refl fun _ _ => rfl
  | array | object | callable => exact .error _

theorem fault {fault : Fault} (loose : ¬ terms.strict) :
    Lockstep (terms.nodes σ queue) pairing values (MonadExcept.throw (.fault fault))
      (MonadExcept.throw (.fault fault)) :=
  throw fun _ _ _ _ _ => .halted (.fault (fun strict => absurd strict loose)
    fun strict => absurd strict loose)

theorem raised (error : ScriptError) :
    Lockstep (terms.nodes σ queue) pairing values (MonadExcept.throw (.raised error))
      (MonadExcept.throw (.raised error)) :=
  throw fun _ _ _ _ _ => .halted (.raised error)

theorem onSpace {first : SpaceM α} {second : SpaceM β}
    (both : Lockstep terms.spaces pairing values first second) :
    Lockstep (terms.nodes σ queue) pairing values (Eval.onSpace first) (Eval.onSpace second) :=
  lift (ofSpace both)

/-- Right sides of index expressions that run in lockstep. -/
inductive Selects (terms : Terms) (queue : List τ) (pairing : Pairing) :
    Eval.Selector σ τ → Eval.Selector σ τ → Prop where
  | missing (loose : ¬ terms.strict) : Selects terms queue pairing .missing .missing
  | range {lower lower' upper upper' : Run σ τ Exit (Option Int64)}
      (lowers : Lockstep (terms.nodes σ queue) pairing Equal lower lower')
      (uppers : Lockstep (terms.nodes σ queue) pairing Equal upper upper') :
      Selects terms queue pairing (.range lower upper) (.range lower' upper')
  | key {key key' : Run σ τ Exit Value}
      (keys : Lockstep (terms.nodes σ queue) pairing Value.Alike key key') :
      Selects terms queue pairing (.key key) (.key key')

theorem indexPlace {target target' : Run σ τ Exit Value}
    (targets : Lockstep (terms.nodes σ queue) pairing Value.Alike target target')
    {selector selector' : Eval.Selector σ τ}
    (selectors : Selects terms queue pairing selector selector') :
    Lockstep (terms.nodes σ queue) pairing Place.Alike (Eval.indexPlace target selector)
      (Eval.indexPlace target' selector') := by
  refine targets.bind fun larger grown value value' alike => ?_
  cases selectors with
  | missing loose => exact fault loose
  | key keys =>
    exact (keys.mono grown).bind fun _ grown' _ _ keys =>
      lift (keyPlace (alike.mono grown') keys)
  | range lowers uppers =>
    cases alike with
    | scalar plain =>
      cases value with
      | array | object | callable => cases plain
      | undefined | null | bool | int | float | string => exact raised _
    | object | callable => exact raised _
    | array paired =>
      refine (lowers.mono grown).bind fun _ grown₁ _ _ same => ?_
      refine (uppers.mono (grown.trans grown₁)).bind fun _ grown₂ _ _ same' => ?_
      rw [same, same']
      exact lift (rangePlace (grown₂ _ _ _ (grown₁ _ _ _ paired)) _ _)

theorem strict (op : BinaryOperator) {left left' right right' : Run σ τ Exit Value}
    (lefts : Lockstep (terms.nodes σ queue) pairing Value.Alike left left')
    (rights : Lockstep (terms.nodes σ queue) pairing Value.Alike right right') :
    Lockstep (terms.nodes σ queue) pairing Value.Alike (Eval.strict op left right)
      (Eval.strict op left' right') :=
  lefts.bind fun _ grown _ _ first => (rights.mono grown).bind fun _ grown' _ _ second =>
    lift (binary op (first.mono grown') second)

theorem compound {write : Place → Value → SourceInfo → Run σ τ Halt Unit}
    (writes : Writes terms queue write) (op : Arithmetic)
    {place place' : Run σ τ Exit Place} {amount amount' : Run σ τ Exit Value}
    (places : Lockstep (terms.nodes σ queue) pairing Place.Alike place place')
    (amounts : Lockstep (terms.nodes σ queue) pairing Value.Alike amount amount')
    (site : SourceInfo) :
    Lockstep (terms.nodes σ queue) pairing Value.Alike
      (Eval.compound write op place amount site)
      (Eval.compound write op place' amount' site) := by
  refine places.bind fun _ grown₁ _ _ found => ?_
  refine (lift (readPlace found)).bind fun _ grown₂ _ _ current => ?_
  refine (amounts.mono (grown₁.trans grown₂)).bind fun _ grown₃ _ _ alike => ?_
  exact lift (updatePlace writes op (found.mono (grown₂.trans grown₃)) (current.mono grown₃)
    alike site)

theorem declare {source target : ContextRef} (contexts : source.Alike pairing target)
    (name : String) (mutability : Mutability) {origin origin' : Run σ τ Exit Value}
    (origins : Lockstep (terms.nodes σ queue) pairing Value.Alike origin origin') :
    Lockstep (terms.nodes σ queue) pairing Value.Alike
      (do
        let value ← origin
        Eval.onSpace (Space.nameFunction value name)
        Eval.onSpace (Space.define source name value mutability)
        return value)
      (do
        let value ← origin'
        Eval.onSpace (Space.nameFunction value name)
        Eval.onSpace (Space.define target name value mutability)
        return value) := by
  refine origins.bind fun _ grown _ _ alike => ?_
  refine (onSpace (nameFunction alike name)).bind fun _ grown' _ _ _ => ?_
  refine (onSpace (define (contexts.mono (grown.trans grown')) name (alike.mono grown')
    mutability)).bind fun _ grown'' _ _ _ => ?_
  exact pure fun _ wider => alike.mono ((grown'.trans grown'').trans wider)

/-- An assignment that writes to a place. The place is found before the value is. -/
theorem storeTo {write : Place → Value → SourceInfo → Run σ τ Halt Unit}
    (writes : Writes terms queue write)
    {place place' : Run σ τ Exit Place} {origin origin' : Run σ τ Exit Value}
    (places : Lockstep (terms.nodes σ queue) pairing Place.Alike place place')
    (origins : Lockstep (terms.nodes σ queue) pairing Value.Alike origin origin')
    (site : SourceInfo) :
    Lockstep (terms.nodes σ queue) pairing Value.Alike
      (do
        let found ← place
        let value ← origin
        Run.lift (write found value site)
        return value)
      (do
        let found ← place'
        let value ← origin'
        Run.lift (write found value site)
        return value) := by
  refine places.bind fun _ grown _ _ found => ?_
  refine (origins.mono grown).bind fun _ grown' _ _ alike => ?_
  refine (lift (writes _ _ _ _ _ site (found.mono grown') alike)).bind
    fun _ grown'' _ _ _ => ?_
  exact pure fun _ wider => alike.mono (grown''.trans wider)

end Lockstep

namespace WellFormed

variable {site : SourceInfo} {op : Operator} {left right : Option Operand}

private theorem node_supplied (formed : expression (.node site op left right) = true) :
    (left.isSome = true ∨ op.needsLeft = false) ∧
      (right.isSome = true ∨ op.needsRight = false) := by
  simp only [expression, Bool.and_eq_true] at formed
  simpa [Operator.supplied] using formed.1.1.1

theorem node_left (formed : expression (.node site op left right) = true) :
    optional left = true := by
  simp only [expression, Bool.and_eq_true] at formed
  exact formed.1.2

theorem node_right (formed : expression (.node site op left right) = true)
    (other : op ≠ .index) : optional right = true := by
  simp only [expression, Bool.and_eq_true, if_neg other] at formed
  exact formed.2

theorem node_first (formed : expression (.node site op left right) = true)
    (needed : op.needsLeft = true) : (left.isSome && optional left) = true := by
  have present : left.isSome = true := by
    rcases (node_supplied formed).1 with present | spared
    · exact present
    · rw [needed] at spared
      cases spared
  rw [present, node_left formed]
  rfl

private theorem node_present (formed : expression (.node site op left right) = true)
    (needed : op.needsRight = true) : right.isSome = true := by
  rcases (node_supplied formed).2 with present | spared
  · exact present
  · rw [needed] at spared
    cases spared

theorem node_second (formed : expression (.node site op left right) = true)
    (needed : op.needsRight = true) (other : op ≠ .index) :
    (right.isSome && optional right) = true := by
  rw [node_present formed needed, node_right formed other]
  rfl

theorem node_selector (formed : expression (.node site .index left right) = true) :
    (right.isSome && selector right) = true := by
  have present := node_present formed rfl
  simp only [expression, Bool.and_eq_true, if_true] at formed
  rw [present, formed.2]
  rfl

theorem node_name (formed : expression (.node site .child left right) = true) :
    right.any Operand.isName = true := by
  have present := node_present formed rfl
  simp only [expression, Bool.and_eq_true] at formed
  cases right with
  | none => cases present
  | some inner => simpa using formed.1.1.2

end WellFormed

end ScriptEngine
