import ScriptEngine.Eval.Place
import ScriptEngine.Proofs.LockstepRuns

set_option autoImplicit false

namespace ScriptEngine

/-- A write whose values are all alike to themselves. -/
structure HostWrite.Fits (pairing : Pairing) (write : HostWrite) : Prop where
  object : write.object.Alike pairing write.object
  value : write.value.Alike pairing write.value
  captures : Value.AllAlike pairing write.captures write.captures

/-- A host that stores only what fits the space, and that does not give up under strict terms. -/
structure Obliging {σ τ : Type} (terms : Terms) (host : Host σ τ) : Prop where
  stores : terms.same → ∀ pairing space, Twins terms pairing space space →
    ∀ number write own value, write.Fits pairing →
      (host.hook number space write own).1 = .store value → value.Alike pairing value
  stays : terms.same → terms.strict → ∀ pairing space, Twins terms pairing space space →
    ∀ number write own fault, write.Fits pairing →
      (host.hook number space write own).1 ≠ .abort fault

inductive Place.Alike (pairing : Pairing) : Place → Place → Prop where
  | binding {left right : ContextRef} (contexts : left.Alike pairing right) (name : String)
      (declared : Bool) :
      Place.Alike pairing (.binding left name declared) (.binding right name declared)
  | property {left right : Handle} (paired : pairing .object left right) (key : String) :
      Place.Alike pairing (.property (.object left) key) (.property (.object right) key)
  | element {left right : Handle} (paired : pairing .array left right) (index : Nat) :
      Place.Alike pairing (.element left index) (.element right index)
  | range {left right : Handle} (paired : pairing .array left right) (lower upper : Nat) :
      Place.Alike pairing (.range left lower upper) (.range right lower upper)

theorem Place.Alike.mono {pairing larger : Pairing} (grown : pairing ≤ larger)
    {left right : Place} (alike : left.Alike pairing right) : left.Alike larger right := by
  cases alike with
  | binding contexts name declared => exact .binding (contexts.mono grown) name declared
  | property paired key => exact .property (grown _ _ _ paired) key
  | element paired index => exact .element (grown _ _ _ paired) index
  | range paired lower upper => exact .range (grown _ _ _ paired) lower upper

namespace Settled

variable {pairing : Pairing} {left left' right right' : Value}

theorem arithmetic (op : Arithmetic) (alike : left.Alike pairing left')
    (alike' : right.Alike pairing right') :
    Settled (Value.Alike pairing) (Eval.arithmetic op left right)
      (Eval.arithmetic op left' right') := by
  cases alike with
  | array | object | callable =>
    unfold Eval.arithmetic
    dsimp only [Value.float?]
    rw [alike'.typeName]
    exact .error _
  | scalar plain =>
    cases alike' with
    | array | object | callable =>
      cases left with
      | array | object | callable => cases plain
      | undefined | null | bool | int | float | string => exact .error _
    | scalar plain' =>
      refine .refl fun value result => .scalar ?_
      unfold Eval.arithmetic at result
      split at result
      · cases outcome : Eval.intArithmetic op _ _ <;> rw [outcome] at result <;> cases result
        rfl
      · split at result <;> cases result
        rfl

theorem compareValues (comparison : Comparison) (alike : left.Alike pairing left')
    (alike' : right.Alike pairing right') :
    Settled Eq (Eval.compareValues comparison left right)
      (Eval.compareValues comparison left' right') := by
  cases alike with
  | array | object | callable =>
    unfold Eval.compareValues
    dsimp only [Value.float?]
    rw [alike'.typeName]
    exact .error _
  | scalar plain =>
    cases alike' with
    | array | object | callable =>
      cases left with
      | array | object | callable => cases plain
      | undefined | null | bool | int | float | string => exact .error _
    | scalar plain' => exact .refl fun _ _ => rfl

end Settled

namespace Lockstep

variable {σ τ : Type} {terms : Terms} {queue : List τ} {pairing : Pairing}

theorem join {left left' right right' : Value} (alike : left.Alike pairing left')
    (alike' : right.Alike pairing right') :
    Lockstep (terms.calls σ queue) pairing Value.Alike (Eval.join left right)
      (Eval.join left' right') := by
  refine askSpace fun larger first second grown twins => ?_
  refine (Answers.display twins (alike.mono grown)).bind fun text text' same => ?_
  refine (Answers.display twins (alike'.mono grown)).map fun text₁ text₁' same' => ?_
  rw [same, same']
  exact .scalar rfl

private theorem add_text {left right : Value}
    (text : left.type = .string ∨ right.type = .string) :
    (Eval.add left right : Run σ τ Halt Value) = Eval.join left right := by
  unfold Eval.add
  split
  · rfl
  · rfl
  · rcases text with text | text <;> cases text
  · rename_i first second _
    rcases text with text | text
    · cases left <;> cases text
      exact absurd rfl (first _)
    · cases right <;> cases text
      exact absurd rfl (second _)

private theorem add_other {left right : Value}
    (text : ¬ (left.type = .string ∨ right.type = .string))
    (arrays : ¬ (left.type = .array ∧ right.type = .array)) :
    (Eval.add left right : Run σ τ Halt Value) =
      Run.orRaise (Eval.arithmetic .add left right) := by
  unfold Eval.add
  split
  · exact absurd (Or.inl rfl) text
  · exact absurd (Or.inr rfl) text
  · exact absurd ⟨rfl, rfl⟩ arrays
  · rfl

theorem addition {left left' right right' : Value} (alike : left.Alike pairing left')
    (alike' : right.Alike pairing right') :
    Lockstep (terms.calls σ queue) pairing Value.Alike (Eval.add left right)
      (Eval.add left' right') := by
  by_cases text : left.type = .string ∨ right.type = .string
  · rw [add_text text, add_text (alike.type ▸ alike'.type ▸ text)]
    exact join alike alike'
  · by_cases arrays : left.type = .array ∧ right.type = .array
    · obtain ⟨source, target, rfl, rfl, paired⟩ := alike.of_array arrays.1
      obtain ⟨source', target', rfl, rfl, paired'⟩ := alike'.of_array arrays.2
      refine (askSpace fun _ _ _ grown twins => Answers.array twins (grown _ _ _ paired)).bind
        fun larger grown items others first => ?_
      refine (askSpace fun _ _ _ grown' twins =>
        Answers.array twins (grown' _ _ _ (grown _ _ _ paired'))).bind
        fun larger' grown' items' others' second => ?_
      refine ofSpace (allocateArray ?_)
      rw [Array.toList_append, Array.toList_append]
      exact List.rel_append (first.mono grown') second
    · rw [add_other text arrays, add_other (alike.type ▸ alike'.type ▸ text)
        (alike.type ▸ alike'.type ▸ arrays)]
      exact orRaise fun _ grown => .arithmetic .add (alike.mono grown) (alike'.mono grown)

theorem binary (op : BinaryOperator) {left left' right right' : Value}
    (alike : left.Alike pairing left') (alike' : right.Alike pairing right') :
    Lockstep (terms.calls σ queue) pairing Value.Alike (Eval.binary op left right)
      (Eval.binary op left' right') := by
  have scalar : ∀ (larger : Pairing) (change : Bool → Bool) (first second : Bool),
      first = second → Value.Alike larger (.bool (change first)) (.bool (change second)) := by
    intro larger change first second same
    rw [same]
    exact .scalar rfl
  cases op with
  | equal =>
    exact askSpace fun larger _ _ grown twins =>
      (Answers.equal twins (alike.mono grown) (alike'.mono grown)).map (scalar larger id)
  | unequal =>
    exact askSpace fun larger _ _ grown twins =>
      (Answers.equal twins (alike.mono grown) (alike'.mono grown)).map (scalar larger not)
  | comparison comparison =>
    refine orRaise fun larger _ => ?_
    have settled := Settled.compareValues comparison alike alike'
    generalize Eval.compareValues comparison left right = first at settled
    generalize Eval.compareValues comparison left' right' = second at settled
    cases settled with
    | value same => exact .value (scalar larger id _ _ same)
    | error error => exact .error error
  | arithmetic op =>
    cases op with
    | add => exact addition alike alike'
    | sub | mul | div | rem =>
      exact orRaise fun _ grown => .arithmetic _ (alike.mono grown) (alike'.mono grown)

theorem bindingPlace {source target : ContextRef} (paired : source.Alike pairing target)
    (name : String) : Lockstep (terms.calls σ queue) pairing Place.Alike
      (Eval.bindingPlace source name) (Eval.bindingPlace target name) := by
  refine askSpace fun larger left right grown twins => ?_
  refine (Answers.owner twins name (paired.mono grown)).bind fun owner other owners => ?_
  cases owners with
  | none => exact .value (.binding (paired.mono grown) name false)
  | some owners => exact .value (.binding owners name true)

private theorem size_eq {items others : Array Value}
    (alike : Value.AllAlike pairing items.toList others.toList) : items.size = others.size := by
  simpa using alike.length_eq

theorem keyPlace {object object' key key' : Value} (objects : object.Alike pairing object')
    (keys : key.Alike pairing key') : Lockstep (terms.calls σ queue) pairing Place.Alike
      (Eval.keyPlace object key) (Eval.keyPlace object' key') := by
  cases objects with
  | scalar plain =>
    cases object with
    | array | object | callable => cases plain
    | undefined | null | bool | int | float | string =>
      unfold Eval.keyPlace
      dsimp only
      rw [keys.typeName]
      exact raise _
  | callable =>
    unfold Eval.keyPlace
    dsimp only
    rw [keys.typeName]
    exact raise _
  | object paired =>
    cases keys with
    | array | object | callable => exact raise _
    | scalar plain =>
      cases key with
      | array | object | callable => cases plain
      | undefined | null | bool | int | float => exact raise _
      | string name => exact pure fun _ grown => .property (grown _ _ _ paired) name
  | array paired =>
    cases keys with
    | array | object | callable => exact raise _
    | scalar plain =>
      cases key with
      | array | object | callable => cases plain
      | undefined | null | bool | float | string => exact raise _
      | int index =>
        refine (askSpace fun _ _ _ grown twins => Answers.array twins (grown _ _ _ paired)).bind
          fun larger grown items others alike => ?_
        rw [size_eq alike]
        refine bind (orRaise fun _ _ => .refl fun _ _ => rfl)
          fun larger' grown' chosen chosen' (same : chosen = chosen') => ?_
        rw [same]
        exact pure fun _ grown'' => .element (grown'' _ _ _ (grown' _ _ _ (grown _ _ _ paired))) _

theorem rangePlace {source target : Handle} (paired : pairing .array source target)
    (lower upper : Option Int64) : Lockstep (terms.calls σ queue) pairing Place.Alike
      (Eval.rangePlace source lower upper) (Eval.rangePlace target lower upper) := by
  refine (askSpace fun _ _ _ grown twins => Answers.array twins (grown _ _ _ paired)).bind
    fun larger grown items others alike => ?_
  rw [size_eq alike]
  refine bind (orRaise fun _ _ => .refl fun _ _ => rfl)
    fun larger' grown' chosen chosen' (same : chosen = chosen') => ?_
  subst same
  exact pure fun _ grown'' => .range (grown'' _ _ _ (grown' _ _ _ (grown _ _ _ paired))) _ _

private theorem getElem?_alike {items others : Array Value}
    (alike : Value.AllAlike pairing items.toList others.toList) (index : Nat) :
    Option.Rel (Value.Alike pairing) items[index]? others[index]? := by
  rw [← Array.getElem?_toList, ← Array.getElem?_toList]
  exact getElem?_rel alike index

private theorem extract_alike {items others : Array Value}
    (alike : Value.AllAlike pairing items.toList others.toList) (lower upper : Nat) :
    Value.AllAlike pairing (items.extract lower upper).toList
      (others.extract lower upper).toList := by
  rw [Array.toList_extract, Array.toList_extract]
  unfold List.extract
  exact List.forall₂_take _ (List.forall₂_drop _ alike)

theorem readPlace {place place' : Place} (alike : place.Alike pairing place') :
    Lockstep (terms.calls σ queue) pairing Value.Alike (Eval.readPlace place)
      (Eval.readPlace place') := by
  cases alike with
  | binding contexts name declared =>
    cases declared with
    | false => exact raise _
    | true =>
      refine (askSpace fun _ _ _ grown twins =>
        Answers.resolve twins name (contexts.mono grown)).bind
          fun larger grown found found' both => ?_
      refine orRaise fun larger' grown' => ?_
      cases both with
      | value both => exact .value (both.mono grown')
      | error error => exact .error error
  | property paired key =>
    simp only [Eval.readPlace]
    refine askSpace fun larger _ _ grown twins => ?_
    refine (Answers.property twins key (.object (grown _ _ _ paired)) fun _ => rfl).map
      fun found found' both => ?_
    cases both with
    | none => exact .scalar rfl
    | some both => exact both
  | element paired index =>
    refine (askSpace fun _ _ _ grown twins => Answers.array twins (grown _ _ _ paired)).bind
      fun larger grown items others both => ?_
    have found := getElem?_alike both index
    rw [size_eq both]
    generalize items[index]? = item at found
    generalize others[index]? = item' at found
    cases found with
    | none => exact raise _
    | some found => exact pure fun _ grown' => found.mono grown'
  | range paired lower upper =>
    refine (askSpace fun _ _ _ grown twins => Answers.array twins (grown _ _ _ paired)).bind
      fun larger grown items others both => ?_
    rw [size_eq both]
    split
    · exact ofSpace (allocateArray (extract_alike both lower upper))
    · exact raise _

private theorem setProperty_plain {host : Host σ τ} {handle : Handle} {key : String}
    {value : Value} {site : SourceInfo} {state : RunState σ τ}
    (plain : ∀ wrapping, state.space.wraps.get? handle = some wrapping → wrapping.setter = none) :
    Eval.setProperty host (.object handle) key value site state =
      Run.ofSpace (Space.putProperty handle key value) state := by
  unfold Eval.setProperty
  simp only [Act.bind_apply, Run.askSpace, Space.objectHandle, Except.mapError]
  rcases found : state.space.wraps.get? handle with _ | ⟨number, _ | setter, captures⟩
  · rfl
  · rfl
  · cases plain _ found

private theorem setProperty_hooked {host : Host σ τ} {handle : Handle} {key : String}
    {value : Value} {site : SourceInfo} {state : RunState σ τ} {number setter : Nat}
    {captures : List Value}
    (hooked : state.space.wraps.get? handle = some ⟨number, some setter, captures⟩) :
    Eval.setProperty host (.object handle) key value site state =
      match host.hook setter state.space ⟨number, .object handle, key, value, site, captures⟩
        state.own with
      | (.store stored, own) =>
        Run.ofSpace (Space.putProperty handle key stored) { state with own }
      | (.absorb, own) => (.ok (), { state with own })
      | (.reject error, own) => (.error (.raised (error.locate site)), { state with own })
      | (.abort fault, own) => (.error (.fault fault), { state with own }) := by
  obtain ⟨native, hook⟩ := host
  unfold Eval.setProperty
  simp only [Act.bind_apply, Run.askSpace, Space.objectHandle, Except.mapError, hooked,
    Eval.consult]
  generalize hook setter _ _ _ = answer
  obtain ⟨answer, own⟩ := answer
  cases answer <;> rfl

/-- The hook of a wrapped object sees the same write twice, since only a space beside itself has
wrapped objects. -/
theorem setProperty {host : Host σ τ} (obliging : Obliging terms host) {source target : Handle}
    (paired : pairing .object source target) (key : String) {value other : Value}
    (alike : value.Alike pairing other) (site : SourceInfo) :
    Lockstep (terms.calls σ queue) pairing Equal
      (Eval.setProperty host (.object source) key value site)
      (Eval.setProperty host (.object target) key other site) := by
  intro larger left right grown states
  have plainly : Outcome (terms.calls σ queue) larger Equal
      (Run.ofSpace (Space.putProperty source key value) left)
      (Run.ofSpace (Space.putProperty target key other) right) :=
    ofSpace (putProperty (grown _ _ _ paired) key (alike.mono grown)) larger left right
      (le_refl _) states
  by_cases same : terms.same
  · obtain ⟨equal, identity, -, wrapped⟩ := states.spaces.same same
    have handles := identity (grown _ _ _ paired)
    have valuesEqual := (alike.mono grown).eq fun _ _ _ => identity
    subst handles valuesEqual
    rcases found : left.space.wraps.get? source with _ | ⟨number, _ | setter, captures⟩
    · rw [setProperty_plain (by simp [found]), setProperty_plain (by simp [← equal, found])]
      exact plainly
    · rw [setProperty_plain (by simp [found]), setProperty_plain (by simp [← equal, found])]
      exact plainly
    · have twins : Twins terms larger left.space left.space := by
        have twins := states.spaces
        rwa [← equal] at twins
      have fits : HostWrite.Fits larger ⟨number, .object source, key, value, site, captures⟩ :=
        ⟨.object (grown _ _ _ paired), alike.mono grown, (wrapped found).2⟩
      rw [setProperty_hooked found, setProperty_hooked (by rw [← equal]; exact found), ← equal,
        ← states.own]
      have stored := fun value =>
        obliging.stores same larger _ twins setter _ left.own value fits
      have stayed := fun strict fault =>
        obliging.stays same strict larger _ twins setter _ left.own fault fits
      generalize host.hook setter _ _ _ = answer at stored stayed
      obtain ⟨answer, own⟩ := answer
      have states' : Abreast terms queue larger { left with own }
          ⟨left.space, right.stack, own, right.queue⟩ :=
        ⟨twins, states.stack, rfl, states.queueLeft, states.queueRight⟩
      cases answer with
      | store value =>
        exact ofSpace (putProperty (grown _ _ _ paired) key (stored value rfl)) larger _ _
          (le_refl _) states'
      | absorb => exact .value (le_refl _) states' rfl
      | reject error => exact .early (le_refl _) states' (.raised _)
      | abort fault =>
        refine .early (le_refl _) states' (.fault ?_ ?_) <;>
          exact fun strict => absurd rfl (stayed strict fault)
  · have none := fun handle => states.spaces.apart same handle
    rw [setProperty_plain (by simp [none]), setProperty_plain (by simp [none])]
    exact plainly

theorem writeBinding {source target : ContextRef} (paired : source.Alike pairing target)
    (name : String) {value other : Value} (alike : value.Alike pairing other) :
    Lockstep (terms.calls σ queue) pairing Equal (Eval.writeBinding source name value)
      (Eval.writeBinding target name other) := by
  refine (ofSpace (nameFunction alike name)).bind fun larger grown _ _ _ => ?_
  refine (ofSpace (assign (paired.mono grown) name (alike.mono grown))).bind
    fun larger' grown' assigned assigned' same => ?_
  subst same
  cases assigned with
  | stored => exact pure fun _ _ => rfl
  | immutable => exact raise _
  | undefined =>
    exact ofSpace (define (paired.mono (grown.trans grown')) name
      (alike.mono (grown.trans grown')) _)

private theorem set_alike {items others : Array Value}
    (both : Value.AllAlike pairing items.toList others.toList) (index : Nat) {value other : Value}
    (alike : value.Alike pairing other) :
    Value.AllAlike pairing (items.setIfInBounds index value).toList
      (others.setIfInBounds index other).toList := by
  rw [Array.toList_setIfInBounds, Array.toList_setIfInBounds]
  generalize items.toList = first at both
  generalize others.toList = second at both
  induction both generalizing index with
  | nil => exact .nil
  | cons head rest ih =>
    cases index with
    | zero => exact .cons alike rest
    | succ index => exact .cons head (ih index)

theorem writeElement {source target : Handle} (paired : pairing .array source target)
    (index : Nat) {value other : Value} (alike : value.Alike pairing other) :
    Lockstep (terms.calls σ queue) pairing Equal (Eval.writeElement source index value)
      (Eval.writeElement target index other) := by
  refine (askSpace fun _ _ _ grown twins => Answers.array twins (grown _ _ _ paired)).bind
    fun larger grown items others both => ?_
  rw [size_eq both]
  split
  · exact ofSpace (updateArray (grown _ _ _ paired) fun _ _ _ grown' both =>
      set_alike both index (alike.mono (grown.trans grown')))
  · exact raise _

private theorem splice_alike {items others items' others' : Array Value}
    (both : Value.AllAlike pairing items.toList others.toList)
    (replaced : Value.AllAlike pairing items'.toList others'.toList) (lower upper : Nat) :
    Value.AllAlike pairing (Eval.splice items lower upper items').toList
      (Eval.splice others lower upper others').toList := by
  unfold Eval.splice
  simp only [Array.toList_append, size_eq both]
  exact List.rel_append (List.rel_append (extract_alike both _ _) replaced)
    (extract_alike both _ _)

theorem writeRange {source target : Handle} (paired : pairing .array source target)
    (lower upper : Nat) {value other : Value} (alike : value.Alike pairing other) :
    Lockstep (terms.calls σ queue) pairing Equal (Eval.writeRange source lower upper value)
      (Eval.writeRange target lower upper other) := by
  cases alike with
  | scalar plain =>
    cases value with
    | array | object | callable => cases plain
    | undefined | null | bool | int | float | string => exact raise _
  | object | callable => exact raise _
  | array paired' =>
    refine (askSpace fun _ _ _ grown twins => Answers.array twins (grown _ _ _ paired')).bind
      fun larger grown items others replaced => ?_
    refine (askSpace fun _ _ _ grown' twins =>
      Answers.array twins (grown' _ _ _ (grown _ _ _ paired))).bind
      fun larger' grown' items' others' both => ?_
    rw [size_eq both]
    split
    · exact ofSpace (updateArray (grown' _ _ _ (grown _ _ _ paired)) fun _ _ _ grown'' both =>
        splice_alike both (replaced.mono (grown'.trans grown'')) lower upper)
    · exact raise _

theorem writePlace {host : Host σ τ} (obliging : Obliging terms host) {place place' : Place}
    (places : place.Alike pairing place') {value other : Value}
    (alike : value.Alike pairing other) (site : SourceInfo) :
    Lockstep (terms.calls σ queue) pairing Equal (Eval.writePlace host place value site)
      (Eval.writePlace host place' other site) := by
  cases places with
  | binding contexts name _ => exact writeBinding contexts name alike
  | property paired key =>
    exact (ofSpace (nameFunction alike key)).bind fun _ grown _ _ _ =>
      setProperty obliging (grown _ _ _ paired) key (alike.mono grown) site
  | element paired index => exact writeElement paired index alike
  | range paired lower upper => exact writeRange paired lower upper alike

/-- Writes that stay in lockstep. -/
def Writes (terms : Terms) (queue : List τ)
    (write : Place → Value → SourceInfo → Run σ τ Halt Unit) : Prop :=
  ∀ pairing place place' value other site, Place.Alike pairing place place' →
    Value.Alike pairing value other →
    Lockstep (terms.calls σ queue) pairing Equal (write place value site) (write place' other site)

theorem writes_writePlace {host : Host σ τ} (obliging : Obliging terms host) :
    Writes terms queue (Eval.writePlace host) :=
  fun _ _ _ _ _ site places alike => writePlace obliging places alike site

theorem updatePlace {write : Place → Value → SourceInfo → Run σ τ Halt Unit}
    (writes : Writes terms queue write) (op : Arithmetic) {place place' : Place}
    (places : place.Alike pairing place') {current current' amount amount' : Value}
    (alike : current.Alike pairing current') (amounts : amount.Alike pairing amount')
    (site : SourceInfo) :
    Lockstep (terms.calls σ queue) pairing Value.Alike
      (Eval.updatePlace write op place current amount site)
      (Eval.updatePlace write op place' current' amount' site) :=
  (binary (.arithmetic op) alike amounts).bind fun _ grown _ _ updated =>
    (writes _ _ _ _ _ site (places.mono grown) updated).bind fun _ grown' _ _ _ =>
      pure fun _ grown'' => updated.mono (grown'.trans grown'')

end Lockstep

end ScriptEngine
