import ScriptEngine.Proofs.Lockstep

set_option autoImplicit false

namespace ScriptEngine

/-- The plain data that both sides share. -/
abbrev Equal {α : Type} (_ : Pairing) (first second : α) : Prop := first = second

namespace Lockstep

variable {terms : Terms} {pairing : Pairing}

theorem allocate {payload other : Payload} (alike : payload.Alike terms.strict pairing other) :
    Lockstep terms.spaces pairing (fun larger => larger payload.role) (Space.allocate payload)
      (Space.allocate other) := by
  intro larger left right grown twins
  rcases Twins.allocate twins (alike.mono grown) with
    ⟨source, target, left', right', made, made', twins'⟩ | ⟨failed, full, both⟩ |
      ⟨failed, full, differ⟩
  · rw [made, made']
    exact .value (larger.le_add _ _ _) twins' (larger.add_self _ _ _)
  · rw [failed]
    by_cases same : terms.same
    · obtain ⟨failed', full'⟩ := both same
      rw [failed']
      exact .early (le_refl _) twins ⟨fun _ => Or.inl ⟨rfl, full⟩, fun _ => Or.inl ⟨rfl, full'⟩⟩
    · exact .lostLeft ⟨same, rfl, full⟩
  · rw [failed]
    exact .lostRight ⟨differ, rfl, full⟩

theorem allocateArray {items others : Array Value}
    (alike : Value.AllAlike pairing items.toList others.toList) :
    Lockstep terms.spaces pairing Value.Alike (Space.allocateArray items)
      (Space.allocateArray others) :=
  (allocate (.array alike)).bind fun _ _ _ _ paired =>
    .pure fun _ grown => .array (grown _ _ _ paired)

theorem allocateObject {data others : ObjectData} (alike : data.Alike pairing others) :
    Lockstep terms.spaces pairing Value.AlikeObjects (Space.allocateObject data)
      (Space.allocateObject others) :=
  (allocate (.object alike)).bind fun _ _ _ _ paired =>
    .pure fun _ grown => ⟨.object (grown _ _ _ paired), rfl⟩

theorem allocateFunction {closure other : Closure}
    (alike : closure.Alike terms.strict pairing other) :
    Lockstep terms.spaces pairing Value.Alike (Space.allocateFunction closure)
      (Space.allocateFunction other) :=
  (allocate (.function alike)).bind fun _ _ _ _ paired =>
    .pure fun _ grown => .callable (grown _ _ _ paired)

theorem allocateNative {callee other : NativeFunction}
    (alike : callee.Alike terms.strict pairing other) :
    Lockstep terms.spaces pairing Value.Alike (Space.allocateNative callee)
      (Space.allocateNative other) :=
  (allocate (.native alike)).bind fun _ _ _ _ paired =>
    .pure fun _ grown => .callable (grown _ _ _ paired)

theorem allocateContext {kind kind' : ContextKind} (alike : kind.Alike pairing kind') :
    Lockstep terms.spaces pairing ContextRef.Alike (Space.allocateContext kind)
      (Space.allocateContext kind') :=
  (allocate (.context ⟨alike, .empty⟩)).bind fun _ _ _ _ paired =>
    .pure fun _ grown => grown _ _ _ paired

theorem fork {parent parent' : ContextRef} (paired : parent.Alike pairing parent')
    (site : SourceInfo) : Lockstep terms.spaces pairing ContextRef.Alike
      (Space.fork parent site) (Space.fork parent' site) :=
  allocateContext (.child paired site)

theorem updateArray {source target : Handle} (paired : pairing .array source target)
    {change change' : Array Value → Array Value}
    (changed : ∀ larger items others, pairing ≤ larger →
      Value.AllAlike larger items.toList others.toList →
      Value.AllAlike larger (change items).toList (change' others).toList) :
    Lockstep terms.spaces pairing Equal (Space.updateArray source change)
      (Space.updateArray target change') := by
  intro larger left right grown twins
  obtain ⟨items, others, held, held', alike⟩ := Twins.get_array twins (grown _ _ _ paired)
  obtain ⟨left', right', stored, stored', twins'⟩ := Twins.store twins (grown _ _ _ paired) _ _ rfl
    (.array (changed larger items others grown alike)) (by simp [held, Payload.parent?])
    (by simp [held', Payload.parent?])
  have first : Space.updateArray source change left = (.ok (), left') :=
    (Act.ask_bind_ok _ (by simp [Space.array, Space.get, held])).trans stored
  have second : Space.updateArray target change' right = (.ok (), right') :=
    (Act.ask_bind_ok _ (by simp [Space.array, Space.get, held'])).trans stored'
  rw [first, second]
  exact .value (le_refl _) twins' rfl

theorem updateObject {source target : Handle} (paired : pairing .object source target)
    {change change' : ObjectData → ObjectData}
    (changed : ∀ larger data others, pairing ≤ larger → data.Alike larger others →
      (change data).Alike larger (change' others)) :
    Lockstep terms.spaces pairing Equal (Space.updateObject source change)
      (Space.updateObject target change') := by
  intro larger left right grown twins
  obtain ⟨data, others, held, held', alike⟩ := Twins.get_object twins (grown _ _ _ paired)
  obtain ⟨left', right', stored, stored', twins'⟩ := Twins.store twins (grown _ _ _ paired) _ _ rfl
    (.object (changed larger data others grown alike)) (by simp [held, Payload.parent?])
    (by simp [held', Payload.parent?])
  have first : Space.updateObject source change left = (.ok (), left') :=
    (Act.ask_bind_ok _ (by simp [Space.objectData, Space.get, held])).trans stored
  have second : Space.updateObject target change' right = (.ok (), right') :=
    (Act.ask_bind_ok _ (by simp [Space.objectData, Space.get, held'])).trans stored'
  rw [first, second]
  exact .value (le_refl _) twins' rfl

theorem updateContext {source target : ContextRef} (paired : source.Alike pairing target)
    {change change' : Context → Context}
    (changed : ∀ larger data others, pairing ≤ larger → data.Alike larger others →
      (change data).Alike larger (change' others))
    (chained : ∀ data, (change data).parent? = data.parent?)
    (chained' : ∀ data, (change' data).parent? = data.parent?) :
    Lockstep terms.spaces pairing Equal (Space.updateContext source change)
      (Space.updateContext target change') := by
  intro larger left right grown twins
  obtain ⟨data, others, held, held', alike⟩ := Twins.get_context twins (paired.mono grown)
  obtain ⟨left', right', stored, stored', twins'⟩ := Twins.store twins (grown _ _ _ paired) _ _ rfl
    (.context (changed larger data others grown alike)) (by simp [held, Payload.parent?, chained])
    (by simp [held', Payload.parent?, chained'])
  have first : Space.updateContext source change left = (.ok (), left') :=
    (Act.ask_bind_ok _ (by simp [Space.context, Space.get, held])).trans stored
  have second : Space.updateContext target change' right = (.ok (), right') :=
    (Act.ask_bind_ok _ (by simp [Space.context, Space.get, held'])).trans stored'
  rw [first, second]
  exact .value (le_refl _) twins' rfl

theorem define {source target : ContextRef} (paired : source.Alike pairing target)
    (name : String) {value other : Value} (alike : value.Alike pairing other)
    (mutability : Mutability) : Lockstep terms.spaces pairing Equal
      (Space.define source name value mutability) (Space.define target name other mutability) :=
  updateContext paired (fun _ _ _ grown both =>
    ⟨both.kind, both.bindings.insert name ⟨alike.mono grown, rfl⟩⟩) (fun _ => rfl) fun _ => rfl

theorem putProperty {source target : Handle} (paired : pairing .object source target)
    (key : String) {value other : Value} (alike : value.Alike pairing other) :
    Lockstep terms.spaces pairing Equal (Space.putProperty source key value)
      (Space.putProperty target key other) :=
  updateObject paired fun _ _ _ grown both =>
    { both with properties := both.properties.insert key (alike.mono grown) }

end Lockstep

namespace Answers

variable {terms : Terms} {pairing : Pairing} {left right : Space}

theorem array (twins : Twins terms pairing left right) {source target : Handle}
    (paired : pairing .array source target) : Answers terms.spaces pairing
      (fun larger items others => Value.AllAlike larger items.toList others.toList) left right
      (left.array source) (right.array target) := by
  obtain ⟨items, others, held, held', alike⟩ := twins.array_ok paired
  rw [held, held']
  exact .value alike

theorem objectData (twins : Twins terms pairing left right) {source target : Handle}
    (paired : pairing .object source target) : Answers terms.spaces pairing ObjectData.Alike
      left right (left.objectData source) (right.objectData target) := by
  obtain ⟨data, others, held, held', alike⟩ := twins.objectData_ok paired
  rw [held, held']
  exact .value alike

theorem context (twins : Twins terms pairing left right) {source target : ContextRef}
    (paired : source.Alike pairing target) : Answers terms.spaces pairing Context.Alike
      left right (left.context source) (right.context target) := by
  obtain ⟨data, others, held, held', alike⟩ := twins.context_ok paired
  rw [held, held']
  exact .value alike

theorem objectHandle {object other : Value} (alike : object.Alike pairing other)
    (typed : terms.strict → object.type = .object) :
    Answers terms.spaces pairing (fun larger => larger .object) left right
      (Space.objectHandle object) (Space.objectHandle other) := by
  by_cases kind : object.type = .object
  · obtain ⟨source, target, rfl, rfl, paired⟩ := alike.of_object kind
    exact .value paired
  · have strict : ¬ terms.strict := fun holds => kind (typed holds)
    cases alike with
    | object => exact absurd rfl kind
    | array | callable => exact .early ⟨fun holds => absurd holds strict,
        fun holds => absurd holds strict⟩
    | scalar plain =>
      cases object with
      | object => cases plain
      | undefined | null | bool | int | float | string | array | callable =>
        exact .early ⟨fun holds => absurd holds strict, fun holds => absurd holds strict⟩

theorem owner (twins : Twins terms pairing left right) (name : String)
    {source target : ContextRef} (paired : source.Alike pairing target) :
    Answers terms.spaces pairing (fun larger => Option.Rel (ContextRef.Alike larger)) left right
      (left.owner? source name) (right.owner? target name) := by
  rcases twins.owner name paired with ⟨owner, other, held, held', alike⟩ | ⟨broken, broken', free⟩
  · rw [held, held']
    exact .value alike
  · rw [broken, broken']
    exact .early ⟨fun _ => Or.inr ⟨rfl, free⟩, fun _ => Or.inr ⟨rfl, free⟩⟩

theorem binding (twins : Twins terms pairing left right) (name : String)
    {source target : ContextRef} (paired : source.Alike pairing target) :
    Answers terms.spaces pairing (fun larger => Option.Rel (Binding.Alike larger)) left right
      (left.binding? source name) (right.binding? target name) :=
  (context twins paired).map fun _ _ both => both.bindings name

theorem resolve (twins : Twins terms pairing left right) (name : String)
    {source target : ContextRef} (paired : source.Alike pairing target) :
    Answers terms.spaces pairing (fun larger => Settled (Value.Alike larger)) left right
      (left.resolve source name) (right.resolve target name) := by
  have looked : Answers terms.spaces pairing (fun larger => Option.Rel (Value.Alike larger))
      left right (left.lookup? source name) (right.lookup? target name) := by
    refine (owner twins name paired).bind fun owner other owners => ?_
    cases owners with
    | none => exact .value .none
    | some owners =>
      refine (binding twins name owners).map fun bound bound' both => ?_
      cases both with
      | none => exact .none
      | some both => exact .some both.value
  refine looked.map fun found found' both => ?_
  cases both with
  | none => exact .error _
  | some both => exact .value both

theorem readObject {α β : Type} {values : Pairing → α → β → Prop}
    (twins : Twins terms pairing left right) {object other : Value}
    (alike : object.Alike pairing other) (typed : terms.strict → object.type = .object)
    {read : ObjectData → α} {read' : ObjectData → β}
    (reads : ∀ data others, data.Alike pairing others →
      values pairing (read data) (read' others)) :
    Answers terms.spaces pairing values left right (left.readObject object read)
      (right.readObject other read') :=
  (objectHandle alike typed).bind fun _ _ paired =>
    (objectData twins paired).map fun data others both => reads data others both

theorem property (twins : Twins terms pairing left right) (key : String) {object other : Value}
    (alike : object.Alike pairing other) (typed : terms.strict → object.type = .object) :
    Answers terms.spaces pairing (fun larger => Option.Rel (Value.Alike larger)) left right
      (left.property? object key) (right.property? other key) :=
  readObject twins alike typed fun _ _ both => both.properties key

theorem listeners (twins : Twins terms pairing left right) (event : String) {object other : Value}
    (alike : object.Alike pairing other) (typed : terms.strict → object.type = .object) :
    Answers terms.spaces pairing Value.AllAlike left right (left.listeners object event)
      (right.listeners other event) := by
  refine readObject twins alike typed fun data others both => ?_
  have listed := both.listeners event
  generalize data.listeners.get? event = callbacks at listed
  generalize others.listeners.get? event = callbacks' at listed
  cases listed with
  | none => exact .nil
  | some listed => exact listed

theorem equal (twins : Twins terms pairing left right) {first first' second second' : Value}
    (alike : first.Alike pairing first') (alike' : second.Alike pairing second') :
    Answers terms.spaces pairing Equal left right (left.equal first second)
      (right.equal first' second') := by
  obtain ⟨verdict, here, here'⟩ := twins.equal alike alike'
  rw [here, here']
  exact .value rfl

theorem display (twins : Twins terms pairing left right) {value other : Value}
    (alike : value.Alike pairing other) : Answers terms.spaces pairing Equal left right
      (left.display value) (right.display other) := by
  obtain ⟨text, shown, shown'⟩ := twins.display alike
  rw [shown, shown']
  exact .value rfl

end Answers

inductive CallTarget.Alike (strict : Prop) (pairing : Pairing) :
    CallTarget → CallTarget → Prop where
  | function {left right : Closure} (closures : left.Alike strict pairing right) :
      CallTarget.Alike strict pairing (.function left) (.function right)
  | native {left right : NativeFunction} (callees : left.Alike strict pairing right) :
      CallTarget.Alike strict pairing (.native left) (.native right)

namespace Answers

variable {terms : Terms} {pairing : Pairing} {left right : Space}

theorem callTarget (twins : Twins terms pairing left right) {source target : Handle}
    (paired : pairing .callable source target) :
    Answers terms.spaces pairing (CallTarget.Alike terms.strict) left right
      (left.callTarget source) (right.callTarget target) := by
  unfold Space.callTarget Space.get
  rcases twins.get_callable paired with
    ⟨closure, other, held, held', alike⟩ | ⟨callee, other, held, held', alike⟩
  · rw [held, held']
    exact .value (.function alike)
  · rw [held, held']
    exact .value (.native alike)

theorem arity (twins : Twins terms pairing left right) {value other : Value}
    (alike : value.Alike pairing other) : Answers terms.spaces pairing Equal left right
      (left.arity? value) (right.arity? other) := by
  cases alike with
  | scalar plain =>
    cases value with
    | array | object | callable => cases plain
    | undefined | null | bool | int | float | string => exact .value rfl
  | array | object => exact .value rfl
  | callable paired =>
    unfold Space.arity? Space.get
    dsimp only
    rcases twins.get_callable paired with
      ⟨closure, other, held, held', alike⟩ | ⟨callee, other, held, held', alike⟩
    · rw [held, held']
      exact .value (by rw [alike.parameters])
    · rw [held, held']
      exact .value alike.arity

end Answers

theorem Space.nameFunction_function {space : Space} {handle : Handle} {closure : Closure}
    {name : String} (held : space.get? handle = some (.function closure)) :
    Space.nameFunction (.callable handle) name space =
      if closure.name.isNone then
        Space.store handle (.function { closure with name := some name }) space
      else (.ok (), space) := by
  refine (Act.ask_bind_ok (.function closure) (by simp [Space.get, held])).trans ?_
  dsimp only
  split <;> rfl

theorem Space.nameFunction_native {space : Space} {handle : Handle} {callee : NativeFunction}
    {name : String} (held : space.get? handle = some (.native callee)) :
    Space.nameFunction (.callable handle) name space = (.ok (), space) := by
  refine (Act.ask_bind_ok (.native callee) (by simp [Space.get, held])).trans ?_
  rfl

namespace Lockstep

variable {terms : Terms} {pairing : Pairing}

theorem nameFunction {value other : Value} (alike : value.Alike pairing other) (name : String) :
    Lockstep terms.spaces pairing Equal (Space.nameFunction value name)
      (Space.nameFunction other name) := by
  cases alike with
  | scalar plain =>
    cases value with
    | array | object | callable => cases plain
    | undefined | null | bool | int | float | string => exact .pure fun _ _ => rfl
  | array | object => exact .pure fun _ _ => rfl
  | @callable source target paired =>
    intro larger left right grown twins
    rcases Twins.get_callable twins (grown _ _ _ paired) with
      ⟨closure, other, held, held', alike⟩ | ⟨callee, other, held, held', alike⟩
    · rw [Space.nameFunction_function held, Space.nameFunction_function held', alike.name]
      split
      · obtain ⟨left', right', stored, stored', twins'⟩ := Twins.store twins (grown _ _ _ paired)
          (.function { closure with name := some name })
          (.function { other with name := some name }) rfl
          (.function ⟨alike.context, alike.parameters, alike.body, rfl, alike.wellFormed⟩)
          (by simp [held, Payload.parent?]) (by simp [held', Payload.parent?])
        rw [stored, stored']
        exact .value (le_refl _) twins' rfl
      · exact .value (le_refl _) twins rfl
    · rw [Space.nameFunction_native held, Space.nameFunction_native held']
      exact .value (le_refl _) twins rfl

theorem assign {source target : ContextRef} (paired : source.Alike pairing target)
    (name : String) {value other : Value} (alike : value.Alike pairing other) :
    Lockstep terms.spaces pairing Equal (Space.assign source name value)
      (Space.assign target name other) := by
  refine (ask fun _ _ _ grown twins => Answers.owner twins name (paired.mono grown)).bind
    fun larger grown owner owner' owners => ?_
  cases owners with
  | none => exact .pure fun _ _ => rfl
  | some owners =>
    refine (ask fun _ _ _ grown twins => Answers.binding twins name (owners.mono grown)).bind
      fun larger' grown' bound bound' both => ?_
    cases both with
    | none => exact .pure fun _ _ => rfl
    | @some bound bound' both =>
      obtain ⟨value, mutability⟩ := bound
      obtain ⟨value', mutability'⟩ := bound'
      obtain ⟨-, same⟩ := both
      cases same
      cases mutability with
      | immutable => exact .pure fun _ _ => rfl
      | mutable =>
        exact (define (owners.mono grown') name (alike.mono (grown.trans grown')) _).bind
          fun _ _ _ _ _ => .pure fun _ _ => rfl

theorem assignProperty {object object' : Value} (objects : object.Alike pairing object')
    (typed : terms.strict → object.type = .object) (key : String) {value other : Value}
    (alike : value.Alike pairing other) : Lockstep terms.spaces pairing Equal
      (Space.assignProperty object key value) (Space.assignProperty object' key other) := by
  refine (ask fun _ _ _ grown _ => Answers.objectHandle (objects.mono grown) typed).bind
    fun larger grown source target paired => ?_
  refine bind (ask fun larger' left right grown' twins => ?_)
    fun larger' grown' changed changed' (same : changed = changed') => ?_
  · refine (Answers.objectData twins (grown' _ _ _ paired)).bind fun data others both => ?_
    have found := both.properties key
    generalize data.properties.get? key = old at found
    generalize others.properties.get? key = old' at found
    cases found with
    | none => exact .value rfl
    | some found =>
      exact (Answers.equal twins found (alike.mono (grown.trans grown'))).map fun _ _ same =>
        congrArg not same
  · subst same
    cases changed with
    | false => exact .pure fun _ _ => rfl
    | true =>
      exact (putProperty (grown' _ _ _ paired) key (alike.mono (grown.trans grown'))).bind
        fun _ _ _ _ _ => .pure fun _ _ => rfl

theorem addListener {object object' : Value} (objects : object.Alike pairing object')
    (typed : terms.strict → object.type = .object) (event : String) {callback other : Value}
    (alike : callback.Alike pairing other) : Lockstep terms.spaces pairing Equal
      (Space.addListener object event callback) (Space.addListener object' event other) := by
  refine (ask fun _ _ _ grown _ => Answers.objectHandle (objects.mono grown) typed).bind
    fun larger grown source target paired => ?_
  refine updateObject paired fun larger' data others grown' both => ?_
  refine { both with listeners := both.listeners.insert event ?_ }
  have listed := both.listeners event
  generalize data.listeners.get? event = callbacks at listed
  generalize others.listeners.get? event = callbacks' at listed
  have added : Value.AllAlike larger' [callback] [other] :=
    .cons (alike.mono (grown.trans grown')) .nil
  cases listed with
  | none => exact added
  | some listed => exact List.rel_append listed added

theorem removeListeners {object object' : Value} (objects : object.Alike pairing object')
    (typed : terms.strict → object.type = .object) (event : String) :
    Lockstep terms.spaces pairing Equal (Space.removeListeners object event)
      (Space.removeListeners object' event) := by
  refine (ask fun _ _ _ grown _ => Answers.objectHandle (objects.mono grown) typed).bind
    fun larger grown source target paired => ?_
  refine (ask fun _ _ _ grown' twins =>
    Answers.listeners twins event (objects.mono (grown.trans grown')) typed).bind
    fun larger' grown' old old' listed => ?_
  let cleared (data : ObjectData) := { data with listeners := data.listeners.erase event }
  have erased : Lockstep terms.spaces larger' Equal (Space.updateObject source cleared)
      (Space.updateObject target cleared) :=
    updateObject (grown' _ _ _ paired) fun _ data others _ both =>
      { both with listeners := both.listeners.erase event }
  exact erased.bind fun _ _ _ _ _ => .pure fun _ _ => listed.length_eq

end Lockstep

end ScriptEngine
