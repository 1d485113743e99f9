import ScriptEngine.Proofs.LockstepNodes

set_option autoImplicit false

namespace ScriptEngine

/-- Something that runs in a context runs in lockstep with itself. Under strict terms it has to be
well formed. -/
def Follows {σ τ α : Type} (terms : Terms) (queue : List τ) (formed : Bool)
    (values : Pairing → α → α → Prop) (run : ContextRef → Run σ τ Exit α) : Prop :=
  ∀ pairing source target, source.Alike pairing target → (terms.strict → formed = true) →
    Lockstep (terms.nodes σ queue) pairing values (run source) (run target)

namespace Lockstep

variable {σ τ : Type} {terms : Terms} {queue : List τ} {env : Environment σ τ}

private theorem literal_scalar (value : Literal) : value.value.handle? = none := by
  cases value <;> rfl

private theorem propertyPlace {pairing : Pairing} {object object' : Value}
    (objects : object.Alike pairing object') (key : String) :
    Settled (Place.Alike pairing) (Eval.propertyPlace object key)
      (Eval.propertyPlace object' key) := by
  cases objects with
  | scalar plain =>
    cases object with
    | array | object | callable => cases plain
    | undefined | null | bool | int | float | string => exact .error _
  | array | callable => exact .error _
  | object paired => exact .value (.property paired key)

/-- A raised error is handled on both sides; everything else passes. -/
theorem rescuing {pairing : Pairing} {body body' : Run σ τ Exit Unit}
    {rescue rescue' : ScriptError → Run σ τ Exit Unit}
    (bodies : Lockstep (terms.nodes σ queue) pairing Equal body body')
    (rescued : ∀ error larger, pairing ≤ larger →
      Lockstep (terms.nodes σ queue) larger Equal (rescue error) (rescue' error)) :
    Lockstep (terms.nodes σ queue) pairing Equal (Run.rescuing body rescue)
      (Run.rescuing body' rescue') := by
  intro larger left right grown states
  have outcome := bodies larger left right grown states
  simp only [Run.rescuing]
  generalize body left = ended at outcome
  generalize body' right = ended' at outcome
  cases outcome with
  | value grown' states' same => exact .value grown' states' same
  | early grown' states' ends =>
    cases ends with
    | jumped direction => exact .early grown' states' (.jumped direction)
    | returned alike => exact .early grown' states' (.returned alike)
    | halted alike =>
      cases alike with
      | raised error =>
        exact (rescued error _ (grown.trans grown') _ _ _ (le_refl _) states').shrink grown'
      | outOfFuel => exact .early grown' states' (.halted .outOfFuel)
      | fault tolerated tolerated' =>
        exact .early grown' states' (.halted (.fault tolerated tolerated'))
  | lostLeft lost =>
    obtain ⟨fault, rfl, lost⟩ := lost
    exact .lostLeft ⟨fault, rfl, lost⟩
  | lostRight lost =>
    obtain ⟨fault, rfl, lost⟩ := lost
    exact .lostRight ⟨fault, rfl, lost⟩

mutual

theorem expression (faithful : Faithful terms queue env) : (tree : Expression) →
    Follows terms queue (WellFormed.expression tree) Value.Alike (Eval.expression env · tree)
  | .node site op left right => by
    intro pairing source target contexts formed
    have leftFormed := fun strict => WellFormed.node_left (formed strict)
    have first : op.needsLeft = true → ∀ larger, pairing ≤ larger →
        Lockstep (terms.nodes σ queue) larger Value.Alike (Eval.required env source op left)
          (Eval.required env target op left) := by
      intro needed larger grown
      apply required faithful op left larger source target (contexts.mono grown)
      exact fun strict => WellFormed.node_first (formed strict) needed
    have place : op.needsLeft = true → ∀ larger, pairing ≤ larger →
        Lockstep (terms.nodes σ queue) larger Place.Alike (Eval.requiredPlace env source op left)
          (Eval.requiredPlace env target op left) := by
      intro needed larger grown
      apply requiredPlace faithful op left larger source target (contexts.mono grown)
      exact fun strict => WellFormed.node_first (formed strict) needed
    have second : op.needsRight = true → op ≠ .index → ∀ larger, pairing ≤ larger →
        Lockstep (terms.nodes σ queue) larger Value.Alike (Eval.required env source op right)
          (Eval.required env target op right) := by
      intro needed other larger grown
      apply required faithful op right larger source target (contexts.mono grown)
      exact fun strict => WellFormed.node_second (formed strict) needed other
    beta_reduce
    rw [Eval.expression.eq_def, Eval.expression.eq_def]
    refine located site ?_
    cases op with
    | plain =>
      cases left with
      | none => exact pure fun _ _ => .scalar rfl
      | some inner =>
        exact operand faithful inner _ _ _ contexts fun strict => by
          simpa [WellFormed.optional] using leftFormed strict
    | assign =>
      cases left with
      | none => exact fault fun strict => nomatch WellFormed.node_first (formed strict) rfl
      | some goal =>
        cases right with
        | none =>
          exact fault fun strict => nomatch WellFormed.node_second (formed strict) rfl (by decide)
        | some origin =>
          have origins := operand faithful origin pairing source target contexts fun strict =>
            WellFormed.node_right (formed strict) (by decide)
          have goals := Lockstep.place faithful goal pairing source target contexts leftFormed
          dsimp only
          cases Eval.declaration? goal with
          | some declared => exact declare contexts declared.1 declared.2 origins
          | none => exact storeTo faithful.write goals origins site
    | ret =>
      cases right with
      | none => exact throw fun _ _ _ _ _ => .returned (.scalar rfl)
      | some inner =>
        refine (operand faithful inner _ _ _ contexts fun strict => ?_).bind
          fun _ _ _ _ alike => throw fun _ _ _ grown _ => .returned (alike.mono grown)
        simpa [WellFormed.optional] using WellFormed.node_right (formed strict) (by decide)
    | raise =>
      refine (second rfl (by decide) _ (le_refl _)).bind fun _ grown _ _ alike => ?_
      refine (lift (askSpace fun _ _ _ grown twins =>
        Answers.thrownError twins (alike.mono grown))).bind fun _ _ error error' same => ?_
      rw [same]
      exact raised _
    | not =>
      refine (second rfl (by decide) _ (le_refl _)).bind fun _ _ _ _ alike => ?_
      rw [alike.isTruthy]
      exact pure fun _ _ => .scalar rfl
    | and =>
      refine (first rfl _ (le_refl _)).bind fun _ grown _ _ alike => ?_
      rw [alike.isTruthy]
      split
      · refine (second rfl (by decide) _ grown).bind fun _ _ _ _ alike => ?_
        rw [alike.isTruthy]
        exact pure fun _ _ => .scalar rfl
      · exact pure fun _ _ => .scalar rfl
    | or =>
      refine (first rfl _ (le_refl _)).bind fun _ grown _ _ alike => ?_
      rw [alike.isTruthy]
      split
      · exact pure fun _ _ => .scalar rfl
      · refine (second rfl (by decide) _ grown).bind fun _ _ _ _ alike => ?_
        rw [alike.isTruthy]
        exact pure fun _ _ => .scalar rfl
    | eq | ne | lt | le | gt | ge | add | sub | mul | div | rem =>
      exact strict _ (first rfl _ (le_refl _)) (second rfl (by decide) _ (le_refl _))
    | increment | decrement =>
      exact compound faithful.write _ (place rfl _ (le_refl _))
        (pure fun _ _ => .scalar rfl) site
    | addAssign | subAssign | mulAssign | divAssign | remAssign =>
      exact compound faithful.write _ (place rfl _ (le_refl _))
        (second rfl (by decide) _ (le_refl _)) site
    | child =>
      refine (first rfl _ (le_refl _)).bind fun _ grown _ _ alike => ?_
      refine (lift (keyName fun strict => WellFormed.node_name (formed strict))).bind
        fun _ grown' key key' same => ?_
      rw [same]
      exact lift (readProperty (alike.mono grown') _)
    | index =>
      refine (indexPlace (first rfl _ (le_refl _)) (selector faithful right _ _ _ contexts
        fun strict => ?_)).bind fun _ _ _ _ alike => lift (readPlace alike)
      exact WellFormed.node_selector (formed strict)
    | append =>
      refine (first rfl _ (le_refl _)).bind fun _ grown _ _ objects => ?_
      refine (second rfl (by decide) _ grown).bind fun _ grown' _ _ alike => ?_
      exact lift (appendTo (objects.mono grown') alike)

theorem required (faithful : Faithful terms queue env) (op : Operator) :
    (tree : Option Operand) → Follows terms queue (tree.isSome && WellFormed.optional tree)
      Value.Alike (Eval.required env · op tree)
  | none => fun _ _ _ _ formed => fault fun strict => absurd (formed strict) (by simp)
  | some inner => fun _ _ _ contexts formed => operand faithful inner _ _ _ contexts
    fun strict => by simpa [WellFormed.optional] using formed strict

theorem requiredPlace (faithful : Faithful terms queue env) (op : Operator) :
    (tree : Option Operand) → Follows terms queue (tree.isSome && WellFormed.optional tree)
      Place.Alike (Eval.requiredPlace env · op tree)
  | none => fun _ _ _ _ formed => fault fun strict => absurd (formed strict) (by simp)
  | some inner => fun _ _ _ contexts formed => place faithful inner _ _ _ contexts
    fun strict => by simpa [WellFormed.optional] using formed strict

theorem selector (faithful : Faithful terms queue env) : (tree : Option Operand) →
    ∀ pairing source target, source.Alike pairing target →
    (terms.strict → (tree.isSome && WellFormed.selector tree) = true) →
    Selects terms queue pairing (Eval.selector env source tree) (Eval.selector env target tree)
  | none => fun _ _ _ _ formed => .missing fun strict => absurd (formed strict) (by simp)
  | some inner => fun _ _ _ contexts formed => by
    cases inner with
    | range site lower upper =>
      have both : terms.strict → WellFormed.rangeBound lower = true ∧
          WellFormed.rangeBound upper = true := fun strict => by
        simpa [WellFormed.selector] using formed strict
      exact .range (rangeBound faithful lower _ _ _ contexts fun strict => (both strict).1)
        (rangeBound faithful upper _ _ _ contexts fun strict => (both strict).2)
    | literal | var | array | object | nested | function | call | jump =>
      exact .key (operand faithful _ _ _ _ contexts fun strict => by
        simpa [WellFormed.selector] using formed strict)

theorem rangeBound (faithful : Faithful terms queue env) : (tree : Option Expression) →
    Follows terms queue (WellFormed.rangeBound tree) Equal (Eval.rangeBound env · tree)
  | none => fun _ _ _ _ _ => pure fun _ _ => rfl
  | some inner => fun _ _ _ contexts formed => by
    refine (expression faithful inner _ _ _ contexts fun strict => ?_).bind
      fun _ _ value other alike => ?_
    · simpa [WellFormed.rangeBound] using formed strict
    · refine bind (lift (orRaise fun _ grown => expectInt alike))
        fun _ _ bound bound' (same : bound = bound') => ?_
      rw [same]
      exact pure fun _ _ => rfl

theorem place (faithful : Faithful terms queue env) : (tree : Operand) →
    Follows terms queue (WellFormed.operand tree) Place.Alike (Eval.place env · tree)
  | .var site named => fun _ _ _ contexts _ =>
    located site (lift (bindingPlace contexts named.name))
  | .nested site inner => fun _ _ _ contexts formed =>
    located site (expressionPlace faithful inner _ _ _ contexts formed)
  | .literal site _ | .array site _ | .object site _ | .function site _ _ | .call site _ _
  | .jump site _ | .range site _ _ => fun _ _ _ _ _ => located site (raised _)

theorem expressionPlace (faithful : Faithful terms queue env) : (tree : Expression) →
    Follows terms queue (WellFormed.expression tree) Place.Alike
      (Eval.expressionPlace env · tree)
  | .node site op left right => by
    intro pairing source target contexts formed
    have leftFormed := fun strict => WellFormed.node_left (formed strict)
    have first : op.needsLeft = true → ∀ larger, pairing ≤ larger →
        Lockstep (terms.nodes σ queue) larger Value.Alike (Eval.required env source op left)
          (Eval.required env target op left) := by
      intro needed larger grown
      apply required faithful op left larger source target (contexts.mono grown)
      exact fun strict => WellFormed.node_first (formed strict) needed
    beta_reduce
    rw [Eval.expressionPlace.eq_def, Eval.expressionPlace.eq_def]
    cases op with
    | plain =>
      refine located site ?_
      cases left with
      | none => exact raised _
      | some inner => exact place faithful inner _ _ _ contexts leftFormed
    | child =>
      refine (first rfl _ (le_refl _)).bind fun _ grown _ _ alike => ?_
      refine (lift (keyName fun strict => WellFormed.node_name (formed strict))).bind
        fun _ grown' key key' same => ?_
      rw [same]
      exact located site (lift (orRaise fun _ grown'' =>
        propertyPlace (alike.mono (grown'.trans grown'')) _))
    | index =>
      refine located site (indexPlace (first rfl _ (le_refl _)) (selector faithful right _ _ _
        contexts fun strict => ?_))
      exact WellFormed.node_selector (formed strict)
    | assign | ret | raise | not | eq | ne | lt | le | gt | ge | and | or | add | sub | mul | div
    | rem | increment | decrement | addAssign | subAssign | mulAssign | divAssign | remAssign
    | append => exact located site (raised _)

theorem operand (faithful : Faithful terms queue env) : (tree : Operand) →
    Follows terms queue (WellFormed.operand tree) Value.Alike (Eval.operand env · tree)
  | .literal _ value => fun _ _ _ _ _ => pure fun _ _ => .scalar (literal_scalar value)
  | .var site named => fun _ _ _ contexts _ => located site (lift (variableValue contexts named))
  | .array site elements => fun _ _ _ contexts formed => by
    refine located site ((expressions faithful elements _ _ _ contexts formed).bind
      fun _ _ items others alike => onSpace (allocateArray ?_))
    simpa using alike
  | .object site members => fun _ _ _ contexts formed => by
    refine located site ((onSpace (fork contexts site)).bind fun _ grown inner inner' below => ?_)
    have made : ObjectData.Alike _ ⟨∅, none, some inner, site, ∅⟩ ⟨∅, none, some inner', site, ∅⟩ :=
      ⟨.empty, rfl, .some below, rfl, .empty⟩
    refine (onSpace (allocateObject made)).bind fun _ grown₁ object object' objects => ?_
    refine (onSpace (define (below.mono grown₁) "this" objects.1 .immutable)).bind
      fun _ grown₂ _ _ _ => ?_
    refine (properties faithful members _ _ _ (below.mono (grown₁.trans grown₂)) _ _
      (objects.1.mono grown₂) objects.2 formed).bind fun _ grown₃ _ _ _ => ?_
    exact pure fun _ wider => objects.1.mono ((grown₂.trans grown₃).trans wider)
  | .nested site inner => fun _ _ _ contexts formed =>
    located site (expression faithful inner _ _ _ contexts formed)
  | .function site parameters body => fun _ _ _ contexts formed =>
    located site (lift (ofSpace (allocateFunction ⟨contexts, rfl, rfl, rfl, formed⟩)))
  | .call site callee arguments => fun _ _ _ contexts formed => by
    have both : terms.strict → WellFormed.expression callee = true ∧
        WellFormed.expressions arguments = true := fun strict => by
      simpa [WellFormed.operand] using formed strict
    refine located site ((expression faithful callee _ _ _ contexts fun strict =>
      (both strict).1).bind fun _ grown _ _ callees => ?_)
    refine (expressions faithful arguments _ _ _ (contexts.mono grown) fun strict =>
      (both strict).2).bind fun _ grown' _ _ alike => ?_
    exact lift (faithful.call _ _ _ _ _ _ (callees.mono grown') alike)
  | .jump _ direction => fun _ _ _ _ _ => throw fun _ _ _ _ _ => .jumped direction
  | .range _ _ _ => fun _ _ _ _ formed => fault fun strict => by
    simpa [WellFormed.operand] using formed strict

theorem expressions (faithful : Faithful terms queue env) : (trees : List Expression) →
    Follows terms queue (WellFormed.expressions trees) Value.AllAlike
      (Eval.expressions env · trees)
  | [] => fun _ _ _ _ _ => pure fun _ _ => .nil
  | first :: rest => fun _ _ _ contexts formed => by
    have both : terms.strict → WellFormed.expression first = true ∧
        WellFormed.expressions rest = true := fun strict => by
      simpa [WellFormed.expressions] using formed strict
    refine (expression faithful first _ _ _ contexts fun strict => (both strict).1).bind
      fun _ grown _ _ alike => ?_
    refine (expressions faithful rest _ _ _ (contexts.mono grown) fun strict =>
      (both strict).2).bind fun _ grown' _ _ others => ?_
    exact pure fun _ wider => .cons (alike.mono (grown'.trans wider)) (others.mono wider)

theorem properties (faithful : Faithful terms queue env) :
    (trees : List (String × Expression)) → ∀ pairing source target, source.Alike pairing target →
    ∀ object object', Value.Alike pairing object object' → object.type = .object →
    (terms.strict → WellFormed.properties trees = true) →
    Lockstep (terms.nodes σ queue) pairing Equal (Eval.properties env source object trees)
      (Eval.properties env target object' trees)
  | [] => fun _ _ _ _ _ _ _ _ _ => pure fun _ _ => rfl
  | (key, first) :: rest => fun _ _ _ contexts _ _ objects kind formed => by
    have both : terms.strict → WellFormed.expression first = true ∧
        WellFormed.properties rest = true := fun strict => by
      simpa [WellFormed.properties] using formed strict
    refine (expression faithful first _ _ _ contexts fun strict => (both strict).1).bind
      fun _ grown _ _ alike => ?_
    refine (onSpace (nameFunction alike key)).bind fun _ grown' _ _ _ => ?_
    refine (onSpace (assignProperty (objects.mono (grown.trans grown')) (fun _ => kind) key
      (alike.mono grown'))).bind fun _ grown'' _ _ _ => ?_
    have wider := (grown.trans grown').trans grown''
    exact properties faithful rest _ _ _ (contexts.mono wider) _ _ (objects.mono wider) kind
      fun strict => (both strict).2

theorem scope (faithful : Faithful terms queue env) : (tree : Scope) →
    Follows terms queue (WellFormed.scope tree) Equal (Eval.scope env · tree)
  | .mk site inner => fun _ _ _ contexts formed =>
    (onSpace (fork contexts site)).bind fun _ _ _ _ below =>
      controls faithful inner _ _ _ below formed

theorem controls (faithful : Faithful terms queue env) : (trees : List Control) →
    Follows terms queue (WellFormed.controls trees) Equal (Eval.controls env · trees)
  | [] => fun _ _ _ _ _ => pure fun _ _ => rfl
  | .statement site body :: rest => fun _ _ _ contexts formed => by
    have both : terms.strict → WellFormed.expression body = true ∧
        WellFormed.controls rest = true := fun strict => by
      simpa [WellFormed.controls] using formed strict
    refine (located site (expression faithful body _ _ _ contexts fun strict =>
      (both strict).1)).bind fun _ grown _ _ _ => ?_
    exact controls faithful rest _ _ _ (contexts.mono grown) fun strict => (both strict).2
  | .conditional inner :: rest => fun _ _ _ contexts formed => by
    have both : terms.strict → WellFormed.conditional inner = true ∧
        WellFormed.controls rest = true := fun strict => by
      simpa [WellFormed.controls] using formed strict
    refine (conditional faithful inner _ _ _ contexts fun strict =>
      (both strict).1).bind fun _ grown _ _ _ => ?_
    exact controls faithful rest _ _ _ (contexts.mono grown) fun strict => (both strict).2

theorem conditional (faithful : Faithful terms queue env) : (tree : Conditional) →
    Follows terms queue (WellFormed.conditional tree) Equal (Eval.conditional env · tree)
  | .ifThen site condition body alternative => fun _ _ _ contexts formed => by
    have all : terms.strict → (WellFormed.expression condition = true ∧
        WellFormed.scope body = true) ∧ WellFormed.otherwise alternative = true :=
      fun strict => by simpa [WellFormed.conditional] using formed strict
    refine (expression faithful condition _ _ _ contexts fun strict => (all strict).1.1).bind
      fun _ grown _ _ alike => ?_
    refine located site ?_
    rw [alike.isTruthy]
    split
    · exact scope faithful body _ _ _ (contexts.mono grown) fun strict => (all strict).1.2
    · exact otherwise faithful alternative _ _ _ (contexts.mono grown) fun strict =>
        (all strict).2
  | .otherwise site body => fun _ _ _ contexts formed =>
    located site (scope faithful body _ _ _ contexts formed)
  | .whileLoop site condition body => fun _ _ _ contexts formed => by
    have both : terms.strict → WellFormed.expression condition = true ∧
        WellFormed.scope body = true := fun strict => by
      simpa [WellFormed.conditional] using formed strict
    refine located site (repeatWhile ?_ ?_ env.bound)
    · exact (expression faithful condition _ _ _ contexts fun strict => (both strict).1).map
        fun _ _ _ alike => alike.isTruthy
    · exact scope faithful body _ _ _ contexts fun strict => (both strict).2
  | .forIn site item iterable (.mk bodySite body) => fun _ _ _ contexts formed => by
    have both : terms.strict → WellFormed.expression iterable = true ∧
        WellFormed.controls body = true := fun strict => by
      simpa [WellFormed.conditional, WellFormed.scope] using formed strict
    refine located site ((expression faithful iterable _ _ _ contexts fun strict =>
      (both strict).1).bind fun _ grown _ _ alike => ?_)
    refine (lift (loopItems alike)).bind fun _ grown' _ _ items => ?_
    refine forEach (fun larger value other grown'' alike => ?_) items
    refine (onSpace (fork (contexts.mono ((grown.trans grown').trans grown'')) bodySite)).bind
      fun _ wider _ _ below => ?_
    refine (onSpace (define below item.name (alike.mono wider) _)).bind fun _ wider' _ _ _ => ?_
    exact controls faithful body _ _ _ (below.mono wider') fun strict => (both strict).2
  | .attempt site body rescue => fun _ _ _ contexts formed => by
    have both : terms.strict → WellFormed.scope body = true ∧
        WellFormed.handlers rescue = true := fun strict => by
      simpa [WellFormed.conditional] using formed strict
    have bodies := scope faithful body _ _ _ contexts fun strict => (both strict).1
    exact located site (faithful.rescue bodies
      fun error _ grown => handlers faithful error rescue _ _ _ (contexts.mono grown)
        fun strict => (both strict).2)

theorem otherwise (faithful : Faithful terms queue env) : (tree : Option Conditional) →
    Follows terms queue (WellFormed.otherwise tree) Equal (Eval.otherwise env · tree)
  | none => fun _ _ _ _ _ => pure fun _ _ => rfl
  | some inner => fun _ _ _ contexts formed =>
    conditional faithful inner _ _ _ contexts formed

theorem handlers (faithful : Faithful terms queue env) (error : ScriptError) :
    (trees : List Handler) →
    Follows terms queue (WellFormed.handlers trees) Equal (Eval.handlers env · error trees)
  | [] => fun _ _ _ _ _ => raised error
  | .mk site code parameter (.mk bodySite body) :: rest => fun _ _ _ contexts formed => by
    have both : terms.strict → WellFormed.controls body = true ∧
        WellFormed.handlers rest = true := fun strict => by
      simpa [WellFormed.handlers, WellFormed.scope] using formed strict
    have inside := controls faithful body
    have others := handlers faithful error rest
    beta_reduce
    rw [Eval.handlers.eq_def, Eval.handlers.eq_def]
    dsimp only
    split
    · refine (onSpace (fork contexts site)).bind fun _ grown _ _ below => ?_
      cases parameter with
      | none => exact inside _ _ _ below fun strict => (both strict).1
      | some name =>
        refine (onSpace (errorObject error)).bind fun _ grown' _ _ objects => ?_
        refine (onSpace (define (below.mono grown') name objects.1 .mutable)).bind
          fun _ grown'' _ _ _ => ?_
        exact inside _ _ _ (below.mono (grown'.trans grown'')) fun strict => (both strict).1
    · exact others _ _ _ contexts fun strict => (both strict).2

end

end Lockstep

end ScriptEngine
