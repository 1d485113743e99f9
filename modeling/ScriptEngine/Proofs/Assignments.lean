import ScriptEngine.Proofs.Locations

set_option autoImplicit false

namespace ScriptEngine

/-- The error without the place that raised it. -/
def ScriptError.unplaced (error : ScriptError) : ScriptError := { error with site := none }

def Halt.unplaced : Halt → Halt
  | .raised error => .raised error.unplaced
  | other => other

def Exit.unplaced : Exit → Exit
  | .halted halt => .halted halt.unplaced
  | other => other

theorem ScriptError.unplaced_locate (error : ScriptError) (site : SourceInfo) :
    (error.locate site).unplaced = error.unplaced := by
  rw [locate_eq]
  split <;> rfl

theorem Exit.unplaced_locate (exit : Exit) (site : SourceInfo) :
    (exit.locate site).unplaced = exit.unplaced := by
  cases exit with
  | halted halt =>
    cases halt with
    | raised error => simp only [locate, Halt.locate, unplaced, Halt.unplaced,
        error.unplaced_locate]
    | fault | outOfFuel => rfl
  | jumped | returned => rfl

namespace Run

variable {σ τ ε ε' α β : Type}

/-- The run, as far as the places of errors do not matter. -/
def unplaced (node : Run σ τ Exit α) : Run σ τ Exit α := node.mapError Exit.unplaced

@[simp] theorem unplaced_located (site : SourceInfo) (node : Run σ τ Exit α) :
    unplaced (located site node) = unplaced node := by
  funext state
  simp only [unplaced, located, Act.mapError]
  rcases node state with ⟨exit | value, last⟩
  · simp only [Except.mapError, exit.unplaced_locate]
  · rfl

theorem unplaced_bind {first first' : Run σ τ Exit α} {next next' : α → Run σ τ Exit β}
    {state : RunState σ τ} (before : unplaced first state = unplaced first' state)
    (after : ∀ value last, first state = (.ok value, last) →
      unplaced (next value) last = unplaced (next' value) last) :
    unplaced (first >>= next) state = unplaced (first' >>= next') state := by
  simp only [unplaced, Act.mapError] at before after
  simp only [unplaced, Act.mapError, Act.bind_apply]
  generalize first state = ended at before after
  generalize first' state = ended' at before
  rcases ended with ⟨exit | value, last⟩ <;> rcases ended' with ⟨exit' | value', last'⟩
  · simpa [Except.mapError] using before
  · simp [Except.mapError] at before
  · simp [Except.mapError] at before
  · simp only [Except.mapError, Prod.mk.injEq, Except.ok.injEq] at before
    obtain ⟨rfl, rfl⟩ := before
    exact after value last rfl

/-- The run changes nothing, however it ends. -/
def Quiet (node : Run σ τ ε α) : Prop := ∀ state, (node state).2 = state

namespace Quiet

theorem pure (value : α) : Quiet (pure value : Run σ τ ε α) := fun _ => rfl

theorem throw (reason : ε) : Quiet (throw reason : Run σ τ ε α) := fun _ => rfl

theorem raise (error : ScriptError) : Quiet (Run.raise error : Run σ τ Halt α) := fun _ => rfl

theorem askSpace (question : Space → Except Fault α) :
    Quiet (Run.askSpace question : Run σ τ Halt α) :=
  fun _ => rfl

theorem orRaise (answer : Except ScriptError α) :
    Quiet (Run.orRaise answer : Run σ τ Halt α) := by
  cases answer with
  | ok value => exact .pure value
  | error error => exact .raise error

theorem mapError (change : ε → ε') {node : Run σ τ ε α} (quiet : Quiet node) :
    Quiet (node.mapError change : Run σ τ ε' α) :=
  quiet

theorem bind {first : Run σ τ ε α} {next : α → Run σ τ ε β} (before : Quiet first)
    (after : ∀ value, Quiet (next value)) : Quiet (first >>= next) := by
  intro state
  have same := before state
  rw [Act.bind_apply]
  rcases ended : first state with ⟨reason | value, last⟩
  · rwa [ended] at same
  · rw [ended] at same
    obtain rfl : last = state := same
    exact after value last

theorem lift {node : Run σ τ Halt α} (quiet : Quiet node) : Quiet (Run.lift node) :=
  quiet.mapError _

theorem located (site : SourceInfo) {node : Run σ τ Exit α} (quiet : Quiet node) :
    Quiet (Run.located site node) :=
  quiet.mapError _

end Quiet

theorem lift_bind (first : Run σ τ Halt α) (next : α → Run σ τ Halt β) :
    lift (first >>= next) = lift first >>= fun value => lift (next value) := by
  funext state
  simp only [lift, Act.mapError, Act.bind_apply]
  rcases first state with ⟨halt | value, last⟩ <;> rfl

theorem lift_eq_ok {node : Run σ τ Halt α} {state last : RunState σ τ} {value : α} :
    lift node state = (.ok value, last) ↔ node state = (.ok value, last) := by
  simp only [lift, Act.mapError]
  rcases node state with ⟨halt | value, last⟩ <;> simp [Except.mapError]

theorem located_eq_ok {site : SourceInfo} {node : Run σ τ Exit α} {state last : RunState σ τ}
    {value : α} : located site node state = (.ok value, last) ↔ node state = (.ok value, last) := by
  simp only [located, Act.mapError]
  rcases node state with ⟨exit | value, last⟩ <;> simp [Except.mapError]

end Run

/-- A literal, or a variable that is not declared where it stands. -/
inductive Operand.IsAtom : Operand → Prop where
  | literal (site : SourceInfo) (value : Literal) : IsAtom (.literal site value)
  | var (site : SourceInfo) {named : Variable} (bare : named.hint = .none) :
      IsAtom (.var site named)
  | nested (outer site : SourceInfo) {operand : Operand} (right : Option Operand)
      (atom : IsAtom operand) : IsAtom (.nested outer (.node site .plain (some operand) right))

/-- An expression that is no more than such an operand. -/
inductive Expression.IsAtom : Expression → Prop where
  | plain (site : SourceInfo) {operand : Operand} (right : Option Operand)
      (atom : operand.IsAtom) : IsAtom (.node site .plain (some operand) right)

/-- What stands in brackets: a key, or a range between two bounds that may be missing. -/
inductive Operand.IsSelector : Operand → Prop where
  | key {operand : Operand} (atom : operand.IsAtom) : IsSelector operand
  | range (site : SourceInfo) {lower upper : Option Expression}
      (lowerAtom : ∀ bound, lower = some bound → bound.IsAtom)
      (upperAtom : ∀ bound, upper = some bound → bound.IsAtom) :
      IsSelector (.range site lower upper)

/-- A variable, or a property, an element or a range of elements that is found without effects. -/
inductive Operand.IsTarget : Operand → Prop where
  | var (site : SourceInfo) {named : Variable} (bare : named.hint = .none) :
      IsTarget (.var site named)
  | child (outer site : SourceInfo) {object : Operand} (key : Operand) (atom : object.IsAtom) :
      IsTarget (.nested outer (.node site .child (some object) (some key)))
  | index (outer site : SourceInfo) {object key : Operand} (atom : object.IsAtom)
      (selects : key.IsSelector) :
      IsTarget (.nested outer (.node site .index (some object) (some key)))
  | nested (outer site : SourceInfo) {operand : Operand} (right : Option Operand)
      (target : IsTarget operand) :
      IsTarget (.nested outer (.node site .plain (some operand) right))

namespace Eval

variable {σ τ : Type}

theorem quiet_variableValue {context : ContextRef} {named : Variable}
    (bare : named.hint = .none) :
    Run.Quiet (variableValue context named : Run σ τ Halt Value) := by
  simp only [variableValue, bare, declared?]
  refine Run.Quiet.bind (.askSpace _) fun answer => ?_
  cases answer with
  | ok value => exact .pure value
  | error error => exact .raise _

theorem quiet_keyPlace (target key : Value) :
    Run.Quiet (keyPlace target key : Run σ τ Halt Place) := by
  unfold keyPlace
  split
  · exact .bind (.askSpace _) fun _ => .bind (.orRaise _) fun _ => .pure _
  · exact .pure _
  · exact .raise _

theorem quiet_rangePlace (array : Handle) (lower upper : Option Int64) :
    Run.Quiet (rangePlace array lower upper : Run σ τ Halt Place) :=
  .bind (.askSpace _) fun _ => .bind (.orRaise _) fun _ => .pure _

theorem quiet_indexPlace_range {target : Run σ τ Exit Value}
    {lower upper : Run σ τ Exit (Option Int64)} (quiet : Run.Quiet target)
    (quietLower : Run.Quiet lower) (quietUpper : Run.Quiet upper) :
    Run.Quiet (indexPlace target (.range lower upper)) := by
  refine quiet.bind fun target => ?_
  cases target with
  | array handle =>
    exact quietLower.bind fun lower => quietUpper.bind fun upper =>
      (quiet_rangePlace handle lower upper).lift
  | undefined | null | bool | int | float | string | object | callable => exact .throw _

theorem quiet_indexPlace_key {target key : Run σ τ Exit Value} (quiet : Run.Quiet target)
    (quietKey : Run.Quiet key) : Run.Quiet (indexPlace target (.key key)) :=
  quiet.bind fun target => quietKey.bind fun key => (quiet_keyPlace target key).lift

section Nodes

variable (env : Environment σ τ) (context : ContextRef) (outer site : SourceInfo)

theorem operand_nested_plain (operand : Operand) (right : Option Operand) :
    Eval.operand env context (.nested outer (.node site .plain (some operand) right)) =
      Run.located outer (Run.located site (Eval.operand env context operand)) :=
  rfl

theorem place_nested_plain (operand : Operand) (right : Option Operand) :
    Eval.place env context (.nested outer (.node site .plain (some operand) right)) =
      Run.located outer (Run.located site (Eval.place env context operand)) :=
  rfl

theorem operand_nested_child (object key : Operand) :
    Eval.operand env context (.nested outer (.node site .child (some object) (some key))) =
      Run.located outer (Run.located site (do
        let object ← Eval.operand env context object
        let key ← Run.lift (Run.askSpace fun _ => keyName (some key))
        Run.lift (readProperty object key))) :=
  rfl

theorem place_nested_child (object key : Operand) :
    Eval.place env context (.nested outer (.node site .child (some object) (some key))) =
      Run.located outer (do
        let object ← Eval.operand env context object
        let key ← Run.lift (Run.askSpace fun _ => keyName (some key))
        Run.located site (Run.lift (Run.orRaise (propertyPlace object key)))) :=
  rfl

theorem operand_nested_index (object key : Operand) :
    Eval.operand env context (.nested outer (.node site .index (some object) (some key))) =
      Run.located outer (Run.located site (do
        let place ← indexPlace (Eval.operand env context object) (selector env context (some key))
        Run.lift (readPlace place))) :=
  rfl

theorem place_nested_index (object key : Operand) :
    Eval.place env context (.nested outer (.node site .index (some object) (some key))) =
      Run.located outer (Run.located site
        (indexPlace (Eval.operand env context object) (selector env context (some key)))) :=
  rfl

end Nodes

variable (env : Environment σ τ) (context : ContextRef)

theorem quiet_operand {operand : Operand} (atom : operand.IsAtom) :
    Run.Quiet (Eval.operand env context operand) := by
  induction atom with
  | literal site value => exact .pure _
  | var site bare => exact (quiet_variableValue bare).lift.located site
  | nested outer site right _ ih =>
    rw [operand_nested_plain]
    exact (ih.located site).located outer

theorem quiet_rangeBound {bound : Option Expression}
    (atoms : ∀ tree, bound = some tree → tree.IsAtom) :
    Run.Quiet (rangeBound env context bound) := by
  cases bound with
  | none => exact .pure _
  | some tree =>
    obtain ⟨site, right, atom⟩ := atoms tree rfl
    exact ((quiet_operand env context atom).located site).bind fun _ =>
      (Run.Quiet.orRaise _).lift.bind fun _ => .pure _

theorem quiet_indexPlace {object key : Operand} (atom : object.IsAtom)
    (selects : key.IsSelector) :
    Run.Quiet (indexPlace (Eval.operand env context object) (selector env context (some key))) := by
  have quiet := quiet_operand env context atom
  cases selects with
  | key keyAtom =>
    have quietKey := quiet_operand env context keyAtom
    cases keyAtom with
    | literal | var | nested => exact quiet_indexPlace_key quiet quietKey
  | range site lowerAtom upperAtom =>
    exact quiet_indexPlace_range quiet (quiet_rangeBound env context lowerAtom)
      (quiet_rangeBound env context upperAtom)

theorem quiet_place {target : Operand} (found : target.IsTarget) :
    Run.Quiet (Eval.place env context target) := by
  induction found with
  | var site bare => exact (Run.Quiet.askSpace _).lift.located site
  | child outer site key atom =>
    rw [place_nested_child]
    have rest : ∀ object, Run.Quiet (do
        let key ← Run.lift (Run.askSpace fun _ => keyName (some key))
        Run.located site (Run.lift (Run.orRaise (propertyPlace object key))) :
          Run σ τ Exit Place) := fun object =>
      (Run.Quiet.askSpace _).lift.bind fun _ => (Run.Quiet.orRaise _).lift.located site
    exact ((quiet_operand env context atom).bind rest).located outer
  | index outer site atom selects =>
    rw [place_nested_index]
    exact ((quiet_indexPlace env context atom selects).located site).located outer
  | nested outer site right _ ih =>
    rw [place_nested_plain]
    exact (ih.located site).located outer

theorem unplaced_variableValue (context : ContextRef) {named : Variable}
    (bare : named.hint = .none) :
    Run.unplaced (Run.lift (variableValue context named) : Run σ τ Exit Value) =
      Run.unplaced (Run.lift (do
        Run.orRaise (← Run.askSpace (·.resolve context named.name)))) := by
  funext state
  simp only [variableValue, bare, declared?, Run.unplaced, Run.lift, Act.mapError, Act.bind_apply,
    Run.askSpace]
  rcases state.space.resolve context named.name with fault | error | value
  · rfl
  · exact congrArg (fun error => (Except.error (Exit.raised error), state))
      (error.unplaced_locate named.site)
  · rfl

theorem unplaced_variable_of_place {context : ContextRef} {named : Variable} {place : Place}
    {state last : RunState σ τ} (bare : named.hint = .none)
    (found : bindingPlace context named.name state = (.ok place, last)) :
    Run.unplaced (Run.lift (variableValue context named)) state =
      Run.unplaced (Run.lift (readPlace place)) state := by
  rw [unplaced_variableValue context bare]
  simp only [bindingPlace, Run.askSpace, Prod.mk.injEq] at found
  cases owned : state.space.owner? context named.name with
  | error fault => simp [owned, bind, Except.bind, Except.mapError] at found
  | ok owner =>
    cases owner with
    | none =>
      obtain rfl : .binding context named.name false = place := by
        simpa [owned, bind, Except.bind, pure, Except.pure, Except.mapError] using found.1
      simp only [Run.unplaced, Run.lift, Act.mapError, Act.bind_apply, Run.askSpace,
        Space.resolve_unbound owned]
      rfl
    | some owner =>
      obtain rfl : .binding owner named.name true = place := by
        simpa [owned, bind, Except.bind, pure, Except.pure, Except.mapError] using found.1
      simp only [readPlace, if_true, Run.unplaced, Run.lift, Act.mapError, Act.bind_apply,
        Run.askSpace, Space.resolve_owner owned]

theorem unplaced_operand_of_place {target : Operand} (found : target.IsTarget) {place : Place}
    {state last : RunState σ τ}
    (placed : Eval.place env context target state = (.ok place, last)) :
    Run.unplaced (Eval.operand env context target) state =
      Run.unplaced (Run.lift (readPlace place)) state := by
  induction found with
  | var site bare =>
    have inner := Run.lift_eq_ok.mp (Run.located_eq_ok.mp placed)
    rw [← unplaced_variable_of_place bare inner]
    exact congrFun (Run.unplaced_located site _) state
  | child outer site key atom =>
    rw [place_nested_child] at placed
    rw [operand_nested_child, Run.unplaced_located, Run.unplaced_located]
    obtain ⟨object, middle, evaluated, ended⟩ := Act.bind_eq_ok (Run.located_eq_ok.mp placed)
    obtain rfl : middle = state := by
      simpa [evaluated] using quiet_operand env context atom state
    obtain ⟨name, last', named, ended⟩ := Act.bind_eq_ok ended
    obtain rfl : middle = last' := congrArg Prod.snd named
    -- Only an object has a place for its property; the other readable properties are lengths.
    have inner := Run.lift_eq_ok.mp (Run.located_eq_ok.mp ended)
    cases object with
    | object handle =>
      obtain rfl : .property (.object handle) name = place :=
        Except.ok.inj (congrArg Prod.fst inner)
      simp only [Run.unplaced, Act.mapError, Act.bind_apply, evaluated, named]
      rfl
    | undefined | null | bool | int | float | string | array | callable => cases inner
  | index outer site atom selects =>
    rw [place_nested_index] at placed
    rw [operand_nested_index, Run.unplaced_located, Run.unplaced_located]
    have inner := Run.located_eq_ok.mp (Run.located_eq_ok.mp placed)
    obtain rfl : last = state := by
      simpa [inner] using quiet_indexPlace env context atom selects state
    simp only [Run.unplaced, Act.mapError, Act.bind_apply, inner]
  | nested outer site right _ ih =>
    rw [place_nested_plain] at placed
    rw [operand_nested_plain, Run.unplaced_located, Run.unplaced_located]
    exact ih (Run.located_eq_ok.mp (Run.located_eq_ok.mp placed))

/-- The write goes to the place that was found first, with the value that was computed last. -/
theorem unplaced_compound {write : Place → Value → SourceInfo → Run σ τ Halt Unit}
    (op : Arithmetic) {found : Run σ τ Exit Place} {target amount : Run σ τ Exit Value}
    (quiet : Run.Quiet found)
    (means : ∀ {state last place}, found state = (.ok place, last) →
      Run.unplaced target state = Run.unplaced (Run.lift (readPlace place)) state)
    (outer inner site : SourceInfo) :
    Run.unplaced (compound write op found amount site) =
      Run.unplaced (do
        let place ← found
        let value ← Run.located outer (Run.located inner (strict (.arithmetic op) target amount))
        Run.lift (write place value site)
        pure value) := by
  funext state
  -- Finding the place has changed nothing, so the target is evaluated where the place was found.
  refine Run.unplaced_bind rfl fun place last placed => ?_
  obtain rfl : last = state := by simpa [placed] using quiet state
  let store (value : Value) : Run σ τ Exit Value := do
    Run.lift (write place value site)
    pure value
  have updated : ∀ current amount, Run.lift (updatePlace write op place current amount site) =
      Run.lift (binary (.arithmetic op) current amount) >>= store := by
    intro current amount
    simp only [updatePlace, Run.lift_bind]
    rfl
  calc Run.unplaced (do
        let current ← Run.lift (readPlace place)
        let amount ← amount
        Run.lift (updatePlace write op place current amount site)) last
    _ = Run.unplaced (do
        let current ← target
        let amount ← amount
        Run.lift (updatePlace write op place current amount site)) last :=
      Run.unplaced_bind (means placed).symm fun _ _ _ => rfl
    _ = Run.unplaced (strict (.arithmetic op) target amount >>= store) last := by
      simp only [updated, strict, bind_assoc]
    _ = Run.unplaced (Run.located outer (Run.located inner
        (strict (.arithmetic op) target amount)) >>= store) last :=
      Run.unplaced_bind (by simp) fun _ _ _ => rfl

theorem declaration?_of_isTarget {target : Operand} (found : target.IsTarget) :
    declaration? target = none := by
  cases found with
  | var site bare => simp [declaration?, bare, declared?]
  | child | index | nested => rfl

theorem expression_compound {op : Operator} {arithmetic : Arithmetic}
    (computes : op.compound? = some arithmetic) (site : SourceInfo) (target amount : Operand) :
    Eval.expression env context (.node site op (some target) (some amount)) =
      Run.located site (compound env.write arithmetic (Eval.place env context target)
        (Eval.operand env context amount) site) := by
  cases op <;> cases computes <;> rfl

theorem operand_arithmetic (arithmetic : Arithmetic) (outer inner : SourceInfo)
    (target amount : Operand) :
    Eval.operand env context
        (.nested outer (.node inner arithmetic.operator (some target) (some amount))) =
      Run.located outer (Run.located inner (strict (.arithmetic arithmetic)
        (Eval.operand env context target) (Eval.operand env context amount))) := by
  cases arithmetic <;> rfl

theorem expression_assign {target : Operand} (found : target.IsTarget) (site : SourceInfo)
    (source : Operand) :
    Eval.expression env context (.node site .assign (some target) (some source)) =
      Run.located site (do
        let place ← Eval.place env context target
        let value ← Eval.operand env context source
        Run.lift (env.write place value site)
        pure value) := by
  rw [Eval.expression.eq_def]
  simp only [declaration?_of_isTarget found]

/-- A compound assignment to a target that is found without effects comes to the same as the
assignment that it stands for, whatever the amount does to the target in between: to the same
state, and to the same value or the same way to leave it, but for the places of errors. An
increment or decrement is the compound assignment of one. -/
theorem compound_assignment_expands {target : Operand} (found : target.IsTarget)
    (amount : Operand) (site outer inner : SourceInfo) :
    (∀ op arithmetic, op.compound? = some arithmetic →
      Run.unplaced (Eval.expression env context (.node site op (some target) (some amount))) =
        Run.unplaced (Eval.expression env context (.node site .assign (some target)
          (some (.nested outer (.node inner arithmetic.operator (some target) (some amount))))))) ∧
    (∀ right at', Eval.expression env context (.node site .increment (some target) right) =
      Eval.expression env context
        (.node site .addAssign (some target) (some (.literal at' (.int 1))))) ∧
    ∀ right at', Eval.expression env context (.node site .decrement (some target) right) =
      Eval.expression env context
        (.node site .subAssign (some target) (some (.literal at' (.int 1)))) := by
  refine ⟨fun op arithmetic computes => ?_, fun _ _ => rfl, fun _ _ => rfl⟩
  rw [expression_compound env context computes, expression_assign env context found,
    operand_arithmetic, Run.unplaced_located, Run.unplaced_located]
  exact unplaced_compound arithmetic (quiet_place env context found)
    (unplaced_operand_of_place env context found) outer inner site

/-- An array of one number, and a variable for it. -/
private def counted : RunState Unit Empty :=
  let opened := ((SpaceAction.newGlobal "main.js" "" '/').run {}).2
  let stored := ((SpaceAction.allocateArray #[.int 1]).run opened).2
  ⟨((SpaceAction.define ⟨⟨0, 0⟩⟩ "items" (.array ⟨1, 0⟩) .mutable).run stored).2, .empty none, (),
    []⟩

/-- The first element of the array. -/
private def element : Operand := (Expression.index (.var "items") (.int 0)).toOperand

/-- Gives the variable another value. -/
private def rebinding : Operand := (Expression.assign (.var "items") (.int 5)).toOperand

private def added : Run Unit Empty Exit Value :=
  Eval.expression (Eval.environment .storing {} 1) ⟨⟨0, 0⟩⟩
    (.node .empty .addAssign (some element) (some rebinding))

private def expanded : Run Unit Empty Exit Value :=
  Eval.expression (Eval.environment .storing {} 1) ⟨⟨0, 0⟩⟩
    (.node .empty .assign (some element)
      (some (.nested .empty (.node .empty .add (some element) (some rebinding)))))

/-- The amount gives the variable of the target another value, and still the element is written. -/
theorem addition_outlives_rebinding :
    Run.unplaced added = Run.unplaced expanded ∧
    ∃ after, added counted = (.ok (.int 6), after) ∧
      after.space.array ⟨1, 0⟩ = .ok #[.int 6] ∧
      after.space.resolve ⟨⟨0, 0⟩⟩ "items" = .ok (.ok (.int 5)) :=
  ⟨(compound_assignment_expands _ _ (.index _ _ (.var _ rfl) (.key (.literal _ _))) _ _ _ _).1
    .addAssign .add rfl, _, rfl, rfl, rfl⟩

end Eval

end ScriptEngine
