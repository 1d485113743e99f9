import Mathlib.Algebra.Group.Int.Defs
import ScriptEngine.Proofs.Assignments

set_option autoImplicit false

namespace ScriptEngine

/-- A division that cuts toward zero: what is left over is smaller than the divisor and does not
have the opposite sign of the dividend. -/
structure Cuts (dividend divisor quotient rest : Int) : Prop where
  splits : dividend = divisor * quotient + rest
  smaller : rest.natAbs < divisor.natAbs
  signed : 0 ≤ rest * dividend

theorem cuts_tdiv (dividend : Int) {divisor : Int} (nonzero : divisor ≠ 0) :
    Cuts dividend divisor (dividend.tdiv divisor) (dividend.tmod divisor) where
  splits := (Int.mul_tdiv_add_tmod dividend divisor).symm
  smaller := by
    rw [Int.natAbs_tmod]
    exact Nat.mod_lt _ (Int.natAbs_pos.mpr nonzero)
  signed := by
    rcases Int.le_total 0 dividend with positive | negative
    · exact Int.mul_nonneg (Int.tmod_nonneg _ positive) positive
    · have rest : 0 ≤ (-dividend).tmod divisor := Int.tmod_nonneg _ (by omega)
      rw [Int.neg_tmod] at rest
      exact Int.mul_nonneg_of_nonpos_of_nonpos (by omega) negative

namespace Cuts

variable {dividend divisor quotient rest : Int}

theorem nonzero (cuts : Cuts dividend divisor quotient rest) : divisor ≠ 0 := by
  have smaller := cuts.smaller
  omega

/-- There is one way to divide. -/
theorem eq_tdiv (cuts : Cuts dividend divisor quotient rest) :
    dividend.tdiv divisor = quotient ∧ dividend.tmod divisor = rest := by
  have splits := cuts.splits
  have smaller := cuts.smaller
  have signed := cuts.signed
  rcases Int.lt_trichotomy 0 dividend with positive | zero | negative
  · have kept : 0 ≤ rest := Int.nonneg_of_mul_nonneg_left signed positive
    exact (Int.tdiv_tmod_unique (Int.le_of_lt positive) cuts.nonzero).mpr ⟨by omega, kept, by omega⟩
  · -- A divisor does not divide what is smaller, except for zero.
    have divides : divisor ∣ rest := ⟨-quotient, by rw [Int.mul_neg]; omega⟩
    have none : rest = 0 := Int.eq_zero_of_dvd_of_natAbs_lt_natAbs divides smaller
    exact (Int.tdiv_tmod_unique (Int.le_of_eq zero) cuts.nonzero).mpr ⟨by omega, by omega, by omega⟩
  · have kept : rest ≤ 0 := by
      by_contra above
      have := Int.mul_neg_of_pos_of_neg (Int.not_le.mp above) negative
      omega
    exact (Int.tdiv_tmod_unique' (Int.le_of_lt negative) cuts.nonzero).mpr
      ⟨by omega, by omega, kept⟩

end Cuts

namespace Arithmetic

/-- The results of an operator on two integers. A division by zero has none. -/
inductive Exact : Arithmetic → Int → Int → Int → Prop
  | sum (a b : Int) : Exact .add a b (a + b)
  | difference (a b : Int) : Exact .sub a b (a - b)
  | product (a b : Int) : Exact .mul a b (a * b)
  | quotient {a b quotient rest : Int} (cuts : Cuts a b quotient rest) : Exact .div a b quotient
  | remainder {a b quotient rest : Int} (cuts : Cuts a b quotient rest) : Exact .rem a b rest

/-- What an overflow says was computed. -/
def noun : Arithmetic → String
  | add => "addition"
  | sub => "subtraction"
  | mul => "multiplication"
  | div => "division"
  | rem => "remainder"

/-- The remainder that is refused although an int could hold it. -/
def LostRemainder (op : Arithmetic) (a b : Int64) : Prop :=
  op = .rem ∧ a = Int64.minValue ∧ b = -1

def IsInt64 (exact : Int) : Prop := -2 ^ 63 ≤ exact ∧ exact < 2 ^ 63

/-- What an operator says about two ints: nothing else than its exact result, that the divisor is
zero, or that the result is no int. -/
structure IntOutcome (op : Arithmetic) (a b : Int64) (outcome : Except ScriptError Value) :
    Prop where
  ends : (∃ result, outcome = .ok (.int result)) ∨ outcome = .error (.ofKind .divisionByZero) ∨
    outcome = .error (.ofKind (.integerOverflow op.noun))
  exact : ∀ result : Int64, outcome = .ok (.int result) ↔
    op.Exact a.toInt b.toInt result.toInt ∧ ¬ op.LostRemainder a b
  undivided : outcome = .error (.ofKind .divisionByZero) ↔ (op = .div ∨ op = .rem) ∧ b = 0
  overflow : outcome = .error (.ofKind (.integerOverflow op.noun)) ↔
    (∃ exact, op.Exact a.toInt b.toInt exact ∧ ¬ IsInt64 exact) ∨ op.LostRemainder a b

theorem Exact.unique {op : Arithmetic} {a b first second : Int} (left : op.Exact a b first)
    (right : op.Exact a b second) : first = second := by
  cases left with
  | sum | difference | product => cases right; rfl
  | quotient cuts =>
    cases right with
    | quotient cuts' => exact cuts.eq_tdiv.1.symm.trans cuts'.eq_tdiv.1
  | remainder cuts =>
    cases right with
    | remainder cuts' => exact cuts.eq_tdiv.2.symm.trans cuts'.eq_tdiv.2

theorem isInt64_toInt (value : Int64) : IsInt64 value.toInt := ⟨value.le_toInt, value.toInt_lt⟩

end Arithmetic

namespace Eval

open Arithmetic

theorem checked_of_isInt64 (operation : String) {exact : Int} (fits : IsInt64 exact) :
    checked operation exact = .ok (Int64.ofInt exact) := by
  refine if_pos ?_
  rw [Int64.toInt_minValue, Int64.toInt_maxValue]
  exact ⟨fits.1, Int.le_sub_one_of_lt fits.2⟩

theorem checked_of_not_isInt64 (operation : String) {exact : Int} (outside : ¬ IsInt64 exact) :
    checked operation exact = .error (.ofKind (.integerOverflow operation)) := by
  refine if_neg fun fits => outside ?_
  rw [Int64.toInt_minValue, Int64.toInt_maxValue] at fits
  exact ⟨fits.1, Int.lt_of_le_sub_one fits.2⟩

theorem outcome_checked {op : Arithmetic} {a b : Int64} {exact : Int}
    (result : op.Exact a.toInt b.toInt exact) (divides : ¬ ((op = .div ∨ op = .rem) ∧ b = 0))
    (kept : ¬ op.LostRemainder a b) :
    IntOutcome op a b ((checked op.noun exact).map .int) := by
  by_cases fits : IsInt64 exact
  · have held : (Int64.ofInt exact).toInt = exact := Int64.toInt_ofInt_of_le fits.1 fits.2
    rw [checked_of_isInt64 _ fits]
    refine ⟨.inl ⟨_, rfl⟩, fun value => ⟨?_, fun ⟨other, _⟩ => ?_⟩, iff_of_false nofun divides,
      iff_of_false nofun ?_⟩
    · rintro ⟨⟩
      exact ⟨held.symm ▸ result, kept⟩
    · rw [Int64.toInt_inj.mp (held.trans (result.unique other))]
      rfl
    · rintro (⟨other, exact', outside⟩ | lost)
      · exact outside (result.unique exact' ▸ fits)
      · exact kept lost
  · rw [checked_of_not_isInt64 _ fits]
    refine ⟨.inr (.inr rfl), fun value => iff_of_false nofun fun ⟨other, _⟩ => ?_,
      iff_of_false nofun divides, iff_of_true rfl (.inl ⟨exact, result, fits⟩)⟩
    exact fits (result.unique other ▸ isInt64_toInt value)

theorem outcome_divisionByZero {op : Arithmetic} (divides : op = .div ∨ op = .rem) (a : Int64) :
    IntOutcome op a 0 (.error (.ofKind .divisionByZero)) := by
  have without : ∀ exact, ¬ op.Exact a.toInt (0 : Int64).toInt exact := by
    intro exact result
    rcases divides with rfl | rfl <;> cases result <;> rename_i cuts <;> exact cuts.nonzero rfl
  refine ⟨.inr (.inl rfl), fun value => iff_of_false nofun fun found => without _ found.1,
    iff_of_true rfl ⟨divides, rfl⟩, iff_of_false ?_ ?_⟩
  · nofun
  · rintro (⟨exact, result, _⟩ | ⟨_, _, minus⟩)
    · exact without exact result
    · exact absurd minus (by decide)

/-- Only the least int by minus one has a quotient that is no int. -/
theorem isInt64_tdiv_iff (a b : Int64) :
    IsInt64 (a.toInt.tdiv b.toInt) ↔ ¬ (a = Int64.minValue ∧ b = -1) := by
  have least : a = Int64.minValue ↔ a.toInt = -2 ^ 63 := by
    rw [← Int64.toInt_inj, Int64.toInt_minValue]
  have minus : b = -1 ↔ b.toInt = -1 := Int64.toInt_inj.symm
  have below := a.le_toInt
  have above := a.toInt_lt
  rw [least, minus]
  unfold IsInt64
  generalize a.toInt = a at below above ⊢
  generalize b.toInt = b
  by_cases negated : b = -1
  · rw [negated, Int.tdiv_neg, Int.tdiv_one]
    omega
  · -- No other divisor makes a dividend greater, and only the least one is no int when negated.
    have shrinks : (a.tdiv b).natAbs ≤ a.natAbs := Int.natAbs_tdiv_le_natAbs a b
    have halves : b ≠ 1 → (a.tdiv b).natAbs ≤ a.natAbs / 2 := by
      intro other
      rcases Nat.eq_zero_or_pos b.natAbs with zero | positive
      · rw [Int.natAbs_eq_zero.mp zero, Int.tdiv_zero]
        exact Nat.zero_le _
      · rw [Int.natAbs_tdiv]
        exact Nat.div_le_div_left (by omega) (by decide)
    by_cases one : b = 1
    · rw [one, Int.tdiv_one]
      omega
    · have halved := halves one
      omega

theorem outcome_intArithmetic (op : Arithmetic) (a b : Int64) :
    IntOutcome op a b ((intArithmetic op a b).map .int) := by
  have nonzero : b ≠ 0 → b.toInt ≠ 0 := fun other zero => other (Int64.toInt_inj.mp zero)
  cases op with
  | add => exact outcome_checked (.sum _ _) (by simp) (by simp [LostRemainder])
  | sub => exact outcome_checked (.difference _ _) (by simp) (by simp [LostRemainder])
  | mul => exact outcome_checked (.product _ _) (by simp) (by simp [LostRemainder])
  | div =>
    by_cases zero : b = 0
    · subst zero
      exact outcome_divisionByZero (.inl rfl) a
    · rw [intArithmetic, if_neg zero]
      exact outcome_checked (.quotient (cuts_tdiv _ (nonzero zero))) (by simp [zero])
        (by simp [LostRemainder])
  | rem =>
    by_cases zero : b = 0
    · subst zero
      exact outcome_divisionByZero (.inr rfl) a
    · have result : Exact .rem a.toInt b.toInt (a.toInt.tmod b.toInt) :=
        .remainder (cuts_tdiv _ (nonzero zero))
      simp only [intArithmetic, if_neg zero]
      by_cases lost : a = Int64.minValue ∧ b = -1
      · rw [checked_of_not_isInt64 _ (mt (isInt64_tdiv_iff a b).mp (not_not.mpr lost))]
        refine ⟨.inr (.inr rfl), fun value => iff_of_false ?_ fun found => found.2 ⟨rfl, lost⟩,
          iff_of_false ?_ fun divided => zero divided.2, iff_of_true rfl (.inr ⟨rfl, lost⟩)⟩
        · simp [Except.map]
        · simp [Except.map, ScriptError.ofKind]
      · rw [checked_of_isInt64 _ ((isInt64_tdiv_iff a b).mpr lost)]
        have fits : IsInt64 (a.toInt.tmod b.toInt) := by
          have smaller := (cuts_tdiv a.toInt (nonzero zero)).smaller
          have below := b.le_toInt
          have above := b.toInt_lt
          constructor <;> omega
        have kept : ¬ LostRemainder .rem a b := fun refused => lost refused.2
        simpa only [checked_of_isInt64 _ fits] using
          outcome_checked result (by simp [zero]) kept

section Nodes

variable {σ τ : Type} (env : Environment σ τ) (context : ContextRef)

/-- The least int has no remainder by minus one, although zero is what would be left over. -/
theorem remainder_of_least_int :
    Exact .rem Int64.minValue.toInt (-1 : Int64).toInt (0 : Int64).toInt ∧
    binary (.arithmetic .rem) (.int Int64.minValue) (.int (-1))
        (⟨{}, .empty none, (), []⟩ : RunState Unit Empty) =
      (.error (.raised (.ofKind (.integerOverflow "remainder"))), ⟨{}, .empty none, (), []⟩) :=
  ⟨.remainder (cuts_tdiv _ (by decide)), rfl⟩

theorem binary_ints (op : Arithmetic) (a b : Int64) :
    (binary (.arithmetic op) (.int a) (.int b) : Run σ τ Halt Value) =
      Run.orRaise ((intArithmetic op a b).map .int) := by
  cases op <;> rfl

theorem orRaise_apply {α : Type} (answer : Except ScriptError α) (state : RunState σ τ) :
    Run.orRaise answer state = (answer.mapError .raised, state) := by
  cases answer <;> rfl

/-- Two operands that evaluate to ints, one after the other. -/
def TakesInts (left right : Run σ τ Exit Value) (start : RunState σ τ) (a b : Int64)
    (last : RunState σ τ) : Prop :=
  ∃ middle, left start = (.ok (.int a), middle) ∧ right middle = (.ok (.int b), last)

/-- The operator that a step or a compound assignment applies, and its second operand. -/
def update? (op : Operator) (right : Option Operand) :
    Option (Arithmetic × Run σ τ Exit Value) :=
  match op with
  | .increment => some (.add, pure (.int 1))
  | .decrement => some (.sub, pure (.int 1))
  | op => op.compound?.map (·, required env context op right)

variable {env context}

theorem expression_update {op : Operator} {arithmetic : Arithmetic} {right : Option Operand}
    {amount : Run σ τ Exit Value}
    (updates : update? env context op right = some (arithmetic, amount))
    (site : SourceInfo) (left : Option Operand) :
    Eval.expression env context (.node site op left right) =
      Run.located site (compound env.write arithmetic (requiredPlace env context op left) amount
        site) := by
  cases op <;> cases updates <;> rfl

theorem expression_arithmetic (op : Arithmetic) (site : SourceInfo) (left right : Operand) :
    Eval.expression env context (.node site op.operator (some left) (some right)) =
      Run.located site (strict (.arithmetic op) (Eval.operand env context left)
        (Eval.operand env context right)) := by
  cases op <;> rfl

/-- A target that is found and holds one int, and an amount that evaluates to another. -/
def UpdatesInts (found : Run σ τ Exit Place) (amount : Run σ τ Exit Value)
    (start : RunState σ τ) (place : Place) (a b : Int64) (last : RunState σ τ) : Prop :=
  ∃ middle, found start = (.ok place, middle) ∧
    TakesInts (Run.lift (readPlace place)) amount middle a b last

theorem strict_ints {op : Arithmetic} {left right : Run σ τ Exit Value}
    {start last : RunState σ τ} {a b : Int64} (takes : TakesInts left right start a b last) :
    strict (.arithmetic op) left right start =
      (((intArithmetic op a b).map Value.int).mapError Exit.raised, last) := by
  obtain ⟨middle, first, second⟩ := takes
  simp only [strict, Act.bind_apply, first, second, binary_ints]
  cases intArithmetic op a b <;> rfl

theorem lift_updatePlace_ints (write : Place → Value → SourceInfo → Run σ τ Halt Unit)
    (op : Arithmetic) (place : Place) (a b : Int64) (site : SourceInfo) :
    Run.lift (updatePlace write op place (.int a) (.int b) site) =
      (do
        let value ← Run.lift (Run.orRaise ((intArithmetic op a b).map Value.int))
        Run.lift (write place value site)
        pure value) := by
  simp only [updatePlace, binary_ints, Run.lift_bind]
  rfl

theorem compound_ints (write : Place → Value → SourceInfo → Run σ τ Halt Unit) (op : Arithmetic)
    {found : Run σ τ Exit Place} {amount : Run σ τ Exit Value} {start last : RunState σ τ}
    {place : Place} {a b : Int64} (updates : UpdatesInts found amount start place a b last)
    (site : SourceInfo) :
    (∀ value, (intArithmetic op a b).map Value.int = .ok value →
      compound write op found amount site start = (do
        Run.lift (write place value site)
        pure value : Run σ τ Exit Value) last) ∧
    ∀ error, (intArithmetic op a b).map Value.int = .error error →
      compound write op found amount site start = (.error (.raised error), last) := by
  obtain ⟨middle, target, middle', current, second⟩ := updates
  have computed : compound write op found amount site start =
      Run.lift (updatePlace write op place (.int a) (.int b) site) last := by
    simp only [compound, Act.bind_apply, target, current, second]
  rw [computed, lift_updatePlace_ints]
  refine ⟨fun value result => ?_, fun error result => ?_⟩ <;> rw [result] <;> rfl

variable (env context)

/-- The operators on two ints give the exact result if an int can hold it, and are errors for a
divisor of zero, for a result that no int can hold and for the remainder of the least int by minus
one. They leave the state alone and end in no other way. So does a node that applies one to
operands that are ints. A step or a compound assignment of an int writes the result to the place
that it has found, or writes nothing and is the error. -/
theorem int_arithmetic_is_exact_or_refused (op : Arithmetic) (a b : Int64) :
    ∃ outcome : Except ScriptError Value, op.IntOutcome a b outcome ∧
      (∀ state : RunState σ τ, binary (.arithmetic op) (.int a) (.int b) state =
        (outcome.mapError .raised, state)) ∧
      (∀ {left right : Operand} {start last : RunState σ τ},
        TakesInts (Eval.operand env context left) (Eval.operand env context right) start a b
          last →
        ∀ site,
          Eval.expression env context (.node site op.operator (some left) (some right)) start =
            (outcome.mapError fun error => Exit.raised (error.locate site), last)) ∧
      ∀ {update : Operator} {left right : Option Operand} {amount : Run σ τ Exit Value}
        {start last : RunState σ τ} {place : Place},
        update? env context update right = some (op, amount) →
        UpdatesInts (requiredPlace env context update left) amount start place a b last →
        ∀ site,
          (∀ value, outcome = .ok value →
            Eval.expression env context (.node site update left right) start =
              Run.located site (do
                Run.lift (env.write place value site)
                pure value) last) ∧
          ∀ error, outcome = .error error →
            Eval.expression env context (.node site update left right) start =
              (.error (.raised (error.locate site)), last) := by
  refine ⟨_, outcome_intArithmetic op a b, fun state => ?_, fun takes site => ?_,
    fun updates reads site => ?_⟩
  · rw [binary_ints, orRaise_apply]
  · rw [expression_arithmetic]
    simp only [Run.located, Act.mapError, strict_ints takes]
    cases intArithmetic op a b <;> rfl
  · obtain ⟨writes, refuses⟩ := compound_ints env.write op reads site
    rw [expression_update updates]
    refine ⟨fun value result => ?_, fun error result => ?_⟩
    · simp only [Run.located, Act.mapError, writes value result]
    · simp only [Run.located, Act.mapError, refuses error result]
      rfl

end Nodes

/-- A variable that holds the greatest int. -/
private def brimming : RunState Unit Empty :=
  let opened := ((SpaceAction.newGlobal "main.js" "" '/').run {}).2
  ⟨((SpaceAction.define ⟨⟨0, 0⟩⟩ "count" (.int Int64.maxValue) .mutable).run opened).2,
    .empty none, (), []⟩

private def counter : Operand := (Expression.var "count").toOperand

private def one : Operand := (Expression.int 1).toOperand

/-- Nothing can be added to the greatest int, nor can it be incremented. The variable keeps it. -/
theorem increment_of_greatest_int :
    Eval.expression (environment .storing {} 1) ⟨⟨0, 0⟩⟩
        (.node .empty .add (some counter) (some one)) brimming =
      (.error (.raised (.ofKind (.integerOverflow "addition"))), brimming) ∧
    Eval.expression (environment .storing {} 1) ⟨⟨0, 0⟩⟩
        (.node .empty .increment (some counter) none) brimming =
      (.error (.raised (.ofKind (.integerOverflow "addition"))), brimming) ∧
    Eval.operand (environment .storing {} 1) ⟨⟨0, 0⟩⟩ counter brimming =
      (.ok (.int Int64.maxValue), brimming) := by
  obtain ⟨outcome, law, -, computes, updates⟩ :=
    int_arithmetic_is_exact_or_refused (environment .storing {} 1) ⟨⟨0, 0⟩⟩ .add Int64.maxValue 1
  have refused : outcome = .error (.ofKind (.integerOverflow "addition")) :=
    law.overflow.mpr (.inl ⟨_, .sum _ _, fun fits => absurd fits.2 (by decide)⟩)
  have taken : TakesInts (Eval.operand (environment .storing {} 1) ⟨⟨0, 0⟩⟩ counter)
      (Eval.operand (environment .storing {} 1) ⟨⟨0, 0⟩⟩ one) brimming Int64.maxValue 1 brimming :=
    ⟨_, rfl, rfl⟩
  have added := computes taken .empty
  rw [refused] at added
  exact ⟨added, (updates rfl ⟨_, rfl, _, rfl, rfl⟩ .empty).2 _ refused, rfl⟩

end Eval

end ScriptEngine
