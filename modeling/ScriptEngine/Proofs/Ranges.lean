import ScriptEngine.Proofs.Assignments
import ScriptEngine.Proofs.Collection
import ScriptEngine.Proofs.PermittedRuns

set_option autoImplicit false

namespace ScriptEngine

namespace Eval

section Splices

variable {items replacement : Array Value} {lower upper : Nat}

theorem toList_splice : (splice items lower upper replacement).toList =
    items.toList.take lower ++ replacement.toList ++ items.toList.drop upper := by
  have rest : (items.toList.drop upper).take (items.size - upper) = items.toList.drop upper :=
    List.take_of_length_le (by simp)
  simp [splice, List.extract_eq_take_drop, rest]

theorem extract_splice (inside : lower ≤ items.size) :
    (splice items lower upper replacement).extract lower (lower + replacement.size) =
      replacement := by
  apply Array.toList_inj.mp
  simp [toList_splice, List.extract_eq_take_drop, inside]

theorem splice_extract (ordered : lower ≤ upper) :
    splice items lower upper (items.extract lower upper) = items := by
  apply Array.toList_inj.mp
  rw [toList_splice, Array.toList_extract, List.extract_eq_take_drop, ← List.take_add,
    Nat.add_sub_cancel' ordered, List.take_append_drop]

theorem le_size_splice (inside : lower ≤ items.size) :
    lower + replacement.size ≤ (splice items lower upper replacement).size := by
  simp [splice, inside]

end Splices

/-- Where a range begins: at its lower bound, or else at the start of the array. -/
def lowerEnd (bound : Option Int64) : Int := bound.elim 0 Int64.toInt

/-- Where a range ends: at its upper bound, or else at the end of the array. -/
def upperEnd (length : Nat) (bound : Option Int64) : Int := bound.elim length Int64.toInt

/-- The two ends are in order, and neither is outside an array of so many elements. -/
def RangeFits (length : Nat) (lower upper : Option Int64) : Prop :=
  0 ≤ lowerEnd lower ∧ lowerEnd lower ≤ upperEnd length upper ∧ upperEnd length upper ≤ length

instance (length : Nat) (lower upper : Option Int64) : Decidable (RangeFits length lower upper) :=
  inferInstanceAs (Decidable (_ ∧ _))

theorem toInt_intOfLength {length : Nat} (short : length ≤ Int64.maxValue.toInt) :
    (intOfLength length).toInt = length := by
  rw [intOfLength, if_pos short]
  refine Int64.toInt_ofNat_of_lt ?_
  have largest : Int64.maxValue.toInt = 9223372036854775807 := rfl
  omega

theorem validateRange_eq {length : Nat} {lower upper : Option Int64}
    (short : upper = none → length ≤ Int64.maxValue.toInt) :
    validateRange length (lower.getD 0) (upper.getD (intOfLength length)) =
      if RangeFits length lower upper then
        .ok ((lowerEnd lower).toNat, (upperEnd length upper).toNat)
      else .error (.ofKind
        (.invalidRange (lower.getD 0) (upper.getD (intOfLength length)) length)) := by
  have first : (lower.getD 0).toInt = lowerEnd lower := by cases lower <;> rfl
  have last : (upper.getD (intOfLength length)).toInt = upperEnd length upper := by
    cases upper with
    | none => exact toInt_intOfLength (short rfl)
    | some bound => rfl
  rw [validateRange, first, last]
  exact if_congr Iff.rfl rfl rfl

section Places

variable {σ τ : Type} {state now : RunState σ τ} {array : Handle} {items present : Array Value}

theorem rangePlace_apply (lower : Option Int64) {upper : Option Int64}
    (held : state.space.array array = .ok items)
    (short : upper = none → items.size ≤ Int64.maxValue.toInt) :
    rangePlace array lower upper state =
      if RangeFits items.size lower upper then
        (.ok (.range array (lowerEnd lower).toNat (upperEnd items.size upper).toNat), state)
      else (.error (.raised (.ofKind (.invalidRange (lower.getD 0)
        (upper.getD (intOfLength items.size)) items.size))), state) := by
  simp only [rangePlace, Act.bind_apply, Run.askSpace, held, Except.mapError,
    validateRange_eq short]
  by_cases fits : RangeFits items.size lower upper
  · simp only [if_pos fits]
    rfl
  · simp only [if_neg fits]
    rfl

variable {first last : Nat}

theorem readPlace_range (held : now.space.array array = .ok present) (ordered : first ≤ last) :
    readPlace (.range array first last) now =
      if last ≤ present.size then
        Run.ofSpace (Space.allocateArray (present.extract first last)) now
      else (.error (.raised (.ofKind (.invalidRange (intOfLength first) (intOfLength last)
        present.size))), now) := by
  simp only [readPlace, Act.bind_apply, Run.askSpace, held, Except.mapError, ordered, true_and]
  split <;> rfl

theorem writePlace_range (host : Host σ τ) {source : Handle} {replacement : Array Value}
    (held : now.space.array array = .ok present)
    (taken : now.space.array source = .ok replacement) (site : SourceInfo) :
    writePlace host (.range array first last) (.array source) site now =
      if last ≤ present.size then
        Run.ofSpace (Space.updateArray array (splice · first last replacement)) now
      else (.error (.raised (.ofKind (.invalidRange (intOfLength first) (intOfLength last)
        present.size))), now) := by
  simp only [writePlace, writeRange, Act.bind_apply, Run.askSpace, held, taken, Except.mapError]
  split <;> rfl

/-- Reading the place makes a new array of these elements and changes no other slot. Only where
every slot is taken it cannot. -/
def ReadsAs (place : Place) (state : RunState σ τ) (elements : Array Value) : Prop :=
  (∃ fresh space, readPlace place state = (.ok (.array fresh), { state with space }) ∧
    state.space.get? fresh = none ∧ space.Tidy ∧
    Space.Placed state.space fresh (.array elements) space) ∨
  readPlace place state = (.error (.fault .spaceExhausted), state) ∧
    Space.capacity ≤ state.space.slots.size

/-- Writing the value to the place gives the array these elements and changes no other slot. -/
def WritesAs (host : Host σ τ) (place : Place) (value : Value) (state : RunState σ τ)
    (array : Handle) (elements : Array Value) (space : Space) : Prop :=
  (∀ site, writePlace host place value site state = (.ok (), { state with space })) ∧
    space.Tidy ∧ Space.Placed state.space array (.array elements) space

/-- From the one state to the other the run comes to a range error. -/
def RangeFails {α : Type} (run : Run σ τ Exit α) (start last : RunState σ τ) : Prop :=
  ∃ error, run start = (.error (.raised error), last) ∧ error.code = .rangeError

theorem rangeFails_lift {α : Type} {run : Run σ τ Halt α} {start last : RunState σ τ}
    {lower upper : Int64} {length : Nat}
    (ended : run start = (.error (.raised (.ofKind (.invalidRange lower upper length))), last)) :
    RangeFails (Run.lift run) start last := by
  refine ⟨.ofKind (.invalidRange lower upper length), ?_, rfl⟩
  rw [Run.lift, Act.mapError, ended]
  rfl

theorem RangeFails.located {α : Type} {run : Run σ τ Exit α} {start last : RunState σ τ}
    (fails : RangeFails run start last) (site : SourceInfo) :
    RangeFails (Run.located site run) start last := by
  obtain ⟨error, ended, coded⟩ := fails
  refine ⟨error.locate site, ?_, ?_⟩
  · simp only [Run.located, Act.mapError, ended]
    rfl
  · rwa [ScriptError.code_locate]

theorem RangeFails.bind {α β : Type} {run : Run σ τ Exit α} {start last : RunState σ τ}
    (fails : RangeFails run start last) (next : α → Run σ τ Exit β) :
    RangeFails (run >>= next) start last := by
  obtain ⟨error, ended, coded⟩ := fails
  exact ⟨error, by rw [Act.bind_apply, ended], coded⟩

theorem readsAs_range (tidy : now.space.Tidy) (held : now.space.array array = .ok present)
    (ordered : first ≤ last) (inside : last ≤ present.size) :
    ReadsAs (.range array first last) now (present.extract first last) := by
  rw [ReadsAs, readPlace_range held ordered, if_pos inside]
  simp only [Run.ofSpace, Space.allocateArray]
  rcases tidy.allocateAs (.array (present.extract first last)) Value.array with
    ⟨fresh, space, made, tidy', absent, placed⟩ | ⟨full, bound⟩
  · rw [made]
    exact Or.inl ⟨fresh, space, rfl, absent, tidy', placed⟩
  · rw [full]
    exact Or.inr ⟨rfl, bound⟩

theorem writesAs_range (host : Host σ τ) (tidy : now.space.Tidy)
    (held : now.space.array array = .ok present) (inside : last ≤ present.size) {source : Handle}
    {replacement : Array Value} (taken : now.space.array source = .ok replacement) :
    ∃ space, WritesAs host (.range array first last) (.array source) now array
      (splice present first last replacement) space := by
  obtain ⟨space, stored, placed⟩ := Space.updateArray_held (splice · first last replacement)
    (Space.array_eq_ok_iff.mp held)
  have tidy' := Space.keeps_updateArray array (splice · first last replacement) now.space tidy
  rw [stored] at tidy'
  refine ⟨space, fun site => ?_, tidy', placed⟩
  rw [writePlace_range host held taken, if_pos inside]
  simp only [Run.ofSpace, stored]
  rfl

/-- What was written to a range is what the range of that length reads as afterwards. -/
theorem readsAs_written (now : RunState σ τ) {elements : Array Value} {space : Space}
    {low high : Int64} (tidy : space.Tidy) (held : space.array array = .ok elements)
    (first_eq : low.toInt = first) (last_eq : high.toInt = last) (ordered : first ≤ last)
    (inside : last ≤ elements.size) :
    ∃ place, rangePlace array (some low) (some high) { now with space } =
        (.ok place, { now with space }) ∧
      ReadsAs place { now with space } (elements.extract first last) := by
  have fits : RangeFits elements.size (some low) (some high) := by
    change 0 ≤ low.toInt ∧ low.toInt ≤ high.toInt ∧ high.toInt ≤ elements.size
    omega
  have given : some high = none → elements.size ≤ Int64.maxValue.toInt := nofun
  have found : rangePlace array (some low) (some high) { now with space } = _ :=
    rangePlace_apply (some low) held given
  refine ⟨.range array first last, ?_, readsAs_range tidy held ordered inside⟩
  rw [found, if_pos fits]
  simp only [lowerEnd, upperEnd, Option.elim, first_eq, last_eq, Int.toNat_natCast]

/-- What reading and writing the elements from `first` up to `last` comes to at a time when the
array has the elements `present`. -/
structure RangeLaw (host : Host σ τ) (array : Handle) (first last : Nat) (now : RunState σ τ)
    (present : Array Value) : Prop where
  /-- A read copies the elements of the range. -/
  reads : last ≤ present.size →
    ReadsAs (.range array first last) now (present.extract first last)
  /-- A write replaces the elements of the range, also by those of the array itself, and the range
  of their number reads them back. -/
  writes : last ≤ present.size → ∀ {source : Handle} {replacement : Array Value},
    now.space.array source = .ok replacement → ∃ elements space,
      elements.toList =
        present.toList.take first ++ replacement.toList ++ present.toList.drop last ∧
      WritesAs host (.range array first last) (.array source) now array elements space ∧
      ∀ {low high : Int64}, low.toInt = first → high.toInt = first + replacement.size →
        ∃ place, rangePlace array (some low) (some high) { now with space } =
            (.ok place, { now with space }) ∧
          ReadsAs place { now with space } replacement
  /-- The array that was just read, written back, leaves the array as it is. -/
  restores : ∀ {fresh : Handle} {later : RunState σ τ},
    readPlace (.range array first last) now = (.ok (.array fresh), later) →
      ∃ space, WritesAs host (.range array first last) (.array fresh) later array present space
  /-- Once the array has become too short for the range, both are range errors. -/
  shrunk : present.size < last →
    RangeFails (Run.lift (readPlace (.range array first last))) now now ∧
    ∀ {source : Handle} {replacement : Array Value}, now.space.array source = .ok replacement →
      ∀ site, RangeFails
        (Run.lift (writePlace host (.range array first last) (.array source) site)) now now

theorem restores_range (host : Host σ τ) (tidy : now.space.Tidy)
    (held : now.space.array array = .ok present) (ordered : first ≤ last) {fresh : Handle}
    {later : RunState σ τ}
    (read : readPlace (.range array first last) now = (.ok (.array fresh), later)) :
    ∃ space, WritesAs host (.range array first last) (.array fresh) later array present space := by
  by_cases inside : last ≤ present.size
  · rcases readsAs_range tidy held ordered inside with
      ⟨fresh', space, ended, absent, tidy', placed⟩ | ⟨full, -⟩
    · rw [ended] at read
      cases read
      -- The new array is another one, so the old one still has its elements.
      have apart : array ≠ fresh := by
        rintro rfl
        rw [Space.array_eq_ok_iff, absent] at held
        cases held
      have held' : space.array array = .ok present := by
        rw [Space.array_eq_ok_iff, placed.elsewhere array apart]
        exact Space.array_eq_ok_iff.mp held
      have taken : space.array fresh = .ok (present.extract first last) :=
        Space.array_eq_ok_iff.mpr placed.here
      have written : ∃ written, WritesAs host (.range array first last) (.array fresh)
          { now with space } array _ written :=
        writesAs_range host tidy' held' inside taken
      rwa [splice_extract ordered] at written
    · rw [full] at read
      cases read
  · rw [readPlace_range held ordered, if_neg inside] at read
    cases read

theorem rangeLaw (host : Host σ τ) (tidy : now.space.Tidy)
    (held : now.space.array array = .ok present) (ordered : first ≤ last) :
    RangeLaw host array first last now present where
  reads := readsAs_range tidy held ordered
  writes := by
    intro inside source replacement taken
    obtain ⟨space, written⟩ := writesAs_range host tidy held inside taken
    refine ⟨_, space, toList_splice, written, fun first_eq last_eq => ?_⟩
    have within : first ≤ present.size := Nat.le_trans ordered inside
    have reread := readsAs_written now written.2.1 (Space.array_eq_ok_iff.mpr written.2.2.here)
      first_eq (by simpa using last_eq) (Nat.le_add_right first replacement.size)
      (le_size_splice within)
    rwa [extract_splice within] at reread
  restores := restores_range host tidy held ordered
  shrunk := by
    intro short
    have outside : ¬ last ≤ present.size := Nat.not_le.mpr short
    constructor
    · exact rangeFails_lift ((readPlace_range held ordered).trans (if_neg outside))
    · intro source replacement taken site
      exact rangeFails_lift ((writePlace_range host held taken site).trans (if_neg outside))

end Places

section Expressions

variable {σ τ : Type} {env : Environment σ τ} {context : ContextRef} {target : Operand}
  {lower upper : Option Expression} {array : Handle} {first last : Option Int64}
  {start state : RunState σ τ} {items : Array Value}

/-- The target has been evaluated to the array, and then the bounds that are there to their
ints. -/
def Bounded (env : Environment σ τ) (context : ContextRef) (target : Operand)
    (lower upper : Option Expression) (start : RunState σ τ) (array : Handle)
    (first last : Option Int64) (state : RunState σ τ) : Prop :=
  ∃ middle middle', Eval.operand env context target start = (.ok (.array array), middle) ∧
    rangeBound env context lower middle = (.ok first, middle') ∧
    rangeBound env context upper middle' = (.ok last, state)

/-- The elements of an array between two bounds. -/
def ranged (site at' : SourceInfo) (target : Operand) (lower upper : Option Expression) :
    Expression :=
  .node site .index (some target) (some (.range at' lower upper))

theorem indexPlace_bounded (bounded : Bounded env context target lower upper start array first
    last state) (at' : SourceInfo) :
    indexPlace (required env context .index (some target))
        (selector env context (some (.range at' lower upper))) start =
      Run.lift (rangePlace array first last) state := by
  obtain ⟨middle, middle', evaluated, begun, ended⟩ := bounded
  simp only [indexPlace, required, selector, Act.bind_apply, evaluated, begun, ended]

/-- The assignment of a source to the elements between two bounds. -/
def rangedAssign (outer between site at' : SourceInfo) (target : Operand)
    (lower upper : Option Expression) (source : Operand) : Expression :=
  .node outer .assign (some (.nested between (ranged site at' target lower upper))) (some source)

/-- However long it takes from the bounds to the read or the write, the place that was found then
is what is read or written. -/
structure PlacesRange (host : Host σ τ) (env : Environment σ τ) (context : ContextRef)
    (target : Operand) (lower upper : Option Expression) (start : RunState σ τ) (place : Place)
    (state : RunState σ τ) : Prop where
  found : ∀ site at',
    expressionPlace env context (ranged site at' target lower upper) start = (.ok place, state)
  read : ∀ site at', Eval.expression env context (ranged site at' target lower upper) start =
    Run.located site (Run.lift (readPlace place)) state
  write : ∀ outer between site at' source,
    Eval.expression env context (rangedAssign outer between site at' target lower upper source)
        start =
      Run.located outer (do
        let value ← Eval.operand env context source
        Run.lift (writePlace host place value outer)
        pure value) state

/-- Neither is the range read nor is a source evaluated that would be written to it. -/
structure RefusesRange (env : Environment σ τ) (context : ContextRef) (target : Operand)
    (lower upper : Option Expression) (start state : RunState σ τ) : Prop where
  found : ∀ site at', RangeFails
    (expressionPlace env context (ranged site at' target lower upper)) start state
  read : ∀ site at', RangeFails
    (Eval.expression env context (ranged site at' target lower upper)) start state
  write : ∀ outer between site at' source, RangeFails
    (Eval.expression env context (rangedAssign outer between site at' target lower upper source))
    start state

theorem placesRange (host : Host σ τ) (classes : ClassRegistry) (fuel : Nat)
    (bounded : Bounded (environment host classes fuel) context target lower upper start array
      first last state) {place : Place} (found : rangePlace array first last state =
        (.ok place, state)) :
    PlacesRange host (environment host classes fuel) context target lower upper start place
      state := by
  have placed : ∀ at', indexPlace (required (environment host classes fuel) context .index
      (some target)) (selector (environment host classes fuel) context
        (some (.range at' lower upper))) start = (.ok place, state) := fun at' => by
    rw [indexPlace_bounded bounded, Run.lift_eq_ok.mpr found]
  refine ⟨fun site at' => Run.located_eq_ok.mpr (placed at'), fun site at' => ?_,
    fun outer between site at' source => ?_⟩
  · simp only [ranged, Eval.expression, Run.located, Act.mapError, Act.bind_apply, placed]
  · have found' : Eval.place (environment host classes fuel) context
        (.nested between (ranged site at' target lower upper)) start = (.ok place, state) :=
      Run.located_eq_ok.mpr (Run.located_eq_ok.mpr (placed at'))
    simp only [rangedAssign, Eval.expression, declaration?, Run.located, Act.mapError,
      Act.bind_apply, found']
    rfl

theorem refusesRange
    (bounded : Bounded env context target lower upper start array first last state)
    (fails : RangeFails (Run.lift (rangePlace array first last)) state state) :
    RefusesRange env context target lower upper start state := by
  have refused : ∀ at', RangeFails (indexPlace (required env context .index (some target))
      (selector env context (some (.range at' lower upper)))) start state := fun at' => by
    rwa [RangeFails, indexPlace_bounded bounded]
  refine ⟨fun site at' => (refused at').located site, fun site at' => ?_,
    fun outer between site at' source => ?_⟩
  · exact ((refused at').bind _).located site
  · exact ((((refused at').located site).located between).bind _).located outer

/-- A range is accepted iff its ends are in order and within the array as it is once both bounds
are evaluated; else it is a range error. An accepted range keeps its ends: whenever it is read or
written, a read copies the elements in between, a write replaces them, the two undo each other,
and both are range errors if the array has become too short in the meantime. No array is so long
that its length, which a missing upper bound stands for, is not an int. -/
theorem ranges_are_checked_read_and_spliced (host : Host σ τ) (classes : ClassRegistry)
    (fuel : Nat) (bounded : Bounded (environment host classes fuel) context target lower upper
      start array first last state)
    (held : state.space.array array = .ok items)
    (short : last = none → items.size ≤ Int64.maxValue.toInt) :
    (RangeFits items.size first last →
      PlacesRange host (environment host classes fuel) context target lower upper start
        (.range array (lowerEnd first).toNat (upperEnd items.size last).toNat) state ∧
      ∀ {now : RunState σ τ} {present : Array Value}, now.space.Tidy →
        now.space.array array = .ok present →
        RangeLaw host array (lowerEnd first).toNat (upperEnd items.size last).toNat now present) ∧
    (¬ RangeFits items.size first last →
      RefusesRange (environment host classes fuel) context target lower upper start state) := by
  have checked := rangePlace_apply first held short
  refine ⟨fun fits => ⟨?_, fun tidy present => ?_⟩, fun outside => ?_⟩
  · rw [if_pos fits] at checked
    exact placesRange host classes fuel bounded checked
  · exact rangeLaw host tidy present (Int.toNat_le_toNat fits.2.1)
  · rw [if_neg outside] at checked
    exact refusesRange bounded (rangeFails_lift checked)

/-- An array of three numbers, and a variable for it. -/
private def lined : RunState Unit Empty :=
  let opened := ((SpaceAction.newGlobal "main.js" "" '/').run {}).2
  let stored := ((SpaceAction.allocateArray #[.int 1, .int 2, .int 3]).run opened).2
  ⟨((SpaceAction.define ⟨⟨0, 0⟩⟩ "items" (.array ⟨1, 0⟩) .mutable).run stored).2, .empty none, (),
    []⟩

private theorem tidy_lined : lined.space.Tidy :=
  Space.keeps_run (.define _ _ _ _) _
    (Space.keeps_run (.allocateArray _) _ (Space.keeps_run (.newGlobal _ _ _) _ Space.tidy_empty))

/-- The array once only its first number is left. -/
private def trimmed : RunState Unit Empty :=
  { lined with space := ((SpaceAction.updateArray ⟨1, 0⟩ (·.extract 0 1)).run lined.space).2 }

/-- All but the first number can be replaced by the array itself, and cannot be read any more once
only the first number is left. -/
theorem tail_of_three :
    expressionPlace (environment .storing {} 1) ⟨⟨0, 0⟩⟩
        (ranged .empty .empty (Expression.var "items").toOperand (some (.int 1)) none) lined =
      (.ok (.range ⟨1, 0⟩ 1 3), lined) ∧
    (∃ space, WritesAs .storing (.range ⟨1, 0⟩ 1 3) (.array ⟨1, 0⟩) lined ⟨1, 0⟩
      #[.int 1, .int 1, .int 2, .int 3] space) ∧
    RangeFails (Run.lift (readPlace (.range ⟨1, 0⟩ 1 3))) trimmed trimmed := by
  have bounded : Bounded (environment .storing {} 1) ⟨⟨0, 0⟩⟩ (Expression.var "items").toOperand
      (some (.int 1)) none lined ⟨1, 0⟩ (some 1) none lined := ⟨_, _, rfl, rfl, rfl⟩
  have held : lined.space.array ⟨1, 0⟩ = .ok #[.int 1, .int 2, .int 3] := rfl
  obtain ⟨places, law⟩ := (ranges_are_checked_read_and_spliced .storing {} 1 bounded held
    (fun _ => by decide)).1 (by decide)
  have short : trimmed.space.array ⟨1, 0⟩ = .ok #[.int 1] := rfl
  have tidy : trimmed.space.Tidy := Space.keeps_run (.updateArray _ _) _ tidy_lined
  obtain ⟨elements, space, spliced, written, -⟩ := (law tidy_lined held).writes (by decide) held
  obtain rfl : elements = #[.int 1, .int 1, .int 2, .int 3] := Array.toList_inj.mp spliced
  exact ⟨places.found .empty .empty, ⟨space, written⟩, ((law tidy short).shrunk (by decide)).1⟩

end Expressions

end Eval

end ScriptEngine
