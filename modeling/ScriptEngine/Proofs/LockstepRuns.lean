import ScriptEngine.Eval.Loop
import ScriptEngine.Proofs.LockstepOperations

set_option autoImplicit false

namespace ScriptEngine

inductive Halt.Alike (terms : Terms) (left right : Space) : Halt → Halt → Prop where
  | raised (error : ScriptError) : Halt.Alike terms left right (.raised error) (.raised error)
  | outOfFuel : Halt.Alike terms left right .outOfFuel .outOfFuel
  | fault {fault fault' : Fault} (tolerated : terms.Tolerates left fault)
      (tolerated' : terms.Tolerates right fault') :
      Halt.Alike terms left right (.fault fault) (.fault fault')

inductive Exit.Alike (terms : Terms) (pairing : Pairing) (left right : Space) :
    Exit → Exit → Prop where
  | jumped (direction : Jump) :
      Exit.Alike terms pairing left right (.jumped direction) (.jumped direction)
  | returned {value other : Value} (alike : value.Alike pairing other) :
      Exit.Alike terms pairing left right (.returned value) (.returned other)
  | halted {halt halt' : Halt} (alike : halt.Alike terms left right halt') :
      Exit.Alike terms pairing left right (.halted halt) (.halted halt')

/-- Two states that differ in their spaces only. The queue is one that no step touches. -/
structure Abreast {σ τ : Type} (terms : Terms) (queue : List τ) (pairing : Pairing)
    (left right : RunState σ τ) : Prop where
  spaces : Twins terms pairing left.space right.space
  stack : left.stack = right.stack
  own : left.own = right.own
  queueLeft : left.queue = queue
  queueRight : right.queue = queue

namespace Terms

variable {τ : Type}

def calls (terms : Terms) (σ : Type) (queue : List τ) : Link (RunState σ τ) Halt where
  states := Abreast terms queue
  ends _ left right := Halt.Alike terms left.space right.space
  lost state halt := ∃ fault, halt = .fault fault ∧ terms.Exhausted state.space fault

def nodes (terms : Terms) (σ : Type) (queue : List τ) : Link (RunState σ τ) Exit where
  states := Abreast terms queue
  ends pairing left right := Exit.Alike terms pairing left.space right.space
  lost state exit := ∃ fault, exit = .halted (.fault fault) ∧ terms.Exhausted state.space fault

end Terms

namespace Lockstep

variable {σ τ α β : Type} {terms : Terms} {queue : List τ} {pairing : Pairing}
  {values : Pairing → α → β → Prop}

theorem ofSpace {first : SpaceM α} {second : SpaceM β}
    (both : Lockstep terms.spaces pairing values first second) :
    Lockstep (terms.calls σ queue) pairing values (Run.ofSpace first)
      (Run.ofSpace second) := by
  intro larger left right grown states
  obtain ⟨space, stack, own, queue'⟩ := left
  obtain ⟨space', stack', own', queue''⟩ := right
  have outcome := both larger space space' grown states.spaces
  simp only [Run.ofSpace]
  generalize first space = ended at outcome
  generalize second space' = ended' at outcome
  cases outcome with
  | value grown' twins alike => exact .value grown' { states with spaces := twins } alike
  | early grown' twins ends =>
    exact .early grown' { states with spaces := twins } (.fault ends.1 ends.2)
  | lostLeft lost => exact .lostLeft ⟨_, rfl, lost⟩
  | lostRight lost => exact .lostRight ⟨_, rfl, lost⟩

theorem askSpace {question : Space → Except Fault α} {question' : Space → Except Fault β}
    (answers : ∀ larger left right, pairing ≤ larger → Twins terms larger left right →
      Answers terms.spaces larger values left right (question left) (question' right)) :
    Lockstep (terms.calls σ queue) pairing values (Run.askSpace question)
      (Run.askSpace question') := by
  intro larger left right grown states
  have answer := answers larger left.space right.space grown states.spaces
  simp only [Run.askSpace]
  generalize question left.space = ended at answer
  generalize question' right.space = ended' at answer
  cases answer with
  | value alike => exact .value (le_refl _) states alike
  | early ends => exact .early (le_refl _) states (.fault ends.1 ends.2)

theorem lift {first : Run σ τ Halt α} {second : Run σ τ Halt β}
    (both : Lockstep (terms.calls σ queue) pairing values first second) :
    Lockstep (terms.nodes σ queue) pairing values (Run.lift first) (Run.lift second) := by
  intro larger left right grown states
  have outcome := both larger left right grown states
  simp only [Run.lift, Act.mapError]
  generalize first left = ended at outcome
  generalize second right = ended' at outcome
  cases outcome with
  | value grown' states' alike => exact .value grown' states' alike
  | early grown' states' ends => exact .early grown' states' (.halted ends)
  | lostLeft lost =>
    obtain ⟨fault, rfl, lost⟩ := lost
    exact .lostLeft ⟨fault, rfl, lost⟩
  | lostRight lost =>
    obtain ⟨fault, rfl, lost⟩ := lost
    exact .lostRight ⟨fault, rfl, lost⟩

theorem raise (error : ScriptError) : Lockstep (terms.calls σ queue) pairing values
    (Run.raise error) (Run.raise error) :=
  throw fun _ _ _ _ _ => .raised error

theorem orRaise {result : Except ScriptError α} {result' : Except ScriptError β}
    (settled : ∀ larger, pairing ≤ larger → Settled (values larger) result result') :
    Lockstep (terms.calls σ queue) pairing values (Run.orRaise result)
      (Run.orRaise result') := by
  cases settled pairing (le_refl _) with
  | error error => exact raise error
  | value =>
    refine pure fun larger grown => ?_
    cases settled larger grown with
    | value alike => exact alike

theorem located (site : SourceInfo) {first : Run σ τ Exit α} {second : Run σ τ Exit β}
    (both : Lockstep (terms.nodes σ queue) pairing values first second) :
    Lockstep (terms.nodes σ queue) pairing values (Run.located site first)
      (Run.located site second) := by
  intro larger left right grown states
  have outcome := both larger left right grown states
  simp only [Run.located, Act.mapError]
  generalize first left = ended at outcome
  generalize second right = ended' at outcome
  cases outcome with
  | value grown' states' alike => exact .value grown' states' alike
  | early grown' states' ends =>
    refine .early grown' states' ?_
    cases ends with
    | jumped direction => exact .jumped direction
    | returned alike => exact .returned alike
    | halted alike =>
      cases alike with
      | raised error => exact .halted (.raised _)
      | outOfFuel => exact .halted .outOfFuel
      | fault tolerated tolerated' => exact .halted (.fault tolerated tolerated')
  | lostLeft lost =>
    obtain ⟨fault, rfl, lost⟩ := lost
    exact .lostLeft ⟨fault, rfl, lost⟩
  | lostRight lost =>
    obtain ⟨fault, rfl, lost⟩ := lost
    exact .lostRight ⟨fault, rfl, lost⟩

theorem executing {first : Run σ τ Halt α} {second : Run σ τ Halt β}
    (both : Lockstep (terms.calls σ queue) pairing values first second) :
    Lockstep (terms.calls σ queue) pairing values (Run.executing first)
      (Run.executing second) := by
  intro larger left right grown states
  have outcome := both larger ⟨left.space.enterExecution, left.stack, left.own, left.queue⟩
    ⟨right.space.enterExecution, right.stack, right.own, right.queue⟩ grown
    { states with spaces := states.spaces.enter }
  simp only [Run.executing]
  generalize first _ = ended at outcome
  generalize second _ = ended' at outcome
  cases outcome with
  | value grown' states' alike =>
    exact .value grown' { states' with spaces := states'.spaces.leave } alike
  | early grown' states' ends =>
    cases ends with
    | raised error =>
      exact .early grown' { states' with spaces := states'.spaces.leave } (.raised error)
    | outOfFuel => exact .early grown' { states' with spaces := states'.spaces.leave } .outOfFuel
    | fault tolerated tolerated' => exact .early grown' states' (.fault tolerated tolerated')
  | lostLeft lost =>
    obtain ⟨fault, rfl, lost⟩ := lost
    exact .lostLeft ⟨fault, rfl, lost⟩
  | lostRight lost =>
    obtain ⟨fault, rfl, lost⟩ := lost
    exact .lostRight ⟨fault, rfl, lost⟩

theorem framed {frame frame' : Frame} (same : frame = frame') {first second : Run σ τ Halt Value}
    (both : Lockstep (terms.calls σ queue) pairing Value.Alike first second) :
    Lockstep (terms.calls σ queue) pairing Value.Alike (Run.framed frame first)
      (Run.framed frame' second) := by
  subst same
  intro larger left right grown states
  obtain ⟨space, stack, own, queue'⟩ := left
  obtain ⟨space', stack', own', queue''⟩ := right
  obtain ⟨twins, sameStack, owns, queues, queues'⟩ := states
  dsimp only at sameStack
  subst sameStack
  simp only [Run.framed]
  cases stack.push frame with
  | error error => exact .early (le_refl _) ⟨twins, rfl, owns, queues, queues'⟩ (.raised _)
  | ok pushed =>
    have outcome := both larger ⟨space, pushed, own, queue'⟩ ⟨space', pushed, own', queue''⟩ grown
      ⟨twins, rfl, owns, queues, queues'⟩
    dsimp only
    generalize first _ = ended at outcome
    generalize second _ = ended' at outcome
    cases outcome with
    | value grown' states' alike =>
      exact .value grown' { states' with stack := congrArg CallStack.pop states'.stack } alike
    | early grown' states' ends =>
      exact .early grown' { states' with stack := congrArg CallStack.pop states'.stack } ends
    | lostLeft lost => exact .lostLeft lost
    | lostRight lost => exact .lostRight lost

theorem attached {left right : Space} {halt halt' : Halt} (stack : CallStack)
    (alike : halt.Alike terms left right halt') :
    (Run.attached stack halt).Alike terms left right (Run.attached stack halt') := by
  cases alike with
  | raised error => exact .raised _
  | outOfFuel => exact .outOfFuel
  | fault tolerated tolerated' => exact .fault tolerated tolerated'

theorem finishing {first second : Run σ τ Exit Unit}
    (both : Lockstep (terms.nodes σ queue) pairing Equal first second) :
    Lockstep (terms.calls σ queue) pairing Value.Alike (Run.finishing first)
      (Run.finishing second) := by
  intro larger left right grown states
  have outcome := both larger left right grown states
  simp only [Run.finishing]
  generalize first left = ended at outcome
  generalize second right = ended' at outcome
  cases outcome with
  | value grown' states' _ => exact .value grown' states' (.scalar rfl)
  | early grown' states' ends =>
    rw [states'.stack]
    cases ends with
    | jumped direction =>
      cases direction with
      | leave => exact .early grown' states' (.raised _)
      | next => exact .early grown' states' (.raised _)
    | returned alike => exact .value grown' states' alike
    | halted alike => exact .early grown' states' (attached _ alike)
  | lostLeft lost =>
    obtain ⟨fault, rfl, lost⟩ := lost
    exact .lostLeft ⟨fault, rfl, lost⟩
  | lostRight lost =>
    obtain ⟨fault, rfl, lost⟩ := lost
    exact .lostRight ⟨fault, rfl, lost⟩

/-- After a pass both loops stop, in the same way, or both go on. -/
private theorem pass {ended ended' : Except Exit Unit × RunState σ τ}
    {next next' : RunState σ τ → Except Exit Unit × RunState σ τ}
    (outcome : Outcome (terms.nodes σ queue) pairing Equal ended ended')
    (rest : ∀ larger left right, pairing ≤ larger → Abreast terms queue larger left right →
      Outcome (terms.nodes σ queue) larger Equal (next left) (next' right)) :
    Outcome (terms.nodes σ queue) pairing Equal
      (match ended with
        | (result, state) =>
          match Eval.loopEnd? result with
          | some result => (result, state)
          | none => next state)
      (match ended' with
        | (result, state) =>
          match Eval.loopEnd? result with
          | some result => (result, state)
          | none => next' state) := by
  cases outcome with
  | value grown states _ => exact (rest _ _ _ grown states).shrink grown
  | early grown states ends =>
    cases ends with
    | jumped direction =>
      cases direction with
      | leave => exact .value grown states rfl
      | next => exact (rest _ _ _ grown states).shrink grown
    | returned alike => exact .early grown states (.returned alike)
    | halted alike => exact .early grown states (.halted alike)
  | lostLeft lost =>
    obtain ⟨fault, rfl, lost⟩ := lost
    exact .lostLeft ⟨fault, rfl, lost⟩
  | lostRight lost =>
    obtain ⟨fault, rfl, lost⟩ := lost
    exact .lostRight ⟨fault, rfl, lost⟩

theorem repeatWhile {condition condition' : Run σ τ Exit Bool} {body body' : Run σ τ Exit Unit}
    (conditions : Lockstep (terms.nodes σ queue) pairing Equal condition condition')
    (bodies : Lockstep (terms.nodes σ queue) pairing Equal body body') (bound : Nat) :
    Lockstep (terms.nodes σ queue) pairing Equal (Eval.repeatWhile condition body bound)
      (Eval.repeatWhile condition' body' bound) := by
  intro larger left right grown states
  induction bound generalizing larger left right with
  | zero => exact .early (le_refl _) states (.halted .outOfFuel)
  | succ bound ih =>
    have outcome := conditions larger left right grown states
    simp only [Eval.repeatWhile]
    generalize condition left = ended at outcome
    generalize condition' right = ended' at outcome
    cases outcome with
    | @value larger' _ _ holds _ grown' states' same =>
      subst same
      cases holds with
      | false => exact .value grown' states' rfl
      | true =>
        have passed := bodies _ _ _ (grown.trans grown') states'
        exact (pass passed fun _ _ _ grown'' =>
          ih _ _ _ ((grown.trans grown').trans grown'')).shrink grown'
    | early grown' states' ends => exact .early grown' states' ends
    | lostLeft lost => exact .lostLeft lost
    | lostRight lost => exact .lostRight lost

theorem forEach {body body' : Value → Run σ τ Exit Unit}
    (bodies : ∀ larger value other, pairing ≤ larger → value.Alike larger other →
      Lockstep (terms.nodes σ queue) larger Equal (body value) (body' other))
    {items others : List Value} (alike : Value.AllAlike pairing items others) :
    Lockstep (terms.nodes σ queue) pairing Equal (Eval.forEach body items)
      (Eval.forEach body' others) := by
  intro larger left right grown states
  induction alike generalizing larger left right with
  | nil => exact .value (le_refl _) states rfl
  | cons head _ ih =>
    have passed := bodies larger _ _ grown (head.mono grown) _ _ _ (le_refl _) states
    exact pass passed fun _ _ _ grown' => ih _ _ _ (grown.trans grown')

end Lockstep

end ScriptEngine
