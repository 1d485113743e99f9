import ScriptEngine.Proofs.LockstepQuestions
import ScriptEngine.Run

set_option autoImplicit false

namespace ScriptEngine

theorem Act.map_apply {S ε α β : Type} (change : α → β) (first : Act S ε α) (state : S) :
    (change <$> first) state = ((first state).1.map change, (first state).2) := by
  change Act.bind first _ state = _
  simp only [Act.bind]
  rcases first state with ⟨reason | value, last⟩ <;> rfl

theorem Act.ask_bind_ok {S ε α β : Type} {question : S → Except ε α} {next : α → Act S ε β}
    {state : S} (value : α) (answered : question state = .ok value) :
    (Act.ask question >>= next) state = next value state := by
  simp only [Act.bind_apply, Act.ask, answered]

/-- When the states and the early ends of two computations are alike. An end that is lost says
nothing about the other side. -/
structure Link (S ε : Type) where
  states : Pairing → S → S → Prop
  ends : Pairing → S → S → ε → ε → Prop
  lost : S → ε → Prop

inductive Outcome {S ε α β : Type} (link : Link S ε) (pairing : Pairing)
    (values : Pairing → α → β → Prop) : Except ε α × S → Except ε β × S → Prop where
  | value {larger : Pairing} {left right : S} {value : α} {other : β} (grown : pairing ≤ larger)
      (states : link.states larger left right) (alike : values larger value other) :
      Outcome link pairing values (.ok value, left) (.ok other, right)
  | early {larger : Pairing} {left right : S} {reason reason' : ε} (grown : pairing ≤ larger)
      (states : link.states larger left right) (ends : link.ends larger left right reason reason') :
      Outcome link pairing values (.error reason, left) (.error reason', right)
  | lostLeft {left : S} {reason : ε} {second : Except ε β × S} (lost : link.lost left reason) :
      Outcome link pairing values (.error reason, left) second
  | lostRight {first : Except ε α × S} {right : S} {reason : ε} (lost : link.lost right reason) :
      Outcome link pairing values first (.error reason, right)

/-- From states that are alike under the pairing, or under a larger one, both computations end
alike. -/
def Lockstep {S ε α β : Type} (link : Link S ε) (pairing : Pairing)
    (values : Pairing → α → β → Prop) (first : Act S ε α) (second : Act S ε β) : Prop :=
  ∀ (larger : Pairing) (left right : S), pairing ≤ larger → link.states larger left right →
    Outcome link larger values (first left) (second right)

/-- Two questions that are answered alike, or refused alike. -/
inductive Answers {S ε α β : Type} (link : Link S ε) (pairing : Pairing)
    (values : Pairing → α → β → Prop) (left right : S) : Except ε α → Except ε β → Prop where
  | value {value : α} {other : β} (alike : values pairing value other) :
      Answers link pairing values left right (.ok value) (.ok other)
  | early {reason reason' : ε} (ends : link.ends pairing left right reason reason') :
      Answers link pairing values left right (.error reason) (.error reason')

namespace Answers

variable {S ε α β γ δ : Type} {link : Link S ε} {pairing : Pairing} {left right : S}
  {values : Pairing → α → β → Prop} {values' : Pairing → γ → δ → Prop}

theorem bind {first : Except ε α} {second : Except ε β} {next : α → Except ε γ}
    {next' : β → Except ε δ} (both : Answers link pairing values left right first second)
    (rest : ∀ value other, values pairing value other →
      Answers link pairing values' left right (next value) (next' other)) :
    Answers link pairing values' left right (first >>= next) (second >>= next') := by
  cases both with
  | value alike => exact rest _ _ alike
  | early ends => exact .early ends

theorem map {first : Except ε α} {second : Except ε β} {change : α → γ} {change' : β → δ}
    (both : Answers link pairing values left right first second)
    (changed : ∀ value other, values pairing value other →
      values' pairing (change value) (change' other)) :
    Answers link pairing values' left right (first >>= fun value => pure (change value))
      (second >>= fun other => pure (change' other)) :=
  both.bind fun _ _ alike => .value (changed _ _ alike)

end Answers

namespace Outcome

variable {S ε α β : Type} {link : Link S ε} {pairing larger : Pairing}
  {values : Pairing → α → β → Prop} {first : Except ε α × S} {second : Except ε β × S}

theorem shrink (grown : pairing ≤ larger) (outcome : Outcome link larger values first second) :
    Outcome link pairing values first second := by
  cases outcome with
  | value grown' states alike => exact .value (grown.trans grown') states alike
  | early grown' states ends => exact .early (grown.trans grown') states ends
  | lostLeft lost => exact .lostLeft lost
  | lostRight lost => exact .lostRight lost

end Outcome

namespace Lockstep

variable {S ε α β γ δ : Type} {link : Link S ε} {pairing larger : Pairing}
  {values : Pairing → α → β → Prop} {values' : Pairing → γ → δ → Prop}

theorem mono {first : Act S ε α} {second : Act S ε β} (grown : pairing ≤ larger)
    (both : Lockstep link pairing values first second) : Lockstep link larger values first second :=
  fun larger' left right grown' states => both larger' left right (grown.trans grown') states

theorem pure {value : α} {other : β}
    (alike : ∀ larger, pairing ≤ larger → values larger value other) :
    Lockstep link pairing values (pure value) (pure other) :=
  fun _ _ _ grown states => .value (le_refl _) states (alike _ grown)

theorem throw {reason reason' : ε} (ends : ∀ larger left right, pairing ≤ larger →
      link.states larger left right → link.ends larger left right reason reason') :
    Lockstep link pairing values (throw reason) (throw reason') :=
  fun _ _ _ grown states => .early (le_refl _) states (ends _ _ _ grown states)

theorem bind {first : Act S ε α} {second : Act S ε β} {next : α → Act S ε γ}
    {next' : β → Act S ε δ} (both : Lockstep link pairing values first second)
    (rest : ∀ larger, pairing ≤ larger → ∀ value other, values larger value other →
      Lockstep link larger values' (next value) (next' other)) :
    Lockstep link pairing values' (first >>= next) (second >>= next') := by
  intro larger left right grown states
  have outcome := both larger left right grown states
  rw [Act.bind_apply, Act.bind_apply]
  generalize first left = ended at outcome
  generalize second right = ended' at outcome
  cases outcome with
  | value grown' states' alike =>
    exact (rest _ (grown.trans grown') _ _ alike _ _ _ (le_refl _) states').shrink grown'
  | early grown' states' ends => exact .early grown' states' ends
  | lostLeft lost => exact .lostLeft lost
  | lostRight lost => exact .lostRight lost

theorem map {first : Act S ε α} {second : Act S ε β} {change : α → γ} {change' : β → δ}
    (both : Lockstep link pairing values first second)
    (changed : ∀ larger value other, values larger value other →
      values' larger (change value) (change' other)) :
    Lockstep link pairing values' (change <$> first) (change' <$> second) := by
  intro larger left right grown states
  have outcome := both larger left right grown states
  change Outcome link larger values' (Act.bind first _ left) (Act.bind second _ right)
  simp only [Act.bind, Function.comp_apply]
  generalize first left = ended at outcome
  generalize second right = ended' at outcome
  cases outcome with
  | value grown' states' alike => exact .value grown' states' (changed _ _ _ alike)
  | early grown' states' ends => exact .early grown' states' ends
  | lostLeft lost => exact .lostLeft lost
  | lostRight lost => exact .lostRight lost

theorem ask {question : S → Except ε α} {question' : S → Except ε β}
    (answers : ∀ larger left right, pairing ≤ larger → link.states larger left right →
      Answers link larger values left right (question left) (question' right)) :
    Lockstep link pairing values (Act.ask question) (Act.ask question') := by
  intro larger left right grown states
  have answer := answers larger left right grown states
  unfold Act.ask
  generalize question left = ended at answer
  generalize question' right = ended' at answer
  cases answer with
  | value alike => exact .value (le_refl _) states alike
  | early ends => exact .early (le_refl _) states ends

end Lockstep

/-- Values that are alike, or the same error in their place. -/
inductive Settled {α β : Type} (values : α → β → Prop) :
    Except ScriptError α → Except ScriptError β → Prop where
  | value {value : α} {other : β} (alike : values value other) :
      Settled values (.ok value) (.ok other)
  | error (error : ScriptError) : Settled values (.error error) (.error error)

theorem Settled.refl {α : Type} {values : α → α → Prop} {result : Except ScriptError α}
    (alike : ∀ value, result = .ok value → values value value) : Settled values result result := by
  cases result with
  | ok value => exact .value (alike value rfl)
  | error error => exact .error error

namespace Terms

/-- The faults that the terms leave room for. Under strict terms these are a lack of slots and,
unless all chains end, an endless search. -/
def Tolerates (terms : Terms) (space : Space) (fault : Fault) : Prop :=
  terms.strict → (fault = .spaceExhausted ∧ Space.capacity ≤ space.slots.size) ∨
    (fault = .brokenChain ∧ ¬ terms.rooted)

/-- One of two spaces that differ has run out of slots. -/
def Exhausted (terms : Terms) (space : Space) (fault : Fault) : Prop :=
  ¬ terms.same ∧ fault = .spaceExhausted ∧ Space.capacity ≤ space.slots.size

def spaces (terms : Terms) : Link Space Fault where
  states := Twins terms
  ends _ left right fault fault' := terms.Tolerates left fault ∧ terms.Tolerates right fault'
  lost := terms.Exhausted

end Terms

end ScriptEngine
