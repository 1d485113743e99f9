set_option autoImplicit false

namespace ScriptEngine

/-- A computation that changes a state and may end early. However it ends, the state that it
reached stays. -/
def Act (S ε α : Type) : Type := S → Except ε α × S

namespace Act

variable {S ε ε' α β : Type}

@[always_inline, inline]
protected def pure (value : α) : Act S ε α := fun state => (.ok value, state)

@[always_inline, inline]
protected def bind (first : Act S ε α) (next : α → Act S ε β) : Act S ε β := fun state =>
  match first state with
  | (.ok value, state) => next value state
  | (.error reason, state) => (.error reason, state)

@[always_inline]
instance : Monad (Act S ε) where
  pure := Act.pure
  bind := Act.bind

private theorem map_id (first : Act S ε α) : id <$> first = first := by
  funext state
  change Act.bind first _ state = _
  simp only [Act.bind]
  cases first state with
  | mk result state => cases result <;> rfl

private theorem bind_bind {γ : Type} (first : Act S ε α) (second : α → Act S ε β)
    (third : β → Act S ε γ) : first >>= second >>= third = first >>= fun value =>
      second value >>= third := by
  funext state
  change Act.bind (Act.bind first second) third state =
    Act.bind first (fun value => Act.bind (second value) third) state
  simp only [Act.bind]
  cases first state with
  | mk result state => cases result <;> rfl

instance : LawfulMonad (Act S ε) :=
  LawfulMonad.mk' (Act S ε) map_id (fun _ _ => rfl) bind_bind

@[always_inline]
instance : MonadStateOf S (Act S ε) where
  get := fun state => (.ok state, state)
  set state := fun _ => (.ok (), state)
  modifyGet change := fun state => let (value, state) := change state; (.ok value, state)

@[always_inline]
instance : MonadExceptOf ε (Act S ε) where
  throw reason := fun state => (.error reason, state)
  tryCatch first recover := fun state =>
    match first state with
    | (.ok value, state) => (.ok value, state)
    | (.error reason, state) => recover reason state

@[always_inline, inline]
def ofExcept (result : Except ε α) : Act S ε α := fun state => (result, state)

/-- Answers a question about the state. -/
@[always_inline, inline]
def ask (question : S → Except ε α) : Act S ε α := fun state => (question state, state)

@[always_inline, inline]
def attempt (first : Act S ε α) : Act S ε' (Except ε α) := fun state =>
  let (result, state) := first state
  (.ok result, state)

@[always_inline, inline]
def mapError (change : ε → ε') (first : Act S ε α) : Act S ε' α := fun state =>
  let (result, state) := first state
  (result.mapError change, state)

end Act

end ScriptEngine
