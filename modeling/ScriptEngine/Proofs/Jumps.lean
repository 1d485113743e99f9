import ScriptEngine.Proofs.Collection
import ScriptEngine.Proofs.PermittedTrees
import ScriptEngine.Proofs.Journal

set_option autoImplicit false

namespace ScriptEngine

/-- The error that the note is about, if it has left a body or come to handlers. -/
def Note.error? : Note → Option ScriptError
  | .finish (.error (.halted (.raised error))) | .rescue error => some error
  | _ => none

/-- The jump that the body ended with that the note is about. -/
def Note.jump? : Note → Option Jump
  | .finish (.error (.jumped direction)) => some direction
  | _ => none

namespace Journaled

/-- By the journal, a hook has refused a write with an error of this kind. -/
def Refused (notes : List Note) (kind : ErrorKind) : Prop :=
  ∃ call error, .hook call ∈ notes ∧ call.answer = .reject error ∧ error.kind = kind

/-- By the journal, no body has ended with a jump, and the error of a jump without a loop was seen
only after a hook had answered with it. -/
structure Looped (notes : List Note) : Prop where
  caught : ∀ note ∈ notes, note.jump? = none
  raised : ∀ before note, before ++ [note] <+: notes → ∀ error, note.error? = some error →
    error.kind.isLoopControl = true → Refused before error.kind

variable {notes : List Note} {note : Note} {kind : ErrorKind}

theorem Refused.append (refused : Refused notes kind) (note : Note) :
    Refused (notes ++ [note]) kind := by
  obtain ⟨call, error, member, answer, same⟩ := refused
  exact ⟨call, error, List.mem_append_left _ member, answer, same⟩

theorem Refused.mono {before : List Note} (refused : Refused before kind)
    (earlier : before <+: notes) : Refused notes kind := by
  obtain ⟨call, error, member, answer, same⟩ := refused
  exact ⟨call, error, earlier.subset member, answer, same⟩

theorem Looped.append (looped : Looped notes) (caught : note.jump? = none)
    (raised : ∀ error, note.error? = some error → error.kind.isLoopControl = true →
      Refused notes error.kind) : Looped (notes ++ [note]) := by
  refine ⟨List.forall_mem_append.mpr ⟨looped.caught, by simpa using caught⟩,
    fun before other earlier => ?_⟩
  rcases List.prefix_concat_iff.mp earlier with last | earlier
  · obtain ⟨rfl, same⟩ := List.append_inj' last rfl
    cases same
    exact raised
  · exact looped.raised before other earlier

theorem Looped.silent (looped : Looped notes) (caught : note.jump? = none)
    (silent : note.error? = none) : Looped (notes ++ [note]) := by
  refine looped.append caught fun error about => ?_
  rw [silent] at about
  cases about

end Journaled

namespace Charter

variable {start : Space} {σ τ : Type}

end Charter

private def idle : Host Unit Empty where
  native _ _ := .succeed .undefined
  hook _ _ _ own := (.absorb, own)

private def calm : Note → Bool
  | .finish (.ok _) => true
  | _ => false

end ScriptEngine
