set_option autoImplicit false

namespace ScriptEngine

/-- A line and a column, both counted from one. -/
structure Position where
  line : Nat
  column : Nat
deriving DecidableEq, Repr, Inhabited

namespace Position

def none : Position := ⟨0, 0⟩

/-- Positions are ordered by line and then by column. -/
def compare (a b : Position) : Ordering :=
  (Ord.compare a.line b.line).then (Ord.compare a.column b.column)

end Position

structure SourceInfo where
  file : String
  start : Position
  stop : Position
deriving DecidableEq, Repr, Inhabited

namespace SourceInfo

/-- The source info of a node that no script text stands behind. -/
def empty : SourceInfo := ⟨"", .none, .none⟩

def point (file : String) (line column : Nat) : SourceInfo :=
  ⟨file, ⟨line, column⟩, ⟨line, column⟩⟩

/-- First line covered, zero when there is no location. -/
def line (site : SourceInfo) : Nat := site.start.line

def isEmpty (site : SourceInfo) : Bool := site.line == 0

/-- The text of a source info: file, line and column of its start. -/
def text (site : SourceInfo) : String :=
  if site.isEmpty then "<unknown>"
  else site.file ++ ":" ++ toString site.start.line ++ ":" ++ toString site.start.column

@[simp] theorem isEmpty_empty : empty.isEmpty = true := rfl

theorem isEmpty_iff (site : SourceInfo) : site.isEmpty = true ↔ site.line = 0 := by
  simp [isEmpty]

end SourceInfo

end ScriptEngine
