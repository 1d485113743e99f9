import ScriptEngine.Tree

set_option autoImplicit false

namespace ScriptEngine

namespace LoopScoped

mutual

/-- Whether the jumps of an expression have a loop to end in, given whether there is one around. -/
def expression (loop : Bool) : Expression → Bool
  | .node _ _ left right => optional loop left && optional loop right

def optional (loop : Bool) : Option Operand → Bool
  | none => true
  | some inner => operand loop inner

def rangeBound (loop : Bool) : Option Expression → Bool
  | none => true
  | some inner => expression loop inner

def operand (loop : Bool) : Operand → Bool
  | .literal _ _ | .var _ _ => true
  | .array _ elements => expressions loop elements
  | .object _ members => properties loop members
  | .nested _ inner => expression loop inner
  | .function _ _ body => program body
  | .call _ callee arguments => expression loop callee && expressions loop arguments
  | .jump _ _ => loop
  | .range _ lower upper => rangeBound loop lower && rangeBound loop upper

def expressions (loop : Bool) : List Expression → Bool
  | [] => true
  | first :: rest => expression loop first && expressions loop rest

def properties (loop : Bool) : List (String × Expression) → Bool
  | [] => true
  | (_, first) :: rest => expression loop first && properties loop rest

/-- No loop reaches into a program or a function body from outside. -/
def program : Program → Bool
  | .mk _ body => scope false body

def scope (loop : Bool) : Scope → Bool
  | .mk _ inner => controls loop inner

def controls (loop : Bool) : List Control → Bool
  | [] => true
  | .statement _ body :: rest => expression loop body && controls loop rest
  | .conditional inner :: rest => conditional loop inner && controls loop rest

def conditional (loop : Bool) : Conditional → Bool
  | .ifThen _ condition body alternative =>
    expression loop condition && scope loop body && otherwise loop alternative
  | .otherwise _ body => scope loop body
  | .whileLoop _ condition body => expression loop condition && scope true body
  | .forIn _ _ iterable body => expression loop iterable && scope true body
  | .attempt _ body rescue => scope loop body && handlers loop rescue

def otherwise (loop : Bool) : Option Conditional → Bool
  | none => true
  | some alternative => conditional loop alternative

def handlers (loop : Bool) : List Handler → Bool
  | [] => true
  | .mk _ _ _ body :: rest => scope loop body && handlers loop rest

end

end LoopScoped

/-- Whether every jump in the program, or in a function inside it, has a loop to end in. -/
def Program.loopScoped (program : Program) : Bool := LoopScoped.program program

end ScriptEngine
