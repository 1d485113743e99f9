import ScriptEngine.Host

set_option autoImplicit false

namespace ScriptEngine

/-- What a hook does with the writes to one key. -/
inductive HookRule where
  | absorb
  /-- Integers are doubled as far as they can be, anything else is dropped. -/
  | double
  /-- Only strings are stored. -/
  | string
  | reject (reason : String) (site : Option SourceInfo)
deriving DecidableEq, Repr

inductive StockHook where
  | store
  /-- A key without a rule is stored. -/
  | byKey (rules : List (String × HookRule))
  /-- The palette is an array, the first capture. -/
  | palette

/-- The number nearest to a sum that can be stored. -/
def saturatedSum (a b : Int64) : Int64 :=
  .ofInt (max Int64.minValue.toInt (min Int64.maxValue.toInt (a.toInt + b.toInt)))

private def rejection (write : HostWrite) (reason : String) : ScriptError :=
  .ofKind (.writeRejected write.key reason)

namespace HookRule

def answer (rule : HookRule) (write : HostWrite) : HookAnswer :=
  match rule with
  | .absorb => .absorb
  | .double =>
    match write.value with
    | .int n => .store (.int (saturatedSum n n))
    | _ => .absorb
  | .string =>
    match expectString write.value with
    | .ok text => .store (.string text)
    | .error error => .reject error
  | .reject reason none => .reject (rejection write reason)
  | .reject reason (some site) => .reject ((rejection write reason).withSite site)

end HookRule

namespace StockHook

def answer (hook : StockHook) (space : Space) (write : HostWrite) : Except Fault HookAnswer :=
  match hook with
  | .store => return .store write.value
  | .byKey rules =>
    match rules.lookup write.key with
    | some rule => return rule.answer write
    | none => return .store write.value
  | .palette =>
    match write.captures with
    | .array handle :: _ => do
      let palette ← space.array handle
      if palette.any (·.identical write.value) then return .store write.value
      else return .reject (rejection write "not in palette")
    | _ => return .absorb

end StockHook

end ScriptEngine
