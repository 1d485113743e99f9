import ScriptEngine.Text.Unprintable
import ScriptEngine.Text.Extending

set_option autoImplicit false

namespace ScriptEngine

namespace Quoted

def codePoint (char : Char) : List Char :=
  '\\' :: 'u' :: '\x7b' :: (Nat.toDigits 16 char.toNat ++ ['\x7d'])

def escape (char : Char) : List Char :=
  match char with
  | '\x00' => ['\\', '0']
  | '\t' => ['\\', 't']
  | '\n' => ['\\', 'n']
  | '\r' => ['\\', 'r']
  | '"' => ['\\', '"']
  | '\\' => ['\\', '\\']
  | char =>
    if CharClass.extending.contains char || CharClass.unprintable.contains char then
      codePoint char
    else [char]

def text (content : String) : String :=
  String.ofList ('"' :: (content.toList.flatMap escape ++ ['"']))

end Quoted

end ScriptEngine
