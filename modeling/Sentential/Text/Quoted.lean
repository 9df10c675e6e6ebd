import Sentential.Text.Extender
import Sentential.Text.Printable

/-! Quoted text for messages. Quotes, backslashes and the common controls become two characters,
anything else that would not show on its own becomes `\u{hex}`. -/
namespace Sentential.Text

/-- The code point in lower-case hexadecimal digits between braces. -/
def escapeCode (c : Char) : List Char :=
  ['\\', 'u', '\x7b'] ++ Nat.toDigits 16 c.toNat ++ ['\x7d']

def escape (c : Char) : List Char :=
  match c with
  | '\x00' => ['\\', '0']
  | '\t' => ['\\', 't']
  | '\n' => ['\\', 'n']
  | '\r' => ['\\', 'r']
  | '"' => ['\\', '"']
  | '\\' => ['\\', '\\']
  | _ => if isExtender c || !isPrintable c then escapeCode c else [c]

def quote (text : String) : String :=
  String.ofList ('"' :: text.toList.flatMap escape ++ ['"'])

end Sentential.Text
