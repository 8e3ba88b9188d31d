import UptimeGreeter.Text.Unprintable
import UptimeGreeter.Text.Extender

/-!
Quoted text: a double quote on either side, and an escape for every character that would end the
text, break its line or leave no mark.
-/

namespace UptimeGreeter

namespace Quoted

def escape (char : Char) : List Char :=
  match char with
  | '"' => ['\\', '"']
  | '\\' => ['\\', '\\']
  | '\x00' => ['\\', '0']
  | '\t' => ['\\', 't']
  | '\n' => ['\\', 'n']
  | '\r' => ['\\', 'r']
  | _ =>
      if Text.isExtender char || Text.isUnprintable char then
        ['\\', 'u', '\x7b'] ++ Nat.toDigits 16 char.toNat ++ ['\x7d']
      else [char]

def encode (text : List Char) : List Char :=
  '"' :: (text.flatMap escape ++ ['"'])

end Quoted

def quote (text : String) : String :=
  String.ofList (Quoted.encode text.toList)

end UptimeGreeter
