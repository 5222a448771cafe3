import PodSite.Text.Basic
import PodSite.Text.Printable

/-!
Text in double quotes, as it stands in messages: double quotes, backslashes and everything that
cannot be shown are escaped.
-/
namespace PodSite.Text

def hexadecimal (n : Nat) : Text := Nat.toDigits 16 n

def quotedChar (c : Char) : Text :=
  match c with
  | '\x00' => ['\\', '0']
  | '\t' => ['\\', 't']
  | '\r' => ['\\', 'r']
  | '\n' => ['\\', 'n']
  | '"' => ['\\', '"']
  | '\\' => ['\\', '\\']
  | c =>
    if isExtender c || !isPrintable c then "\\u\x7b".toList ++ hexadecimal c.toNat ++ ['\x7d']
    else [c]

def quoted (t : Text) : Text := ['"'] ++ t.flatMap quotedChar ++ ['"']

end PodSite.Text
