import PodSite.Inline.Node
import PodSite.Text.Number

/-!
Character codes: names and numbers that stand for one character.
-/
namespace PodSite.Inline

def charOfCode? (n : Nat) : Option Char :=
  if n < 0xD800 ∨ (0xDFFF < n ∧ n < 0x110000) then some (Char.ofNat n) else none

/-- The number a character code gives: hexadecimal after `0x`, octal after `0`, else decimal. -/
def codeNumber? (name : Text) : Option Nat :=
  match name with
  | '0' :: 'x' :: hex => Text.number? 16 hex
  | '0' :: 'X' :: hex => Text.number? 16 hex
  | '0' :: d :: octal => Text.number? 8 (d :: octal)
  | _ => if name.all Text.isAsciiDigit then Text.number? 10 name else none

def namedCharacters : List (Text × Char) :=
  [ ("lt".toList, '<'), ("gt".toList, '>'), ("verbar".toList, '|'), ("sol".toList, '/'),
    ("quot".toList, '"'), ("amp".toList, '&'), ("apos".toList, '\''), ("nbsp".toList, '\u00A0')]

/-- The node for a character code. Another alphanumeric name is passed on, and anything else is
shown as it was written. -/
def ofCharacterCode (name : Text) : Inline :=
  match namedCharacters.lookup name with
  | some c => .character [c]
  | none =>
    match (codeNumber? name).bind charOfCode? with
    | some c => .character [c]
    | none =>
      if !name.isEmpty && name.all Text.isAsciiAlphanumeric then .entity name
      else .text ("E<".toList ++ name ++ ['>'])

end PodSite.Inline
