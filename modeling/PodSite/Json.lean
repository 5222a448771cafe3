import PodSite.Text.Basic

/-!
JSON values and their layout on several lines, indented by two spaces.
-/
namespace PodSite

inductive Json where
  | string (t : Text)
  | number (n : Nat)
  | boolean (b : Bool)
  | array (elements : List Json)
  | object (fields : List (Text × Json))
deriving Repr, Inhabited

namespace Json

def escapeChar (c : Char) : Text :=
  match c with
  | '"' => ['\\', '"']
  | '\\' => ['\\', '\\']
  | '\n' => ['\\', 'n']
  | '\r' => ['\\', 'r']
  | '\t' => ['\\', 't']
  | '\x08' => ['\\', 'b']
  | '\x0C' => ['\\', 'f']
  | c =>
    if c.toNat < 0x20 then
      "\\u00".toList ++ [Nat.digitChar (c.toNat / 16), Nat.digitChar (c.toNat % 16)]
    else [c]

def writeString (t : Text) : Text := '"' :: t.flatMap escapeChar ++ ['"']

def lineBreak (depth : Nat) : Text := '\n' :: List.replicate (2 * depth) ' '

mutual
def write (depth : Nat) : Json → Text
  | string t => writeString t
  | number n => Text.decimal n
  | boolean b => if b then "true".toList else "false".toList
  | array [] => ['[', ']']
  | array (first :: rest) =>
    '[' :: lineBreak (depth + 1) ++ write (depth + 1) first ++ writeElements depth rest
  | object [] => ['\x7b', '\x7d']
  | object ((key, value) :: rest) =>
    '\x7b' :: lineBreak (depth + 1) ++ writeString key ++ [':', ' '] ++ write (depth + 1) value ++
      writeFields depth rest
def writeElements (depth : Nat) : List Json → Text
  | [] => lineBreak depth ++ [']']
  | value :: rest =>
    ',' :: lineBreak (depth + 1) ++ write (depth + 1) value ++ writeElements depth rest
def writeFields (depth : Nat) : List (Text × Json) → Text
  | [] => lineBreak depth ++ ['\x7d']
  | (key, value) :: rest =>
    ',' :: lineBreak (depth + 1) ++ writeString key ++ [':', ' '] ++ write (depth + 1) value ++
      writeFields depth rest
end

def pretty (j : Json) : Text := write 0 j

end Json
end PodSite
