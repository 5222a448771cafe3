import PodSite.Text.Numeral
import PodSite.Text.Basic

/-!
Qualified module names, such as `Foo::Bar`, and where they stand in running text.
-/
namespace PodSite.ModuleName

def isFirst (c : Char) : Bool := Text.isAsciiLetter c || c == '_'

def isNext (c : Char) : Bool := Text.isAsciiAlphanumeric c || c == '_'

def identifierLength : Text → Nat
  | [] => 0
  | c :: rest => if isFirst c then (rest.takeWhile isNext).length + 1 else 0

/-- The length of the longest chain of `::` and an identifier that continues a name. The text is
read character by character; `skip` of them belong to the chain already. -/
def chainLength (skip : Nat) : Text → Nat
  | [] => 0
  | c :: rest =>
    match skip with
    | skip + 1 => chainLength skip rest + 1
    | 0 =>
      match c, rest with
      | ':', ':' :: after =>
        let more := identifierLength after
        if more = 0 then 0 else chainLength (more + 1) rest + 1
      | _, _ => 0

def length? (t : Text) : Option Nat :=
  let first := identifierLength t
  let more := chainLength 0 (t.drop first)
  if first = 0 ∨ more = 0 then none else some (first + more)

def isQualified (t : Text) : Bool := length? t == some t.length

def bars (c : Char) : Bool :=
  "$@%&*:".toList.contains c || Text.isAlphanumeric c || c == '_'

inductive Piece where
  | plain (t : Text)
  | name (n : Text)
deriving DecidableEq, Repr

/-- Cuts running text at its references, where `before` is the character in front of it and `skip`
characters belong to a name found before. A barred name is plain text. -/
def pieces (before : Option Char) (skip : Nat) : Text → List Piece
  | [] => []
  | c :: rest =>
    match skip with
    | skip + 1 => pieces (some c) skip rest
    | 0 =>
      match length? (c :: rest) with
      | none => .plain [c] :: pieces (some c) 0 rest
      | some n =>
        let found := (c :: rest).take n
        let piece := if before.any bars then Piece.plain found else .name found
        piece :: pieces (some c) (n - 1) rest

end PodSite.ModuleName
