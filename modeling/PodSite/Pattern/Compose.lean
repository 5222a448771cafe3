import PodSite.Pattern.Basic

/-!
Putting expressions together in their simplest form: sequences and alternatives are flat, literals
that meet are one literal, and alternatives that differ in one character are a set.
-/
namespace PodSite.Pattern
open Text (CharSet)

namespace Regex

def oneIn (s : CharSet) : Regex :=
  match s.only? with
  | some c => literal [c]
  | none => set s

def elements : Regex → List Regex
  | sequence parts => parts
  | empty => []
  | part => [part]

def joinLiterals : List Regex → List Regex
  | [] => []
  | part :: rest =>
    match part, joinLiterals rest with
    | literal a, literal b :: more => literal (a ++ b) :: more
    | part, more => part :: more

def inOrder (parts : List Regex) : Regex :=
  match joinLiterals (parts.flatMap elements) with
  | [] => empty
  | [part] => part
  | parts => sequence parts

/-- A body repeated. A body that takes no characters needs no second time. -/
def times (least : Nat) (most : Option Nat) (greedy : Bool) (body : Regex) : Regex :=
  let (least, most) :=
    if body.alwaysEmpty then (min least 1, some (min (most.getD 1) 1)) else (least, most)
  if most = some 0 then empty
  else if least = 1 ∧ most = some 1 then body
  else repetition least most greedy body

def branches : Regex → List Regex
  | alternatives parts => parts
  | part => [part]

def char? : Regex → Option Char
  | literal [c] => some c
  | _ => none

def set? : Regex → Option CharSet
  | set s => some s
  | _ => none

def asSet? (parts : List Regex) : Option CharSet :=
  match parts.mapM char? with
  | some chars => some (.ofRanges (chars.map fun c => (c.toNat, c.toNat)))
  | none => (parts.mapM set?).map CharSet.unions

def anyOf (parts : List Regex) : Regex :=
  match parts.flatMap branches with
  | [] => set .empty
  | [part] => part
  | parts =>
    match asSet? parts with
    | some s => oneIn s
    | none => alternatives parts

def parts? : Regex → Option (List Regex)
  | sequence parts => some parts
  | _ => none

def commonStart : List Regex → List Regex → List Regex
  | p :: ps, q :: qs => if same p q then p :: commonStart ps qs else []
  | _, _ => []

/-- Alternatives. If all are sequences with a common start, that start comes in front of them. -/
def oneOf (parts : List Regex) : Regex :=
  match anyOf parts with
  | alternatives parts =>
    match parts.mapM parts? with
    | some (first :: rest) =>
      match rest.foldl commonStart first with
      | [] => alternatives parts
      | common =>
        let ends := (first :: rest).map fun whole => inOrder (whole.drop common.length)
        inOrder (common ++ [anyOf ends])
    | _ => alternatives parts
  | other => other

end Regex
end PodSite.Pattern
