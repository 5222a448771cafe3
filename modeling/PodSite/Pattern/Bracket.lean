import PodSite.Pattern.Reader

/-!
Bracketed classes. They hold characters, ranges, named classes and classes in turn; between them
stand the operations of sets, all of the same rank.
-/
namespace PodSite.Pattern
open Text (CharSet)

inductive ClassOperation where
  | intersection
  | difference
  | symmetricDifference
deriving DecidableEq, Repr

def ClassOperation.apply : ClassOperation → CharSet → CharSet → CharSet
  | intersection => CharSet.intersection
  | difference => CharSet.difference
  | symmetricDifference => CharSet.symmetricDifference

structure PendingOperation where
  left : CharSet
  depth : Nat
  operation : ClassOperation

/-- An open bracket: what was read of it since the last operation. -/
structure Bracket where
  negated : Bool
  pending : Option PendingOperation
  ranges : List (Nat × Nat)
  items : Nat
  depth : Nat

namespace Bracket

def add (b : Bracket) (s : CharSet) (depth : Nat) : Bracket :=
  { b with ranges := s.ranges ++ b.ranges, items := b.items + 1, depth := max b.depth depth }

/-- The set up to here, and how deep it is nested. Both sides of an operation are closed under
case. -/
def upToHere (flags : Flags) (b : Bracket) : CharSet × Nat :=
  let right := CharSet.ofRanges b.ranges
  let depth := if b.items < 2 then b.depth else b.depth + 1
  match b.pending with
  | none => (right, depth)
  | some p =>
    (p.operation.apply (closeCase flags p.left) (closeCase flags right), max p.depth depth + 1)

def operate (flags : Flags) (b : Bracket) (operation : ClassOperation) : Bracket :=
  let (left, depth) := b.upToHere flags
  { b with pending := some ⟨left, depth, operation⟩, ranges := [], items := 0, depth := 0 }

/-- The set of a closed bracket. Where only ASCII counts a negated set has too much in it. -/
def close? (flags : Flags) (b : Bracket) : Option (CharSet × Nat) :=
  let (s, depth) := b.upToHere flags
  if b.negated && !flags.unicode then none
  else some (foldAndNegate flags b.negated s, depth + 1)

end Bracket

def readHyphens : (fuel : Nat) → Bracket → Read Bracket
  | 0, _ => failure
  | fuel + 1, b => do
    if (← Read.peek?) = some '-' then
      Read.advance
      Read.skipSpace
      readHyphens fuel (b.add (.single '-') 0)
    else return b

def openBracket : Read Bracket := do
  Read.expect '['
  Read.skipSpace
  let negated := (← Read.peek?) = some '^'
  if negated then
    Read.advance
    Read.skipSpace
  let b ← readHyphens ((← get).rest.length + 1) ⟨negated, none, [], 0, 0⟩
  if b.items = 0 ∧ (← Read.peek?) = some ']' then
    Read.advance
    Read.skipSpace
    return b.add (.single ']') 0
  return b

def readMember : Read Primitive := do
  let c ← Read.next
  let member ← if c = '\\' then readEscape else pure (.literal c)
  match member with
  | .literal c => if (← Read.flags).unicode || isAscii c then return .literal c else failure
  | other => return other

/-- The character that decides what a hyphen in front of `t` means. Of a comment in front of it only
the mark and white space are passed over. -/
def decisive? (verbose : Bool) (t : Text) : Option Char :=
  if verbose then
    let afterSpace := t.dropWhile Text.isBlank
    let found :=
      match afterSpace with
      | '#' :: comment => comment.dropWhile Text.isBlank
      | other => other
    found.head?.orElse fun _ => t.head?
  else t.head?

def readRange : Read CharSet := do
  let first ← readMember
  Read.skipSpace
  match (← get).rest with
  | [] => failure
  | c :: after =>
    let next := decisive? (← Read.flags).verbose after
    if c ≠ '-' ∨ next = some ']' ∨ next = some '-' then
      match first with
      | .literal a => return .single a
      | .set s => return s
      | .assertion _ => failure
    else
      Read.advance
      Read.skipSpace
      match first, ← readMember with
      | .literal a, .literal b =>
        if a ≤ b then return .ofRanges [(a.toNat, b.toNat)] else failure
      | _, _ => failure

def readNamedClass? : Read (Option CharSet) := do
  match Text.dropPrefix? ['[', ':'] (← get).rest with
  | none => return none
  | some after =>
    let negated := after.head? = some '^'
    let body := if negated then after.tail else after
    match Text.splitAtFirst? [':', ']'] body with
    | none => return none
    | some (name, more) =>
      match bracketClasses.lookup (String.ofList name) with
      | none => return none
      | some s =>
        modify fun state => { state with rest := more }
        let flags ← Read.flags
        if negated && !flags.unicode then failure
        return some (foldAndNegate flags negated s)

def readBrackets : (fuel : Nat) → (inner : Bracket) → (outer : List Bracket) → Read (CharSet × Nat)
  | 0, _, _ => failure
  | fuel + 1, inner, outer => do
    Read.skipSpace
    let flags ← Read.flags
    let operate (operation : ClassOperation) : Read (CharSet × Nat) := do
      Read.advance
      Read.advance
      readBrackets fuel (inner.operate flags operation) outer
    match ← Read.peek?, ← Read.second? with
    | none, _ => failure
    | some ']', _ =>
      Read.advance
      match inner.close? flags, outer with
      | none, _ => failure
      | some (s, depth), [] => return (s, depth)
      | some (s, depth), next :: others => readBrackets fuel (next.add s depth) others
    | some '[', _ =>
      match ← readNamedClass? with
      | some s => readBrackets fuel (inner.add s 0) outer
      | none => readBrackets fuel (← openBracket) (inner :: outer)
    | some '&', some '&' => operate .intersection
    | some '-', some '-' => operate .difference
    | some '~', some '~' => operate .symmetricDifference
    | _, _ => readBrackets fuel (inner.add (← readRange) 0) outer

def readBracketed : Read (CharSet × Nat) := do
  let first ← openBracket
  readBrackets ((← get).rest.length + 1) first []

end PodSite.Pattern
