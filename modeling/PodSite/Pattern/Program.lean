import PodSite.Pattern.Basic

/-!
Patterns as programs. An instruction names those that may come after it, the preferred one first.
-/
namespace PodSite.Pattern
open Text (CharSet)

inductive Instruction where
  | char (set : CharSet) (next : Nat)
  | assertion (a : Assertion) (next : Nat)
  /-- Notes the place in a slot: two slots for each group. -/
  | save (slot next : Nat)
  | split (first second : Nat)
  | accept

abbrev Program := Array Instruction

namespace Program

def add (p : Program) (i : Instruction) : Nat × Program := (p.size, p.push i)

def choice (greedy : Bool) (inner next : Nat) : Instruction :=
  if greedy then .split inner next else .split next inner

def copies (emit : Nat → Program → Nat × Program) : (n next : Nat) → Program → Nat × Program
  | 0, next, p => (next, p)
  | n + 1, next, p =>
    let (start, p) := emit next p
    copies emit n start p

/-- Adds up to `n` copies of an expression in front of `next`; each may be left out with all that
follow it, for which the program goes on at `after`. -/
def optionals (emit : Nat → Program → Nat × Program) (greedy : Bool) (after : Nat) :
    (n next : Nat) → Program → Nat × Program
  | 0, next, p => (next, p)
  | n + 1, next, p =>
    let (start, p) := emit next p
    let (enter, p) := p.add (choice greedy start after)
    optionals emit greedy after n enter p

/-- Adds an expression that is repeated once or more in front of `next`. Gives the number of its
first instruction, and that of the choice between another round and `next`. -/
def loop (emit : Nat → Program → Nat × Program) (greedy : Bool) (next : Nat) (p : Program) :
    Nat × Nat × Program :=
  let (again, p) := p.add .accept
  let (start, p) := emit again p
  (start, again, p.setIfInBounds again (choice greedy start next))

def emitLiteral : Text → (next : Nat) → Program → Nat × Program
  | [], next, p => (next, p)
  | c :: rest, next, p =>
    let (start, p) := emitLiteral rest next p
    p.add (.char (.single c) start)

mutual
def emit : Regex → (next : Nat) → Program → Nat × Program
  | .empty, next, p => (next, p)
  | .literal text, next, p => emitLiteral text next p
  | .set s, next, p => p.add (.char s next)
  | .assertion a, next, p => p.add (.assertion a next)
  | .sequence parts, next, p => emitSequence parts next p
  | .alternatives parts, next, p => emitAlternatives parts next p
  | .capture index body, next, p =>
    let (stop, p) := p.add (.save (2 * index + 1) next)
    let (start, p) := emit body stop p
    p.add (.save (2 * index) start)
  | .repetition least (some most) greedy body, next, p =>
    let (tail, p) := optionals (emit body) greedy next (most - least) next p
    copies (emit body) least tail p
  | .repetition 0 none greedy body, next, p =>
    let (start, again, p) := loop (emit body) greedy next p
    if body.neverEmpty then (again, p) else p.add (choice greedy start next)
  | .repetition (least + 1) none greedy body, next, p =>
    let (start, _, p) := loop (emit body) greedy next p
    copies (emit body) least start p
def emitSequence : List Regex → (next : Nat) → Program → Nat × Program
  | [], next, p => (next, p)
  | part :: rest, next, p =>
    let (start, p) := emitSequence rest next p
    emit part start p
def emitAlternatives : List Regex → (next : Nat) → Program → Nat × Program
  | [], next, p => (next, p)
  | [part], next, p => emit part next p
  | part :: rest, next, p =>
    let (others, p) := emitAlternatives rest next p
    let (start, p) := emit part next p
    p.add (.split start others)
end

def ofRegex (r : Regex) : Nat × Program := emit (.capture 0 r) 0 #[.accept]

end Program
end PodSite.Pattern
