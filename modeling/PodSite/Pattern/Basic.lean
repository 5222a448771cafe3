import PodSite.Text.Basic
import PodSite.Text.CharSet

/-!
Regular expressions. Of two alternatives the first is preferred, and of two numbers of repetitions
the larger one, unless the repetition is lazy.
-/
namespace PodSite.Pattern
open Text (CharSet)

inductive Assertion where
  | textStart
  | textEnd
  | lineStart
  | lineEnd
  /-- Line starts and ends where a carriage return also ends a line. -/
  | crlfStart
  | crlfEnd
  | wordBoundary (unicode : Bool)
  | noWordBoundary (unicode : Bool)
  | wordStart (unicode : Bool)
  | wordEnd (unicode : Bool)
  /-- No word character before the place. -/
  | wordStartHalf (unicode : Bool)
  /-- No word character after the place. -/
  | wordEndHalf (unicode : Bool)
deriving DecidableEq, Repr

inductive Regex where
  | empty
  | literal (text : Text)
  /-- One character of a set; with the empty set the expression matches nothing. -/
  | set (chars : CharSet)
  | assertion (a : Assertion)
  | sequence (parts : List Regex)
  | alternatives (parts : List Regex)
  | repetition (least : Nat) (most : Option Nat) (greedy : Bool) (body : Regex)
  /-- A group that notes what its body matched. -/
  | capture (index : Nat) (body : Regex)

namespace Regex

mutual
def same : Regex → Regex → Bool
  | empty, empty => true
  | literal a, literal b => a == b
  | set s, set t => s == t
  | assertion a, assertion b => a == b
  | sequence ps, sequence qs => sameAll ps qs
  | alternatives ps, alternatives qs => sameAll ps qs
  | repetition l m g p, repetition l' m' g' q => l == l' && m == m' && g == g' && same p q
  | capture i p, capture j q => i == j && same p q
  | _, _ => false
def sameAll : List Regex → List Regex → Bool
  | [], [] => true
  | p :: ps, q :: qs => same p q && sameAll ps qs
  | _, _ => false
end

def plus (a b : Option Nat) : Option Nat := a.bind fun m => b.map fun n => m + n

def either (pick : Nat → Nat → Nat) (a b : Option Nat) : Option Nat :=
  a.bind fun m => b.map fun n => pick m n

mutual
/-- The number of bytes of the shortest match. It is not known of an expression with an empty set.
-/
def shortest : Regex → Option Nat
  | empty => some 0
  | literal text => some text.byteCount
  | set s => s.ranges.head?.map fun (first, _) => (Char.ofNat first).utf8Size
  | assertion _ => some 0
  | sequence parts => shortestSum parts
  | alternatives parts => shortestOf parts
  | repetition least _ _ body => (shortest body).map (· * least)
  | capture _ body => shortest body
def shortestSum : List Regex → Option Nat
  | [] => some 0
  | part :: rest => plus (shortest part) (shortestSum rest)
def shortestOf : List Regex → Option Nat
  | [] => none
  | [part] => shortest part
  | part :: rest => either min (shortest part) (shortestOf rest)
end

mutual
/-- The number of bytes of the longest match, if there is one and no part is an empty set. -/
def longest : Regex → Option Nat
  | empty => some 0
  | literal text => some text.byteCount
  | set s => s.ranges.getLast?.map fun (_, last) => (Char.ofNat last).utf8Size
  | assertion _ => some 0
  | sequence parts => longestSum parts
  | alternatives parts => longestOf parts
  | repetition _ most _ body => most.bind fun n => (longest body).map (· * n)
  | capture _ body => longest body
def longestSum : List Regex → Option Nat
  | [] => some 0
  | part :: rest => plus (longest part) (longestSum rest)
def longestOf : List Regex → Option Nat
  | [] => none
  | [part] => longest part
  | part :: rest => either max (longest part) (longestOf rest)
end

def neverEmpty (r : Regex) : Bool := r.shortest.any (0 < ·)

def alwaysEmpty (r : Regex) : Bool := r.longest == some 0

mutual
def startsWith (a : Assertion) : Regex → Bool
  | assertion b => a == b
  | sequence parts => someStartsWith a parts
  | alternatives parts => !parts.isEmpty && allStartWith a parts
  | repetition least _ _ body => 0 < least && startsWith a body
  | capture _ body => startsWith a body
  | _ => false
def someStartsWith (a : Assertion) : List Regex → Bool
  | [] => false
  | part :: rest => startsWith a part || (part.alwaysEmpty && someStartsWith a rest)
def allStartWith (a : Assertion) : List Regex → Bool
  | [] => true
  | part :: rest => startsWith a part && allStartWith a rest
end

mutual
def endsWith (a : Assertion) : Regex → Bool
  | assertion b => a == b
  | sequence parts => someEndsWith a parts
  | alternatives parts => !parts.isEmpty && allEndWith a parts
  | repetition least _ _ body => 0 < least && endsWith a body
  | capture _ body => endsWith a body
  | _ => false
def someEndsWith (a : Assertion) : List Regex → Bool
  | [] => false
  | part :: rest => someEndsWith a rest || (rest.all alwaysEmpty && endsWith a part)
def allEndWith (a : Assertion) : List Regex → Bool
  | [] => true
  | part :: rest => endsWith a part && allEndWith a rest
end

end Regex
end PodSite.Pattern
