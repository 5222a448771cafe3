import PodSite.Text.Ranges

/-!
Sets of characters as tables of ranges. The ranges of a set are in increasing order and none touches
the next, so that equal sets have equal tables.
-/
namespace PodSite.Text

structure CharSet where
  ranges : List (Nat × Nat)
deriving DecidableEq, Repr

namespace CharSet

def lastCode : Nat := 0x10FFFF

/-- The code point after `n`: there are no characters from `0xD800` to `0xDFFF`. -/
def after (n : Nat) : Nat := if n = 0xD7FF then 0xE000 else n + 1

def before (n : Nat) : Nat := if n = 0xE000 then 0xD7FF else n - 1

def hasCode (s : CharSet) (n : Nat) : Bool := inRanges s.ranges n

def has (s : CharSet) (c : Char) : Bool := s.hasCode c.toNat

/-- Joins the range from `first` to `last` with later ones, which are in the order of their first
members. -/
def joinFrom (first last : Nat) : List (Nat × Nat) → List (Nat × Nat)
  | [] => [(first, last)]
  | (a, b) :: rest =>
    if a ≤ after last then joinFrom first (max last b) rest
    else (first, last) :: joinFrom a b rest

def ofSorted : List (Nat × Nat) → CharSet
  | [] => ⟨[]⟩
  | (first, last) :: rest => ⟨joinFrom first last rest⟩

def startsFirst (a b : Nat × Nat) : Bool := a.1 ≤ b.1

def ofRanges (ranges : List (Nat × Nat)) : CharSet := ofSorted (ranges.mergeSort startsFirst)

def ofRuns (runs : List (Nat × Nat × Nat)) : CharSet :=
  ofRanges (runs.flatMap fun (first, last, step) =>
    if step = 1 then [(first, last)]
    else (List.range ((last - first) / step + 1)).map fun i =>
      (first + i * step, first + i * step))

def single (c : Char) : CharSet := ⟨[(c.toNat, c.toNat)]⟩

def empty : CharSet := ⟨[]⟩

def any : CharSet := ⟨[(0, lastCode)]⟩

def ascii : CharSet := ⟨[(0, 0x7F)]⟩

def isAscii (s : CharSet) : Bool := s.ranges.all fun (_, last) => last ≤ 0x7F

def only? (s : CharSet) : Option Char :=
  match s.ranges with
  | [(first, last)] => if first = last then some (Char.ofNat first) else none
  | _ => none

def union (s t : CharSet) : CharSet := ofSorted (s.ranges.merge t.ranges startsFirst)

def unions (sets : List CharSet) : CharSet := sets.foldl union empty

def gapsFrom (start : Nat) : List (Nat × Nat) → List (Nat × Nat)
  | [] => if start ≤ lastCode then [(start, lastCode)] else []
  | (first, last) :: rest =>
    if start < first then (start, before first) :: gapsFrom (after last) rest
    else gapsFrom (after last) rest

def complement (s : CharSet) : CharSet := ⟨gapsFrom 0 s.ranges⟩

def intersection (s t : CharSet) : CharSet := (s.complement.union t.complement).complement

def difference (s t : CharSet) : CharSet := (s.complement.union t).complement

def symmetricDifference (s t : CharSet) : CharSet := (s.difference t).union (t.difference s)

end CharSet
end PodSite.Text
