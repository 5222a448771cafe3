/-!
Tables of code points. A table lists its ranges in increasing order, so a search stops at the first
range that starts beyond the number sought.
-/
namespace PodSite.Text

def inRanges : List (Nat × Nat) → Nat → Bool
  | [], _ => false
  | (first, last) :: rest, n => if n < first then false else n ≤ last || inRanges rest n

/-- The image of `n` under a table of runs `(first, last, step, image of first)`; a number outside
the table is its own image. -/
def imageIn : List (Nat × Nat × Nat × Nat) → Nat → Nat
  | [], n => n
  | (first, last, step, image) :: rest, n =>
    if n < first then n
    else if n ≤ last then (if (n - first) % step == 0 then n - first + image else n)
    else imageIn rest n

end PodSite.Text
