import PodSite.Text.CharSet

/-!
Sets of characters as sequences of ranges of bytes: a character is in the set just if the bytes of
its UTF-8 form lie in the ranges of one of the sequences.
-/
namespace PodSite.Text.Utf8

abbrev ByteRange := Nat × Nat

def span : Nat → Nat
  | 0 => 1
  | n + 1 => 64 * span n

/-- The numbers from `first` to `last`, written as a byte whose own bits are added to `mark` and
`trailing` bytes after it. Blocks of numbers with all trailing bytes are taken together. -/
def sequencesAfter (mark : Nat) : (trailing first last : Nat) → List (List ByteRange)
  | 0, first, last => [[(mark + first, mark + last)]]
  | trailing + 1, first, last =>
    let block := span (trailing + 1)
    let low := first / block
    let high := last / block
    let within (lead first last : Nat) : List (List ByteRange) :=
      (sequencesAfter 0x80 trailing first last).map ((mark + lead, mark + lead) :: ·)
    if low = high then within low (first % block) (last % block)
    else
      let startsInside := first % block != 0
      let endsInside := last % block != block - 1
      let full := if startsInside then low + 1 else low
      let pastFull := if endsInside then high else high + 1
      (if startsInside then within low (first % block) (block - 1) else []) ++
      (if full < pastFull then
        [(mark + full, mark + pastFull - 1) :: List.replicate (trailing + 1) (0x80, 0xBF)]
      else []) ++
      (if endsInside then within high 0 (last % block) else [])

/-- The code points by the form of their first byte: the bounds, what is added to its own bits, and
the number of bytes after it. -/
def forms : List (Nat × Nat × Nat × Nat) :=
  [ (0, 0x7F, 0, 0), (0x80, 0x7FF, 0xC0, 1), (0x800, 0xD7FF, 0xE0, 2), (0xE000, 0xFFFF, 0xE0, 2),
    (0x10000, 0x10FFFF, 0xF0, 3)]

def rangeSequences (first last : Nat) : List (List ByteRange) :=
  forms.flatMap fun (low, high, mark, trailing) =>
    if max first low ≤ min last high then
      sequencesAfter mark trailing (max first low) (min last high)
    else []

def sequences (s : CharSet) : List (List ByteRange) :=
  s.ranges.flatMap fun (first, last) => rangeSequences first last

end PodSite.Text.Utf8
