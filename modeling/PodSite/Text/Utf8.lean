import PodSite.Text.Basic

/-!
UTF-8. Bytes are read one at a time by a machine that holds the bytes of an unfinished character.
A byte that cannot go on with the character ends it as one ill-formed piece and is then read afresh,
so every longest ill-formed start counts once.
-/
namespace PodSite

abbrev Bytes := List UInt8

namespace Text.Utf8

def encode (t : Text) : Bytes := t.flatMap String.utf8EncodeChar

/-- An unfinished character: the bits read, the number of bytes still owed, and the bounds of the
next byte. -/
structure Pending where
  value : Nat
  owed : Nat
  low : Nat
  high : Nat

inductive Start where
  | done (c : Char)
  | more (p : Pending)
  | illFormed

def start (b : Nat) : Start :=
  if b < 0x80 then .done (Char.ofNat b)
  else if b < 0xC2 then .illFormed
  else if b < 0xE0 then .more ⟨b - 0xC0, 1, 0x80, 0xBF⟩
  else if b = 0xE0 then .more ⟨0, 2, 0xA0, 0xBF⟩
  else if b = 0xED then .more ⟨0xD, 2, 0x80, 0x9F⟩
  else if b < 0xF0 then .more ⟨b - 0xE0, 2, 0x80, 0xBF⟩
  else if b = 0xF0 then .more ⟨0, 3, 0x90, 0xBF⟩
  else if b < 0xF4 then .more ⟨b - 0xF0, 3, 0x80, 0xBF⟩
  else if b = 0xF4 then .more ⟨4, 3, 0x80, 0x8F⟩
  else .illFormed

def readFresh (b : Nat) : Option Pending × List (Option Char) :=
  match start b with
  | .done c => (none, [some c])
  | .more p => (some p, [])
  | .illFormed => (none, [none])

/-- Reads one byte: what is pending after it, and what it finishes (`none` for an ill-formed piece).
-/
def readByte (pending : Option Pending) (b : Nat) : Option Pending × List (Option Char) :=
  match pending with
  | none => readFresh b
  | some p =>
    if p.low ≤ b ∧ b ≤ p.high then
      let value := p.value * 64 + (b - 0x80)
      if p.owed ≤ 1 then (none, [some (Char.ofNat value)])
      else (some ⟨value, p.owed - 1, 0x80, 0xBF⟩, [])
    else
      let (next, pieces) := readFresh b
      (next, none :: pieces)

def pieces (pending : Option Pending) : Bytes → List (Option Char)
  | [] => if pending.isSome then [none] else []
  | b :: rest =>
    let (next, now) := readByte pending b.toNat
    now ++ pieces next rest

def decodeLossy (bytes : Bytes) : Text := (pieces none bytes).map fun c => c.getD '\uFFFD'

def decode? (bytes : Bytes) : Option Text := (pieces none bytes).mapM id

end Text.Utf8
end PodSite
