import PodSite.Text.Basic

/-!
Numbers written in digits.
-/
namespace PodSite.Text

def digitValue? (base : Nat) (c : Char) : Option Nat :=
  let n := c.toNat
  let value :=
    if 48 ≤ n ∧ n ≤ 57 then n - 48
    else if 97 ≤ n ∧ n ≤ 102 then n - 87
    else if 65 ≤ n ∧ n ≤ 70 then n - 55
    else 16
  if value < base then some value else none

def digitsValue? (base : Nat) : (high : Nat) → Text → Option Nat
  | high, [] => some high
  | high, c :: rest => (digitValue? base c).bind fun d => digitsValue? base (high * base + d) rest

/-- A number without sign or with a plus sign; at least one digit is needed. -/
def number? (base : Nat) (t : Text) : Option Nat :=
  let digits := match t with
    | '+' :: rest => rest
    | _ => t
  if digits.isEmpty then none else digitsValue? base 0 digits

end PodSite.Text
