import PodSite.Json
import PodSite.Proofs.Anchors
import PodSite.Proofs.Inline.Print

/-!
A written value can be read in one way only. A string ends at the first quote that is not escaped, a
number ends where no digit follows, and brackets tell where the elements and the fields of a value
end. So a value is known from its text, and so is what stands after it.
-/
namespace PodSite.Json

section Strings

def readEscape? : Text → Option (Char × Text)
  | 'u' :: '0' :: '0' :: high :: low :: rest =>
    (Text.number? 16 [high, low]).map fun n => (Char.ofNat n, rest)
  | 'n' :: rest => some ('\n', rest)
  | 'r' :: rest => some ('\r', rest)
  | 't' :: rest => some ('\t', rest)
  | 'b' :: rest => some ('\x08', rest)
  | 'f' :: rest => some ('\x0C', rest)
  | c :: rest => some (c, rest)
  | [] => none

def readChar? : Text → Option (Char × Text)
  | [] => none
  | c :: rest => if c = '\\' then readEscape? rest else some (c, rest)

theorem number?_hex : ∀ n < 0x20,
    Text.number? 16 [Nat.digitChar (n / 16), Nat.digitChar (n % 16)] = some n := by
  decide

theorem readChar?_escapeChar (c : Char) (rest : Text) :
    readChar? (escapeChar c ++ rest) = some (c, rest) := by
  unfold escapeChar
  split
  iterate 7
    · rfl
  rename_i unescaped _ _ _ _ _
  split
  · rename_i control
    have read := number?_hex c.toNat control
    simp [readChar?, readEscape?, read]
  · rw [List.singleton_append, readChar?, if_neg unescaped]

theorem escapeChar_append_inj {c d : Char} {r s : Text}
    (same : escapeChar c ++ r = escapeChar d ++ s) : c = d ∧ r = s := by
  have read := congrArg readChar? same
  rw [readChar?_escapeChar, readChar?_escapeChar] at read
  simpa using read

theorem head?_escapeChar (c : Char) (rest : Text) : (escapeChar c ++ rest).head? ≠ some '"' := by
  unfold escapeChar
  split
  iterate 7
    · simp
  rename_i unquoted _ _ _ _ _ _
  split
  · simp
  · simpa using unquoted

theorem writeString_append_inj {t u r s : Text}
    (same : writeString t ++ r = writeString u ++ s) : t = u ∧ r = s := by
  have inner : t.flatMap escapeChar ++ '"' :: r = u.flatMap escapeChar ++ '"' :: s := by
    simpa [writeString] using same
  clear same
  induction t generalizing u with
  | nil =>
    cases u with
    | nil => exact ⟨rfl, (List.cons.inj inner).2⟩
    | cons d u =>
      rw [List.flatMap_cons, List.append_assoc] at inner
      exact absurd (congrArg List.head? inner).symm (head?_escapeChar d _)
  | cons c t ih =>
    rw [List.flatMap_cons, List.append_assoc] at inner
    cases u with
    | nil => exact absurd (congrArg List.head? inner) (head?_escapeChar c _)
    | cons d u =>
      rw [List.flatMap_cons, List.append_assoc] at inner
      obtain ⟨rfl, later⟩ := escapeChar_append_inj inner
      obtain ⟨rfl, after⟩ := ih later
      exact ⟨rfl, after⟩

end Strings

def Stops (rest : Text) : Prop := ∀ c ∈ rest.head?, c.isDigit = false

theorem decimal_append_inj {m n : Nat} {r s : Text} (left : Stops r) (right : Stops s)
    (same : Text.decimal m ++ r = Text.decimal n ++ s) : m = n ∧ r = s := by
  have digits : ∀ (k : Nat) {rest : Text}, Stops rest →
      (Text.decimal k ++ rest).takeWhile Char.isDigit = Text.decimal k := by
    intro k rest stops
    have none : rest.takeWhile Char.isDigit = [] := by
      cases rest with
      | nil => rfl
      | cons c rest => exact List.takeWhile_cons_of_neg (by simp [stops c rfl])
    rw [List.takeWhile_append_of_pos (Text.decimal_digits k), none, List.append_nil]
  have number : Text.decimal m = Text.decimal n := by
    rw [← digits m left, same, digits n right]
  obtain rfl := Text.decimal_injective number
  exact ⟨rfl, List.append_cancel_left same⟩

section Values

/-- The character that a value starts with, where all numbers count as one, and both truth
values. -/
def initial : Json → Char
  | string _ => '"'
  | number _ => '0'
  | boolean _ => 't'
  | array _ => '['
  | object _ => '\x7b'

def initialOf (c : Char) : Char := if c.isDigit then '0' else if c = 'f' then 't' else c

theorem head?_write (depth : Nat) (j : Json) (rest : Text) :
    (write depth j ++ rest).head?.map initialOf = some j.initial := by
  cases j with
  | string t => simp [write, writeString, initial, initialOf]
  | number n =>
    obtain ⟨c, digits, split⟩ := List.exists_cons_of_ne_nil (Text.decimal_ne_nil n)
    have digit := Text.decimal_digits n c (by simp [split])
    simp [write, split, initial, initialOf, digit]
  | boolean b => cases b <;> simp [write, initial, initialOf]
  | array elements => cases elements <;> simp [write, initial, initialOf]
  | object fields =>
    cases fields with
    | nil => simp [write, initial, initialOf]
    | cons field fields =>
      obtain ⟨key, value⟩ := field
      simp [write, initial, initialOf]

theorem initial_eq {depth : Nat} {a b : Json} {r s : Text}
    (same : write depth a ++ r = write depth b ++ s) : a.initial = b.initial := by
  have left := head?_write depth a r
  rw [same, head?_write] at left
  exact (Option.some.inj left).symm

theorem stops_writeElements (depth : Nat) (elements : List Json) (rest : Text) :
    Stops (writeElements depth elements ++ rest) := by
  cases elements <;> simp [writeElements, lineBreak, Stops]

theorem stops_writeFields (depth : Nat) (fields : List (Text × Json)) (rest : Text) :
    Stops (writeFields depth fields ++ rest) := by
  cases fields <;> simp [writeFields, lineBreak, Stops]

mutual
/-- A value and what comes after it are known from the text. -/
theorem write_append_inj : (a b : Json) → (depth : Nat) → {r s : Text} → Stops r → Stops s →
    write depth a ++ r = write depth b ++ s → a = b ∧ r = s
  | string t, b, depth, r, s, _, _, same => by
    have kind := initial_eq same
    cases b with
    | string u =>
      rw [write, write] at same
      obtain ⟨rfl, after⟩ := writeString_append_inj same
      exact ⟨rfl, after⟩
    | _ => simp [initial] at kind
  | number m, b, depth, r, s, left, right, same => by
    have kind := initial_eq same
    cases b with
    | number n =>
      rw [write, write] at same
      obtain ⟨rfl, after⟩ := decimal_append_inj left right same
      exact ⟨rfl, after⟩
    | _ => simp [initial] at kind
  | boolean x, b, depth, r, s, _, _, same => by
    have kind := initial_eq same
    cases b with
    | boolean y => cases x <;> cases y <;> simp [write] at same ⊢ <;> exact same
    | _ => simp [initial] at kind
  | array [], b, depth, r, s, _, _, same => by
    have kind := initial_eq same
    cases b with
    | array elements =>
      cases elements with
      | nil => simpa [write] using same
      | cons first rest => simp [write, lineBreak] at same
    | _ => simp [initial] at kind
  | array (first :: rest), b, depth, r, s, _, _, same => by
    have kind := initial_eq same
    cases b with
    | array elements =>
      cases elements with
      | nil => simp [write, lineBreak] at same
      | cons first' rest' =>
        -- but for its bracket, the text is that of the elements after another one
        have inner : writeElements depth (first :: rest) ++ r =
            writeElements depth (first' :: rest') ++ s := by
          simpa [write, writeElements] using same
        obtain ⟨elements, after⟩ := writeElements_append_inj (first :: rest) _ depth inner
        exact ⟨congrArg array elements, after⟩
    | _ => simp [initial] at kind
  | object [], b, depth, r, s, _, _, same => by
    have kind := initial_eq same
    cases b with
    | object fields =>
      cases fields with
      | nil => simpa [write] using same
      | cons first rest => simp [write, lineBreak] at same
    | _ => simp [initial] at kind
  | object ((key, value) :: rest), b, depth, r, s, _, _, same => by
    have kind := initial_eq same
    cases b with
    | object fields =>
      cases fields with
      | nil => simp [write, lineBreak] at same
      | cons field rest' =>
        obtain ⟨key', value'⟩ := field
        have inner : writeFields depth ((key, value) :: rest) ++ r =
            writeFields depth ((key', value') :: rest') ++ s := by
          simpa [write, writeFields] using same
        obtain ⟨fields, after⟩ := writeFields_append_inj ((key, value) :: rest) _ depth inner
        exact ⟨congrArg object fields, after⟩
    | _ => simp [initial] at kind
theorem writeElements_append_inj : (a b : List Json) → (depth : Nat) → {r s : Text} →
    writeElements depth a ++ r = writeElements depth b ++ s → a = b ∧ r = s
  | [], b, depth, r, s, same => by
    cases b with
    | nil => simpa [writeElements] using same
    | cons value rest => simp [writeElements, lineBreak] at same
  | value :: rest, b, depth, r, s, same => by
    cases b with
    | nil => simp [writeElements, lineBreak] at same
    | cons value' rest' =>
      have inner : write (depth + 1) value ++ (writeElements depth rest ++ r) =
          write (depth + 1) value' ++ (writeElements depth rest' ++ s) := by
        simpa [writeElements] using same
      obtain ⟨rfl, later⟩ := write_append_inj value value' (depth + 1)
        (stops_writeElements depth rest r) (stops_writeElements depth rest' s) inner
      obtain ⟨rfl, after⟩ := writeElements_append_inj rest rest' depth later
      exact ⟨rfl, after⟩
theorem writeFields_append_inj : (a b : List (Text × Json)) → (depth : Nat) → {r s : Text} →
    writeFields depth a ++ r = writeFields depth b ++ s → a = b ∧ r = s
  | [], b, depth, r, s, same => by
    cases b with
    | nil => simpa [writeFields] using same
    | cons field rest => simp [writeFields, lineBreak] at same
  | (key, value) :: rest, b, depth, r, s, same => by
    cases b with
    | nil => simp [writeFields, lineBreak] at same
    | cons field rest' =>
      obtain ⟨key', value'⟩ := field
      have inner : writeString key ++ (':' :: ' ' :: (write (depth + 1) value ++
            (writeFields depth rest ++ r))) =
          writeString key' ++ (':' :: ' ' :: (write (depth + 1) value' ++
            (writeFields depth rest' ++ s))) := by
        simpa [writeFields] using same
      obtain ⟨rfl, valued⟩ := writeString_append_inj inner
      obtain ⟨rfl, later⟩ := write_append_inj value value' (depth + 1)
        (stops_writeFields depth rest r) (stops_writeFields depth rest' s)
        (by simpa using valued)
      obtain ⟨rfl, after⟩ := writeFields_append_inj rest rest' depth later
      exact ⟨rfl, after⟩
end

theorem pretty_injective {a b : Json} (same : a.pretty = b.pretty) : a = b := by
  have alone : Stops [] := by simp [Stops]
  apply (write_append_inj a b 0 alone alone ?_).1
  rw [List.append_nil, List.append_nil]
  exact same

end Values
end PodSite.Json
