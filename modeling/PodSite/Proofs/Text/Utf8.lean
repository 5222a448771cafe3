import Mathlib.Data.List.Basic
import PodSite.Text.Utf8

/-!
UTF-8 read back: the bytes of a text are read as its characters, whatever is read after them. Texts
are in the same order as their bytes.
-/
namespace PodSite.Text.Utf8

theorem start_two {b : Nat} (low : 0xC2 ≤ b) (high : b < 0xE0) :
    start b = .more ⟨b - 0xC0, 1, 0x80, 0xBF⟩ := by
  rw [start, if_neg (by omega), if_neg (by omega), if_pos high]

/-- The first of three bytes; the bounds of the second one keep short forms and surrogates out. -/
theorem start_three {b : Nat} (low : 0xE0 ≤ b) (high : b < 0xF0) :
    start b = .more ⟨b - 0xE0, 2, if b = 0xE0 then 0xA0 else 0x80,
      if b = 0xED then 0x9F else 0xBF⟩ := by
  rw [start, if_neg (by omega), if_neg (by omega), if_neg (by omega)]
  by_cases first : b = 0xE0
  · subst first
    rfl
  · by_cases surrogate : b = 0xED
    · subst surrogate
      rfl
    · rw [if_neg first, if_neg surrogate, if_pos high, if_neg first, if_neg surrogate]

theorem start_four {b : Nat} (low : 0xF0 ≤ b) (high : b ≤ 0xF4) :
    start b = .more ⟨b - 0xF0, 3, if b = 0xF0 then 0x90 else 0x80,
      if b = 0xF4 then 0x8F else 0xBF⟩ := by
  rw [start, if_neg (by omega), if_neg (by omega), if_neg (by omega), if_neg (by omega),
    if_neg (by omega), if_neg (by omega)]
  by_cases first : b = 0xF0
  · subst first
    rfl
  · by_cases last : b = 0xF4
    · subst last
      rfl
    · rw [if_neg first, if_pos (by omega), if_neg first, if_neg last]

section Reading
variable {b : Nat} (byte : b < 256) (rest : Bytes)
include byte

theorem toNat_byte : (UInt8.ofNat b).toNat = b := by
  rw [UInt8.toNat_ofNat']
  exact Nat.mod_eq_of_lt byte

theorem pieces_start {p : Pending} (starts : start b = .more p) :
    pieces none (UInt8.ofNat b :: rest) = pieces (some p) rest := by
  rw [pieces, toNat_byte byte, readByte, readFresh, starts]
  rfl

theorem pieces_next {value owed low high : Nat} (above : low ≤ b) (below : b ≤ high) :
    pieces (some ⟨value, owed + 2, low, high⟩) (UInt8.ofNat b :: rest) =
      pieces (some ⟨value * 64 + (b - 0x80), owed + 1, 0x80, 0xBF⟩) rest := by
  rw [pieces, toNat_byte byte, readByte]
  simp [above, below]

theorem pieces_last {value low high : Nat} (above : low ≤ b) (below : b ≤ high) :
    pieces (some ⟨value, 1, low, high⟩) (UInt8.ofNat b :: rest) =
      some (Char.ofNat (value * 64 + (b - 0x80))) :: pieces none rest := by
  rw [pieces, toNat_byte byte, readByte]
  simp [above, below]

end Reading

theorem pieces_encodeChar (c : Char) (rest : Bytes) :
    pieces none (String.utf8EncodeChar c ++ rest) = some c :: pieces none rest := by
  have valid : c.val.toNat < 0xD800 ∨ (0xDFFF < c.val.toNat ∧ c.val.toNat < 0x110000) := c.valid
  have back : ∀ n, n = c.val.toNat → Char.ofNat n = c := by
    rintro n rfl
    exact Char.ofNat_toNat c
  unfold String.utf8EncodeChar
  generalize c.val.toNat = v at valid back
  simp only
  split
  · have one : start v = .done (Char.ofNat v) := by rw [start, if_pos (by omega)]
    rw [List.singleton_append, pieces, toNat_byte (by omega), readByte, readFresh, one, back v rfl]
    rfl
  split
  · simp only [List.cons_append, List.nil_append]
    rw [pieces_start (by omega) _ (start_two (by omega) (by omega)),
      pieces_last (by omega) _ (by omega) (by omega), back _ (by omega)]
  split
  · simp only [List.cons_append, List.nil_append]
    rw [pieces_start (by omega) _ (start_three (by omega) (by omega)),
      pieces_next (by omega) _ (by split <;> omega) (by split <;> omega),
      pieces_last (by omega) _ (by omega) (by omega), back _ (by omega)]
  · simp only [List.cons_append, List.nil_append]
    rw [pieces_start (by omega) _ (start_four (by omega) (by omega)),
      pieces_next (by omega) _ (by split <;> omega) (by split <;> omega),
      pieces_next (by omega) _ (by omega) (by omega),
      pieces_last (by omega) _ (by omega) (by omega), back _ (by omega)]

theorem pieces_encode (t : Text) : pieces none (encode t) = t.map some := by
  induction t with
  | nil => rfl
  | cons c t ih =>
    rw [encode, List.flatMap_cons, pieces_encodeChar]
    exact congrArg (some c :: ·) ih

theorem decodeLossy_encode (t : Text) : decodeLossy (encode t) = t := by
  simp [decodeLossy, pieces_encode, Function.comp_def]

section Pending

def Pending.Waits (p : Pending) : Prop := 0x80 ≤ p.low ∧ p.high ≤ 0xBF

theorem start_waits {b : Nat} {p : Pending} (starts : start b = .more p) : p.Waits := by
  unfold start at starts
  repeat' split at starts
  all_goals
    first
      | contradiction
      | rw [← Start.more.inj starts]
        simp [Pending.Waits]

theorem readFresh_waits {b : Nat} {p : Pending} (left : (readFresh b).1 = some p) : p.Waits := by
  unfold readFresh at left
  split at left
  · cases left
  · rename_i starts
    exact start_waits (starts.trans (congrArg _ (Option.some.inj left)))
  · cases left

theorem readByte_waits (pending : Option Pending) {b : Nat} {p : Pending}
    (left : (readByte pending b).1 = some p) : p.Waits := by
  unfold readByte at left
  split at left
  · exact readFresh_waits left
  split at left
  · simp only at left
    split at left
    · cases left
    · rw [← Option.some.inj left]
      simp [Pending.Waits]
  · exact readFresh_waits left

theorem readFresh_count (b : Nat) :
    (readFresh b).2.length + (readFresh b).1.toList.length = 1 := by
  unfold readFresh
  split <;> rfl

theorem readByte_count (pending : Option Pending) (b : Nat) :
    (readByte pending b).2.length + (readByte pending b).1.toList.length ≤
      pending.toList.length + 1 := by
  have fresh := readFresh_count b
  unfold readByte
  split
  · simp [fresh]
  split
  · simp only
    split <;> simp
  · simp only [List.length_cons, Option.toList_some, List.length_nil]
    omega

theorem encodeChar_starts (c : Char) :
    ∃ b more, String.utf8EncodeChar c = b :: more ∧ ¬(0x80 ≤ b.toNat ∧ b.toNat ≤ 0xBF) := by
  have valid : c.val.toNat < 0xD800 ∨ (0xDFFF < c.val.toNat ∧ c.val.toNat < 0x110000) := c.valid
  unfold String.utf8EncodeChar
  generalize c.val.toNat = v at valid
  simp only
  split
  · exact ⟨_, _, rfl, by rw [toNat_byte (by omega)]; omega⟩
  split
  · exact ⟨_, _, rfl, by rw [toNat_byte (by omega)]; omega⟩
  split
  · exact ⟨_, _, rfl, by rw [toNat_byte (by omega)]; omega⟩
  · exact ⟨_, _, rfl, by rw [toNat_byte (by omega)]; omega⟩

/-- A character ends what is pending as one ill-formed piece. -/
theorem pieces_interrupted {p : Pending} (waits : p.Waits) (c : Char) (rest : Bytes) :
    pieces (some p) (String.utf8EncodeChar c ++ rest) = none :: some c :: pieces none rest := by
  obtain ⟨b, more, bytes, outside⟩ := encodeChar_starts c
  have apart : ¬(p.low ≤ b.toNat ∧ b.toNat ≤ p.high) :=
    fun ⟨low, high⟩ => outside ⟨Nat.le_trans waits.1 low, Nat.le_trans high waits.2⟩
  rw [← pieces_encodeChar c rest, bytes, List.cons_append, pieces, pieces]
  simp only [readByte, if_neg apart, List.cons_append]

end Pending

theorem bytes_lt {a b : Nat} (bound : b < 256) {s t : Bytes} (order : a < b ∨ (a = b ∧ s < t)) :
    UInt8.ofNat a :: s < UInt8.ofNat b :: t := by
  rw [List.cons_lt_cons_iff]
  rcases order with first | ⟨rfl, later⟩
  · refine Or.inl (UInt8.lt_iff_toNat_lt.mpr ?_)
    rw [toNat_byte (by omega), toNat_byte bound]
    exact first
  · exact Or.inr ⟨rfl, later⟩

theorem encodeChar_lt {x y : Char} (less : x.toNat < y.toNat) (s t : Bytes) :
    String.utf8EncodeChar x ++ s < String.utf8EncodeChar y ++ t := by
  have valid : y.val.toNat < 0xD800 ∨ (0xDFFF < y.val.toNat ∧ y.val.toNat < 0x110000) := y.valid
  have less : x.val.toNat < y.val.toNat := less
  unfold String.utf8EncodeChar
  generalize x.val.toNat = v at less
  generalize y.val.toNat = w at less valid
  have order : ∀ {a b : Nat} {same : Prop}, (a < b ∨ (a = b ∧ same)) → ∀ {s t : Bytes},
      (same → s < t) → a < b ∨ (a = b ∧ s < t) := fun digits _ _ later =>
    digits.imp_right fun ⟨equal, same⟩ => ⟨equal, later same⟩
  -- after equal first digits the next ones decide
  have one : v / 64 = w / 64 →
      UInt8.ofNat (v % 64 + 128) :: s < UInt8.ofNat (w % 64 + 128) :: t := fun same =>
    bytes_lt (by omega) (Or.inl (by omega))
  have two : v / 4096 = w / 4096 →
      UInt8.ofNat (v / 64 % 64 + 128) :: UInt8.ofNat (v % 64 + 128) :: s <
        UInt8.ofNat (w / 64 % 64 + 128) :: UInt8.ofNat (w % 64 + 128) :: t := fun same =>
    bytes_lt (by omega) (order (by omega) one)
  have three : v / 262144 = w / 262144 →
      UInt8.ofNat (v / 4096 % 64 + 128) :: UInt8.ofNat (v / 64 % 64 + 128) ::
          UInt8.ofNat (v % 64 + 128) :: s <
        UInt8.ofNat (w / 4096 % 64 + 128) :: UInt8.ofNat (w / 64 % 64 + 128) ::
          UInt8.ofNat (w % 64 + 128) :: t := fun same =>
    bytes_lt (by omega) (order (by omega) two)
  simp only
  -- a longer form begins with a greater byte
  split
  · split
    · exact bytes_lt (by omega) (Or.inl less)
    split
    · exact bytes_lt (by omega) (Or.inl (by omega))
    split
    · exact bytes_lt (by omega) (Or.inl (by omega))
    · exact bytes_lt (by omega) (Or.inl (by omega))
  split
  · rw [if_neg (by omega)]
    split
    · exact bytes_lt (by omega) (order (by omega) one)
    split
    · exact bytes_lt (by omega) (Or.inl (by omega))
    · exact bytes_lt (by omega) (Or.inl (by omega))
  split
  · rw [if_neg (by omega), if_neg (by omega)]
    split
    · exact bytes_lt (by omega) (order (by omega) two)
    · exact bytes_lt (by omega) (Or.inl (by omega))
  · rw [if_neg (by omega), if_neg (by omega), if_neg (by omega)]
    exact bytes_lt (by omega) (order (by omega) three)

theorem append_lt (front : Bytes) {s t : Bytes} : front ++ s < front ++ t ↔ s < t := by
  induction front with
  | nil => rfl
  | cons b front ih => simp [ih]

theorem encode_lt_iff {a b : Text} :
    encode a < encode b ↔ precedes a b = true ∧ a ≠ b := by
  induction a generalizing b with
  | nil =>
    cases b with
    | nil => simp [encode, precedes]
    | cons y b =>
      obtain ⟨first, more, whole⟩ := List.exists_cons_of_ne_nil
        (show encode (y :: b) ≠ [] by simp [encode])
      simp [whole, precedes, show encode [] = [] from rfl]
  | cons x a ih =>
    cases b with
    | nil => simp [precedes, show encode [] = [] from rfl]
    | cons y b =>
      have split : ∀ (c : Char) (t : Text), encode (c :: t) = String.utf8EncodeChar c ++ encode t :=
        fun c t => List.flatMap_cons
      rw [split, split, precedes]
      by_cases same : x = y
      · subst same
        simp [append_lt, ih]
      · rw [if_neg same, decide_eq_true_eq]
        constructor
        · intro order
          refine ⟨?_, by simp [same]⟩
          by_contra notLess
          have : y.toNat < x.toNat := by
            have : x.toNat ≠ y.toNat := fun equal => same (Char.toNat_inj.mp equal)
            omega
          exact List.lt_asymm order (encodeChar_lt this _ _)
        · intro ⟨less, _⟩
          exact encodeChar_lt less _ _

end PodSite.Text.Utf8
