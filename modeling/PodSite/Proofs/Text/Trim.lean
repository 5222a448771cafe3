import Mathlib.Data.List.DropRight
import PodSite.Text.Basic

/-!
White space at the ends of a text. Trimming takes away all of it there and nothing else.
-/
namespace PodSite.Text

theorem isBlank_of_alphanumeric {c : Char} (letter : isAsciiAlphanumeric c = true) :
    isBlank c = false := by
  have bounds : (97 ≤ c.toNat ∧ c.toNat ≤ 122 ∨ 65 ≤ c.toNat ∧ c.toNat ≤ 90) ∨
      48 ≤ c.toNat ∧ c.toNat ≤ 57 := by
    simp only [isAsciiAlphanumeric, isAsciiLetter, isAsciiDigit, Bool.or_eq_true,
      Bool.and_eq_true, decide_eq_true_eq] at letter
    exact letter
  simp only [isBlank, Bool.or_eq_false_iff, Bool.and_eq_false_iff, decide_eq_false_iff_not,
    beq_eq_false_iff_ne]
  omega

theorem trimStart_eq_nil {t : Text} : trimStart t = [] ↔ isAllBlank t = true := by
  rw [trimStart, List.dropWhile_eq_nil_iff, isAllBlank, List.all_eq_true]

theorem trimEnd_eq_nil {t : Text} : trimEnd t = [] ↔ isAllBlank t = true := by
  rw [isAllBlank, List.all_eq_true]
  exact List.rdropWhile_eq_nil_iff

theorem trimStart_append {a : Text} (solid : isAllBlank a = false) (b : Text) :
    trimStart (a ++ b) = trimStart a ++ b := by
  have some : trimStart a ≠ [] := by simp [trimStart_eq_nil, solid]
  rw [trimStart, List.dropWhile_append, if_neg (by simpa [trimStart] using some)]
  rfl

theorem trimEnd_append (a : Text) {b : Text} (solid : isAllBlank b = false) :
    trimEnd (a ++ b) = a ++ trimEnd b := by
  have some : trimEnd b ≠ [] := by simp [trimEnd_eq_nil, solid]
  rw [trimEnd, List.reverse_append, List.dropWhile_append, if_neg (by simpa [trimEnd] using some)]
  simp [trimEnd]

theorem trimStart_trimStart (t : Text) : trimStart (trimStart t) = trimStart t :=
  List.dropWhile_idempotent isBlank t

theorem trimEnd_trimEnd (t : Text) : trimEnd (trimEnd t) = trimEnd t :=
  List.rdropWhile_idempotent isBlank t

theorem isAllBlank_trimStart (t : Text) : isAllBlank (trimStart t) = isAllBlank t := by
  rw [Bool.eq_iff_iff, ← trimStart_eq_nil, trimStart_trimStart, trimStart_eq_nil]

theorem isAllBlank_trimEnd (t : Text) : isAllBlank (trimEnd t) = isAllBlank t := by
  rw [Bool.eq_iff_iff, ← trimEnd_eq_nil, trimEnd_trimEnd, trimEnd_eq_nil]

theorem trim_eq_nil {t : Text} : trim t = [] ↔ isAllBlank t = true := by
  rw [trim, trimEnd_eq_nil, isAllBlank_trimStart]

theorem trim_trim (t : Text) : trim (trim t) = trim t := by
  have settled : trimStart (trim t) = trim t := by
    cases solid : isAllBlank t with
    | true => rw [trim_eq_nil.mpr solid, trimStart, List.dropWhile_nil]
    | false =>
      obtain ⟨back, split⟩ : ∃ back, trim t ++ back = trimStart t :=
        List.rdropWhile_prefix isBlank (trimStart t)
      have inner : isAllBlank (trim t) = false := by
        rw [trim, isAllBlank_trimEnd, isAllBlank_trimStart, solid]
      have started := trimStart_append inner back
      rw [split, trimStart_trimStart, ← split] at started
      exact (List.append_cancel_right started).symm
  rw [trim, settled]
  exact trimEnd_trimEnd _

theorem dropWhile_eq_self {p : Char → Bool} {t : Text} (front : ∀ c ∈ t.head?, p c = false) :
    t.dropWhile p = t := by
  cases t with
  | nil => rfl
  | cons c t => rw [List.dropWhile_cons_of_neg (by simp [front c rfl])]

theorem trim_eq_self {t : Text} (front : ∀ c ∈ t.head?, isBlank c = false)
    (back : ∀ c ∈ t.getLast?, isBlank c = false) : trim t = t := by
  unfold trim trimEnd trimStart
  rw [dropWhile_eq_self front, dropWhile_eq_self (by simpa using back), List.reverse_reverse]

theorem trimChar_eq_self {q : Char} {t : Text} (front : ∀ c ∈ t.head?, c ≠ q)
    (back : ∀ c ∈ t.getLast?, c ≠ q) : trimChar q t = t := by
  have start : t.dropWhile (· == q) = t := dropWhile_eq_self (by simpa using front)
  have last : t.reverse.dropWhile (· == q) = t.reverse := dropWhile_eq_self (by simpa using back)
  rw [trimChar, start, last, List.reverse_reverse]

theorem trimChar_around {q : Char} {a b : Text} (front : ∀ c ∈ a, c = q) (t : Text)
    (back : ∀ c ∈ b, c = q) : trimChar q (a ++ t ++ b) = trimChar q t := by
  have start (s : Text) : (a ++ s).dropWhile (· == q) = s.dropWhile (· == q) :=
    List.dropWhile_append_of_pos fun c member => beq_iff_eq.mpr (front c member)
  have last (s : Text) : (b.reverse ++ s).dropWhile (· == q) = s.dropWhile (· == q) :=
    List.dropWhile_append_of_pos fun c member =>
      beq_iff_eq.mpr (back c (List.mem_reverse.mp member))
  have alone : b.dropWhile (· == q) = [] :=
    List.dropWhile_eq_nil_iff.mpr fun c member => beq_iff_eq.mpr (back c member)
  rw [trimChar, trimChar, List.append_assoc, start, List.dropWhile_append]
  split
  · rename_i nothing
    rw [List.isEmpty_iff.mp nothing, alone]
  · rw [List.reverse_append, last]

theorem trimChar_quoted {q : Char} {t : Text} (front : ∀ c ∈ t.head?, c ≠ q)
    (back : ∀ c ∈ t.getLast?, c ≠ q) : trimChar q (q :: t ++ [q]) = t := by
  have bare := trimChar_around (q := q) (a := [q]) (b := [q]) (by simp) t (by simp)
  rwa [trimChar_eq_self front back] at bare

theorem trimStart_blank {a : Text} (blank : isAllBlank a = true) (t : Text) :
    trimStart (a ++ t) = trimStart t :=
  List.dropWhile_append_of_pos (List.all_eq_true.mp blank)

theorem trimEnd_blank (t : Text) {b : Text} (blank : isAllBlank b = true) :
    trimEnd (t ++ b) = trimEnd t := by
  have skipped : trimStart (b.reverse ++ t.reverse) = trimStart t.reverse := by
    apply trimStart_blank
    rw [isAllBlank, List.all_reverse]
    exact blank
  rw [trimEnd, List.reverse_append]
  exact congrArg List.reverse skipped

theorem trim_around {a b : Text} (front : isAllBlank a = true) (t : Text)
    (back : isAllBlank b = true) : trim (a ++ t ++ b) = trim t := by
  rw [trim, trim, List.append_assoc, trimStart_blank front]
  cases solid : isAllBlank t with
  | true =>
    have nothing : isAllBlank (t ++ b) = true := by
      rw [isAllBlank, List.all_append, Bool.and_eq_true]
      exact ⟨solid, back⟩
    rw [trimStart_eq_nil.mpr nothing, trimStart_eq_nil.mpr solid]
  | false => rw [trimStart_append solid, trimEnd_blank _ back]

theorem trim_trimEnd (t : Text) : trim (trimEnd t) = trim t := by
  have blank : isAllBlank (t.rtakeWhile isBlank) = true :=
    List.all_eq_true.mpr fun _ member => List.mem_rtakeWhile_imp member
  calc
    trim (trimEnd t) = trim ([] ++ trimEnd t ++ t.rtakeWhile isBlank) :=
      (trim_around (a := []) rfl _ blank).symm
    _ = trim t := congrArg trim (List.rdropWhile_append_rtakeWhile)

theorem trim_through {c : Char} (solid : isBlank c = false) (a b : Text) :
    trim (a ++ c :: b) = trimStart a ++ c :: trimEnd b := by
  have start : trimStart (a ++ c :: b) = trimStart a ++ c :: b := by
    cases blank : isAllBlank a with
    | true =>
      rw [trimStart_blank blank, trimStart_eq_nil.mpr blank, List.nil_append, trimStart,
        List.dropWhile_cons_of_neg (by simp [solid])]
    | false => exact trimStart_append blank _
  have last : trimEnd (c :: b) = c :: trimEnd b := by
    cases blank : isAllBlank b with
    | true =>
      rw [trimEnd_eq_nil.mpr blank, ← List.singleton_append, trimEnd_blank _ blank, trimEnd,
        List.reverse_singleton, List.dropWhile_cons_of_neg (by simp [solid]),
        List.reverse_singleton]
    | false => exact trimEnd_append [c] blank
  rw [trim, start, trimEnd_append _ (by simp [isAllBlank, solid]), last]

theorem trimStart_sublist (t : Text) : (trimStart t).Sublist t := List.dropWhile_sublist isBlank

theorem trimEnd_sublist (t : Text) : (trimEnd t).Sublist t :=
  (List.rdropWhile_prefix isBlank t).sublist

theorem trim_sublist (t : Text) : (trim t).Sublist t :=
  (trimEnd_sublist _).trans (trimStart_sublist t)

theorem trimChar_sublist (c : Char) (t : Text) : (trimChar c t).Sublist t := by
  have back : (trimChar c t).Sublist (t.dropWhile (· == c)) :=
    (List.rdropWhile_prefix (· == c) _).sublist
  exact back.trans (List.dropWhile_sublist _)

theorem trimStart_of_trim {t : Text} (trimmed : trim t = t) : trimStart t = t := by
  have shorter := (trimEnd_sublist (trimStart t)).length_le
  rw [← trim, trimmed] at shorter
  exact (trimStart_sublist t).eq_of_length_le shorter

theorem length_trim_le (t : Text) : (trim t).length ≤ t.length := (trim_sublist t).length_le

end PodSite.Text
