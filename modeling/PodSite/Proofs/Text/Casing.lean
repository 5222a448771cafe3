import PodSite.Text.Casing

/-!
Lower case. A text in lower case has no capitals A to Z, and every character in it is its own lower
case, so lower case again changes nothing.
-/
namespace PodSite.Text

variable {table : List (Nat × Nat × Nat × Nat)}

theorem imageIn_cases (table : List (Nat × Nat × Nat × Nat)) (n : Nat) :
    imageIn table n = n ∨
      ∃ first last step image place, (first, last, step, image) ∈ table ∧
        place ≤ last - first ∧ place % step = 0 ∧ imageIn table n = place + image := by
  induction table with
  | nil => exact .inl rfl
  | cons run rest ih =>
    obtain ⟨first, last, step, image⟩ := run
    rw [imageIn]
    split
    · exact .inl rfl
    · split
      · rename_i inside
        split
        · rename_i whole
          have within : n - first ≤ last - first := Nat.sub_le_sub_right inside first
          exact .inr ⟨first, last, step, image, n - first, by simp, within,
            beq_iff_eq.mp whole, rfl⟩
        · exact .inl rfl
      · refine ih.imp_right ?_
        rintro ⟨first, last, step, image, place, member, found⟩
        exact ⟨first, last, step, image, place, List.mem_cons_of_mem _ member, found⟩

theorem imageIn_eq_or_ge {bound : Nat} (images : ∀ run ∈ table, bound ≤ run.2.2.2) (n : Nat) :
    imageIn table n = n ∨ bound ≤ imageIn table n := by
  refine (imageIn_cases table n).imp_right ?_
  rintro ⟨first, last, step, image, place, member, -, -, found⟩
  have least : bound ≤ image := images _ member
  omega

/-- The search for the numbers from `low` to `high` meets no run that has one of them. Within a run
of every second number they may stand between its numbers, if `even` says that only those at even
distances from `low` are meant. -/
def avoids : List (Nat × Nat × Nat × Nat) → (low high : Nat) → (even : Bool) → Bool
  | [], _, _, _ => true
  | (first, last, step, _) :: rest, low, high, even =>
    if high < first then true
    else if last < low then avoids rest low high even
    else step == 2 && even && (low + first) % 2 == 1 && avoids rest low high even

theorem imageIn_of_avoids {low high n : Nat} {even : Bool}
    (clear : avoids table low high even = true) (least : low ≤ n) (most : n ≤ high)
    (meant : even = true → (n - low) % 2 = 0) : imageIn table n = n := by
  induction table with
  | nil => rfl
  | cons run rest ih =>
    obtain ⟨first, last, step, image⟩ := run
    rw [avoids] at clear
    rw [imageIn]
    by_cases before : n < first
    · rw [if_pos before]
    · rw [if_neg before]
      rw [if_neg (by omega)] at clear
      split at clear
      · rw [if_neg (by omega)]
        exact ih clear
      · simp only [Bool.and_eq_true, beq_iff_eq] at clear
        obtain ⟨⟨⟨double, evenly⟩, odd⟩, later⟩ := clear
        have distance := meant evenly
        split
        · rw [double, if_neg (by rw [beq_iff_eq]; omega)]
        · exact ih later

/-- No image of the run is a number in `table`. The images keep even distances from the first one if
the run has every second number or just one. -/
def imagesAvoid (table : List (Nat × Nat × Nat × Nat)) : Nat × Nat × Nat × Nat → Bool
  | (first, last, step, image) =>
    avoids table image (last - first + image) (step == 2 || first == last)

theorem imageIn_eq_or_apart {other : List (Nat × Nat × Nat × Nat)}
    (apart : ∀ run ∈ table, imagesAvoid other run = true) (n : Nat) :
    imageIn table n = n ∨ imageIn other (imageIn table n) = imageIn table n := by
  refine (imageIn_cases table n).imp_right ?_
  rintro ⟨first, last, step, image, place, member, within, whole, found⟩
  rw [found]
  have clear := apart _ member
  refine imageIn_of_avoids clear (by omega) (by omega) fun evenly => ?_
  rw [Bool.or_eq_true, beq_iff_eq, beq_iff_eq] at evenly
  rcases evenly with double | single
  · rw [double] at whole
    omega
  · omega

theorem imageIn_lowercaseRuns (n : Nat) :
    imageIn lowercaseRuns n < 0x41 ∨ 0x5A < imageIn lowercaseRuns n := by
  have images : ∀ run ∈ lowercaseRuns, 0x61 ≤ run.2.2.2 := by decide +kernel
  have capitals : lowercaseRuns = (0x41, 0x5A, 1, 0x61) :: lowercaseRuns.tail := rfl
  rcases imageIn_eq_or_ge images n with same | large
  · rw [same]
    rw [capitals, imageIn] at same
    simp only [Nat.mod_one, beq_self_eq_true, if_true] at same
    split at same
    · omega
    · split at same
      · omega
      · omega
  · omega

theorem imageIn_lowercaseRuns_again (n : Nat) :
    imageIn lowercaseRuns (imageIn lowercaseRuns n) = imageIn lowercaseRuns n := by
  have apart : ∀ run ∈ lowercaseRuns, imagesAvoid lowercaseRuns run = true := by decide +kernel
  rcases imageIn_eq_or_apart apart n with same | settled
  · rw [same, same]
  · exact settled

theorem eq_of_imageIn_dotted {n : Nat} (dotted : imageIn lowercaseRuns n = 0x130) : n = 0x130 := by
  have apart : ∀ run ∈ lowercaseRuns, imagesAvoid [(0x130, 0x130, 1, 0x69)] run = true := by
    decide +kernel
  rcases imageIn_eq_or_apart apart n with same | settled
  · rw [← same, dotted]
  · rw [dotted] at settled
    exact absurd settled (by decide)

theorem toNat_ofNat {n : Nat} (valid : n.isValidChar) : (Char.ofNat n).toNat = n := by
  rw [Char.ofNat, dif_pos valid]
  rfl

theorem isUpper_ofNat {n : Nat} (outside : n < 0x41 ∨ 0x5A < n) :
    (Char.ofNat n).isUpper = false := by
  rw [Bool.eq_false_iff]
  intro upper
  obtain ⟨low, high⟩ := of_decide_eq_true upper
  have least : 0x41 ≤ (Char.ofNat n).toNat := UInt32.le_iff_toNat_le.mp low
  have greatest : (Char.ofNat n).toNat ≤ 0x5A := UInt32.le_iff_toNat_le.mp high
  by_cases valid : n.isValidChar
  · rw [toNat_ofNat valid] at least greatest
    omega
  · rw [Char.ofNat, dif_neg valid] at least
    exact absurd least (by decide)

theorem small_of_all {t : List Char} (small : t.all (fun c => !c.isUpper) = true) :
    ∀ c ∈ t, c.isUpper = false := by
  intro c member
  exact (Bool.not_eq_true' _).mp (List.all_eq_true.mp small c member)

theorem lowerChar_small {c : Char} : ∀ d ∈ lowerChar c, d.isUpper = false := by
  unfold lowerChar
  split
  · exact small_of_all (by decide)
  · intro d member
    rw [List.mem_singleton.mp member]
    exact isUpper_ofNat (imageIn_lowercaseRuns c.toNat)

theorem lowerChar_ofNat {n : Nat} (image : imageIn lowercaseRuns n = n) (dotless : n ≠ 0x130) :
    lowerChar (Char.ofNat n) = [Char.ofNat n] := by
  by_cases valid : n.isValidChar
  · have code := toNat_ofNat valid
    have other : Char.ofNat n ≠ 'İ' := by
      intro same
      rw [same] at code
      exact dotless code.symm
    rw [lowerChar, if_neg other, code, image]
  · have null : Char.ofNat n = Char.ofNat 0 := by
      rw [Char.ofNat, dif_neg valid]
      rfl
    rw [null]
    decide

theorem lowerChar_of_mem {c d : Char} (member : d ∈ lowerChar c) : lowerChar d = [d] := by
  unfold lowerChar at member
  split at member
  · rw [List.mem_cons, List.mem_singleton] at member
    rcases member with rfl | rfl
    · exact lowerChar_ofNat (by decide) (by decide)
    · have outside : imageIn lowercaseRuns 0x307 = 0x307 := by decide +kernel
      exact lowerChar_ofNat outside (by decide)
  · rename_i dotless
    rw [List.mem_singleton.mp member]
    refine lowerChar_ofNat (imageIn_lowercaseRuns_again c.toNat) fun dotted => dotless ?_
    rw [← Char.ofNat_toNat c, eq_of_imageIn_dotted dotted]

theorem mem_lowercaseAfter {before t : List Char} {d : Char}
    (member : d ∈ lowercaseAfter before t) : d = 'ς' ∨ ∃ c, d ∈ lowerChar c := by
  induction t generalizing before with
  | nil => simp [lowercaseAfter] at member
  | cons c rest ih =>
    rw [lowercaseAfter, List.mem_append] at member
    rcases member with here | later
    · split at here
      · split at here
        · exact .inl (List.mem_singleton.mp here)
        · exact .inr ⟨'Σ', by rw [List.mem_singleton.mp here]; decide⟩
      · exact .inr ⟨c, here⟩
    · exact ih later

theorem lowercaseAfter_small (before t : List Char) :
    ∀ d ∈ lowercaseAfter before t, d.isUpper = false := by
  intro d member
  rcases mem_lowercaseAfter member with rfl | ⟨c, image⟩
  · decide
  · exact lowerChar_small d image

theorem lowerChar_of_mem_lowered {t : List Char} {c : Char} (member : c ∈ lowered t) :
    lowerChar c = [c] := by
  rcases mem_lowercaseAfter member with rfl | ⟨d, image⟩
  · decide +kernel
  · exact lowerChar_of_mem image

theorem lowercaseAfter_eq_self {before t : List Char} (settled : ∀ c ∈ t, lowerChar c = [c]) :
    lowercaseAfter before t = t := by
  induction t generalizing before with
  | nil => rfl
  | cons c rest ih =>
    have here : lowerChar c = [c] := settled c (by simp)
    have noSigma : c ≠ 'Σ' := by
      rintro rfl
      exact absurd here (by decide +kernel)
    have later : ∀ d ∈ rest, lowerChar d = [d] := fun d member =>
      settled d (List.mem_cons_of_mem c member)
    rw [lowercaseAfter, if_neg noSigma, here, ih later, List.singleton_append]

theorem lowered_eq_self_iff {t : List Char} :
    lowered t = t ↔ ∀ c ∈ t, lowerChar c = [c] := by
  constructor
  · intro same c member
    rw [← same] at member
    exact lowerChar_of_mem_lowered member
  · exact lowercaseAfter_eq_self

end PodSite.Text
