import Mathlib.Data.List.Nodup
import Mathlib.Data.List.Perm.Subperm
import PodSite.Anchors
import PodSite.Proofs.Slug

/-!
Every anchor handed out is new. Its characters are letters and digits in lower case and hyphens, so
it is written into a page as it is and cannot be one of the page's own anchors in capitals.
-/
namespace PodSite

namespace Text

theorem decimal_injective {i j : Nat} (same : decimal i = decimal j) : i = j := by
  have parsed := congrArg (fun digits => Nat.ofDigitChars 10 digits 0) same
  simpa [decimal, Nat.ofDigitChars_ten_toDigits] using parsed

end Text

/-- The shape of an anchor: not empty, of letters, digits and hyphens, and without capitals. -/
structure IsAnchor (a : Text) : Prop where
  nonempty : a ≠ []
  word : ∀ c ∈ a, c = '-' ∨ isSlugChar c = true
  small : ∀ c ∈ a, c.isUpper = false

namespace Anchors

theorem base_isAnchor (title : Text) : IsAnchor (base title) := by
  unfold base
  split
  · have word : "section".toList.all isSlugChar = true := by decide
    refine ⟨by decide, fun c member => ?_, Text.small_of_all (by decide)⟩
    exact .inr (List.all_eq_true.mp word c member)
  · rename_i filled
    refine ⟨filled, fun c member => ?_, fun c member => ?_⟩
    · exact (Slug.mem_ofText member).imp_right And.left
    · rcases Slug.mem_ofText member with rfl | ⟨-, lower⟩
      · decide
      · exact Text.lowercaseAfter_small [] _ c lower

theorem mem_numbered {slug : Text} {k : Nat} {c : Char} (member : c ∈ numbered slug k) :
    c ∈ slug ∨ c = '-' ∨ c.isDigit = true := by
  rw [numbered, List.mem_append, List.mem_cons] at member
  rcases member with inSlug | hyphen | digit
  · exact .inl inSlug
  · exact .inr (.inl hyphen)
  · exact .inr (.inr (Nat.isDigit_of_mem_toDigits (by decide) (by decide) digit))

theorem isSlugChar_of_isDigit {c : Char} (digit : c.isDigit = true) : isSlugChar c = true := by
  obtain ⟨least, most⟩ := Char.isDigit_iff_toNat.mp digit
  change 0x30 ≤ c.toNat at least
  change c.toNat ≤ 0x39 at most
  have digits : Text.decimalRanges = (0x30, 0x39) :: Text.decimalRanges.tail := rfl
  have isDecimal : Text.isDecimal c = true := by
    rw [Text.isDecimal, digits, Text.inRanges, if_neg (by omega), decide_eq_true most,
      Bool.true_or]
  rw [isSlugChar, isDecimal, Bool.or_true]

theorem isUpper_of_isDigit {c : Char} (digit : c.isDigit = true) : c.isUpper = false := by
  obtain ⟨-, most⟩ := Char.isDigit_iff_toNat.mp digit
  rw [← Char.ofNat_toNat c]
  exact Text.isUpper_ofNat (.inl (Nat.lt_of_le_of_lt most (by decide)))

theorem numbered_isAnchor {slug : Text} (isAnchor : IsAnchor slug) (k : Nat) :
    IsAnchor (numbered slug k) := by
  refine ⟨by simp [numbered], fun c member => ?_, fun c member => ?_⟩
  · rcases mem_numbered member with inSlug | hyphen | digit
    · exact isAnchor.word c inSlug
    · exact .inl hyphen
    · exact .inr (isSlugChar_of_isDigit digit)
  · rcases mem_numbered member with inSlug | rfl | digit
    · exact isAnchor.small c inSlug
    · decide
    · exact isUpper_of_isDigit digit

theorem numbered_injective (slug : Text) {i j : Nat} (same : numbered slug i = numbered slug j) :
    i = j := by
  have digits : '-' :: Text.decimal i = '-' :: Text.decimal j := List.append_cancel_left same
  exact Text.decimal_injective (List.cons.inj digits).2

theorem taken_of_firstFree {taken : List Text} {slug : Text} {tries first : Nat}
    (found : numbered slug (firstFree taken slug tries first) ∈ taken) :
    ∀ k, first ≤ k → k < first + tries → numbered slug k ∈ taken := by
  induction tries generalizing first with
  | zero =>
    intro k least less
    omega
  | succ tries ih =>
    rw [firstFree] at found
    split at found
    · rename_i here
      intro k least less
      rcases Nat.eq_or_lt_of_le least with same | more
      · rw [← same]
        exact List.contains_iff_mem.mp here
      · exact ih found k more (by omega)
    · rename_i free
      exact absurd (List.contains_iff_mem.mpr found) free

/-- Numbers give different anchors, so more of them than there are anchors cannot all be taken. -/
theorem firstFree_notMem (taken : List Text) (slug : Text) (first : Nat) :
    numbered slug (firstFree taken slug (taken.length + 1) first) ∉ taken := by
  intro found
  have all := taken_of_firstFree found
  let tried := (List.range' first (taken.length + 1)).map (numbered slug)
  have distinct : tried.Nodup :=
    List.Nodup.map (fun _ _ same => numbered_injective slug same) List.nodup_range'
  have within : tried ⊆ taken := by
    intro a member
    obtain ⟨k, inRange, rfl⟩ := List.mem_map.mp member
    obtain ⟨least, less⟩ := List.mem_range'_1.mp inRange
    exact all k least less
  have few := (distinct.subperm within).length_le
  rw [List.length_map, List.length_range'] at few
  omega

theorem issued_note (r : Anchors) (anchor : Text) (k : Nat) :
    (r.note anchor k).issued =
      if anchor ∈ r.issued then r.issued else r.issued ++ [anchor] := by
  unfold note
  by_cases known : anchor ∈ r.issued
  · rw [if_pos (List.contains_iff_mem.mpr known), if_pos known, issued, issued, List.map_map]
    refine List.map_congr_left fun entry _ => ?_
    by_cases same : entry.1 = anchor
    · simp [same]
    · simp [same]
  · rw [if_neg (mt List.contains_iff_mem.mp known), if_neg known]
    simp [issued]

theorem mem_issued_iff {r : Anchors} {slug : Text} :
    slug ∈ r.issued ↔ ∃ last, r.tried.lookup slug = some last := by
  constructor
  · intro member
    obtain ⟨entry, isEntry, same⟩ := List.mem_map.mp member
    cases tried : r.tried.lookup slug with
    | some last => exact ⟨last, rfl⟩
    | none =>
      have other := List.lookup_eq_none_iff.mp tried entry isEntry
      rw [same, bne_self_eq_false] at other
      contradiction
  · rintro ⟨last, tried⟩
    obtain ⟨front, back, split, -⟩ := List.lookup_eq_some_iff.mp tried
    simp [issued, split]

theorem issue_spec (r : Anchors) (title : Text) :
    (r.issue title).1 ∉ r.issued ∧ IsAnchor (r.issue title).1 ∧
      (r.issue title).2.issued = r.issued ++ [(r.issue title).1] := by
  cases tried : r.tried.lookup (base title) with
  | none =>
    have fresh : base title ∉ r.issued := by
      rw [mem_issued_iff, tried]
      simp
    simp only [issue, tried]
    exact ⟨fresh, base_isAnchor title, by rw [issued_note, if_neg fresh]⟩
  | some last =>
    have known : base title ∈ r.issued := mem_issued_iff.mpr ⟨last, tried⟩
    have counted : r.issued.length = r.tried.length := List.length_map _
    have fresh := firstFree_notMem r.issued (base title) (last + 1)
    rw [counted] at fresh
    simp only [issue, tried]
    refine ⟨fresh, numbered_isAnchor (base_isAnchor title) _, ?_⟩
    simp only [issued_note, if_pos known, if_neg fresh]

example : (empty.issueAll ["Topic 2".toList, "Topic".toList, "topic".toList]).1 =
    ["topic-2".toList, "topic".toList, "topic-3".toList] := by
  decide +kernel

structure Sound (r : Anchors) : Prop where
  distinct : r.issued.Nodup
  shaped : ∀ a ∈ r.issued, IsAnchor a

theorem empty_sound : empty.Sound := ⟨List.nodup_nil, by simp [empty, issued]⟩

theorem issue_sound {r : Anchors} (sound : r.Sound) (title : Text) : (r.issue title).2.Sound := by
  obtain ⟨fresh, isAnchor, appended⟩ := r.issue_spec title
  constructor
  · rw [appended, ← List.concat_eq_append]
    exact sound.distinct.concat fresh
  · intro a member
    rw [appended, List.mem_append, List.mem_singleton] at member
    rcases member with old | rfl
    · exact sound.shaped a old
    · exact isAnchor

end Anchors
end PodSite
