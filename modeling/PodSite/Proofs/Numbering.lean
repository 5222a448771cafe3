import Mathlib.Order.Bounds.Basic
import PodSite.Proofs.Anchors

/-!
The numbers of anchors. The first title with a slug gets the slug, and each later one the least
number that makes its anchor new, wherever the anchors before it came from. The search for a number
starts behind the last one tried for the slug, so all smaller ones must be taken by then.
-/
namespace PodSite.Anchors

/-- What a title with the given slug is due when `before` was handed out: the slug itself or, if it
is taken, the slug with the least number from two on that makes it new. -/
def IsDue (before : List Text) (slug anchor : Text) : Prop :=
  (slug ∉ before ∧ anchor = slug) ∨
    (slug ∈ before ∧
      ∃ k, IsLeast {k | 2 ≤ k ∧ numbered slug k ∉ before} k ∧ anchor = numbered slug k)

theorem le_firstFree (taken : List Text) (slug : Text) (tries first : Nat) :
    first ≤ firstFree taken slug tries first := by
  induction tries generalizing first with
  | zero => exact Nat.le_refl first
  | succ tries ih =>
    rw [firstFree]
    split
    · have later := ih (first + 1)
      omega
    · exact Nat.le_refl first

theorem taken_before_firstFree {taken : List Text} {slug : Text} {tries first k : Nat}
    (least : first ≤ k) (less : k < firstFree taken slug tries first) :
    numbered slug k ∈ taken := by
  induction tries generalizing first with
  | zero =>
    rw [firstFree] at less
    omega
  | succ tries ih =>
    rw [firstFree] at less
    split at less
    · rename_i here
      rcases Nat.eq_or_lt_of_le least with same | more
      · rw [← same]
        exact List.contains_iff_mem.mp here
      · exact ih more less
    · omega

theorem lookup_renumbered (entries : List (Text × Nat)) (anchor slug : Text) (k : Nat) :
    (entries.map fun (a, n) => if a = anchor then (a, k) else (a, n)).lookup slug =
      (entries.lookup slug).map fun n => if slug = anchor then k else n := by
  induction entries with
  | nil => rfl
  | cons entry rest ih =>
    obtain ⟨a, n⟩ := entry
    have pair : (if a = anchor then (a, k) else (a, n)) = (a, if a = anchor then k else n) := by
      split <;> rfl
    simp only [List.map_cons, pair, List.lookup_cons]
    by_cases here : slug = a
    · simp [here]
    · rw [beq_eq_false_iff_ne.mpr here]
      exact ih

theorem lookup_note (r : Anchors) (anchor slug : Text) (k : Nat) :
    (r.note anchor k).tried.lookup slug =
      if slug = anchor then some k else r.tried.lookup slug := by
  unfold note
  split
  · rename_i known
    obtain ⟨last, tried⟩ := mem_issued_iff.mp (List.contains_iff_mem.mp known)
    rw [lookup_renumbered]
    by_cases same : slug = anchor
    · simp [same, tried]
    · simp [same]
  · rename_i fresh
    rw [List.lookup_append]
    by_cases same : slug = anchor
    · have missing : r.tried.lookup anchor = none := by
        by_contra known
        obtain ⟨last, tried⟩ := Option.ne_none_iff_exists'.mp known
        exact fresh (List.contains_iff_mem.mpr (mem_issued_iff.mpr ⟨last, tried⟩))
      simp [same, missing]
    · rw [List.lookup_cons, beq_eq_false_iff_ne.mpr same]
      simp [same]

/-- Where the numbers for a slug were tried up to one, the anchors with them are all taken. -/
def Exhausted (r : Anchors) : Prop :=
  ∀ slug last, r.tried.lookup slug = some last →
    1 ≤ last ∧ ∀ k, 2 ≤ k → k ≤ last → numbered slug k ∈ r.issued

theorem empty_exhausted : empty.Exhausted := by
  intro slug last tried
  cases tried

theorem old_issued {r : Anchors} (title : Text) {a : Text} (old : a ∈ r.issued) :
    a ∈ (r.issue title).2.issued := by
  obtain ⟨-, -, appended⟩ := r.issue_spec title
  rw [appended]
  exact List.mem_append_left _ old

theorem new_issued (r : Anchors) (title : Text) :
    (r.issue title).1 ∈ (r.issue title).2.issued := by
  obtain ⟨-, -, appended⟩ := r.issue_spec title
  rw [appended]
  exact List.mem_append_right _ (List.mem_singleton_self _)

section Issue
variable {r : Anchors} (exhausted : r.Exhausted) (title : Text)
include exhausted

theorem taken_below {last k j : Nat} (tried : r.tried.lookup (base title) = some last)
    (found : k = firstFree r.issued (base title) (r.tried.length + 1) (last + 1)) (least : 2 ≤ j)
    (less : j < k) : numbered (base title) j ∈ r.issued := by
  by_cases old : j ≤ last
  · exact (exhausted _ _ tried).2 j least old
  · rw [found] at less
    exact taken_before_firstFree (by omega) less

theorem issue_isDue : IsDue r.issued (base title) (r.issue title).1 := by
  have fresh := (r.issue_spec title).1
  cases tried : r.tried.lookup (base title) with
  | none =>
    apply Or.inl
    simp [issue, mem_issued_iff, tried]
  | some last =>
    have positive := (exhausted _ _ tried).1
    have behind := le_firstFree r.issued (base title) (r.tried.length + 1) (last + 1)
    simp only [issue, tried] at fresh ⊢
    refine Or.inr ⟨mem_issued_iff.mpr ⟨last, tried⟩, _, ⟨⟨?_, fresh⟩, ?_⟩, rfl⟩
    · omega
    · intro j free
      by_contra less
      exact free.2 (taken_below exhausted title tried rfl free.1 (by omega))

theorem taken_upTo {last k : Nat} (tried : r.tried.lookup (base title) = some last) (least : 2 ≤ k)
    (most : k ≤ firstFree r.issued (base title) (r.tried.length + 1) (last + 1)) :
    numbered (base title) k ∈ (r.issue title).2.issued := by
  rcases Nat.eq_or_lt_of_le most with found | less
  · have anchor : (r.issue title).1 = numbered (base title) k := by
      simp only [issue, tried, found]
    rw [← anchor]
    exact new_issued r title
  · exact old_issued title (taken_below exhausted title tried rfl least less)

theorem issue_exhausted : (r.issue title).2.Exhausted := by
  have before : ∀ slug last, r.tried.lookup slug = some last →
      1 ≤ last ∧ ∀ k, 2 ≤ k → k ≤ last → numbered slug k ∈ (r.issue title).2.issued := by
    intro slug last tried
    obtain ⟨positive, all⟩ := exhausted slug last tried
    exact ⟨positive, fun k least most => old_issued title (all k least most)⟩
  have first : ∀ slug, 1 ≤ 1 ∧
      ∀ k, 2 ≤ k → k ≤ 1 → numbered slug k ∈ (r.issue title).2.issued := by
    intro slug
    exact ⟨Nat.le_refl 1, by omega⟩
  intro slug last tried
  -- the entry is a new anchor's, that of the title's slug with the number found, or an old one
  cases known : r.tried.lookup (base title) with
  | none =>
    simp only [issue, known, lookup_note] at tried
    split at tried
    · cases tried
      exact first slug
    · exact before slug last tried
  | some old =>
    have upTo := fun k => taken_upTo exhausted title (k := k) known
    have behind := le_firstFree r.issued (base title) (r.tried.length + 1) (old + 1)
    simp only [issue, known, lookup_note] at tried
    split at tried
    · cases tried
      exact first slug
    · split at tried
      · rename_i same
        cases tried
        rw [same]
        exact ⟨by omega, upTo⟩
      · exact before slug last tried

end Issue

theorem issueAll_append (r : Anchors) (a b : List Text) :
    r.issueAll (a ++ b) =
      ((r.issueAll a).1 ++ ((r.issueAll a).2.issueAll b).1, ((r.issueAll a).2.issueAll b).2) := by
  induction a generalizing r with
  | nil => rfl
  | cons title a ih => simp only [List.cons_append, issueAll, ih]

theorem issued_issueAll (r : Anchors) (titles : List Text) :
    (r.issueAll titles).2.issued = r.issued ++ (r.issueAll titles).1 := by
  induction titles generalizing r with
  | nil => simp [issueAll]
  | cons title rest ih =>
    obtain ⟨-, -, appended⟩ := r.issue_spec title
    rw [issueAll, ih, appended, List.append_assoc, List.singleton_append]

theorem issueAll_exhausted {r : Anchors} (exhausted : r.Exhausted) (titles : List Text) :
    (r.issueAll titles).2.Exhausted := by
  induction titles generalizing r with
  | nil => exact exhausted
  | cons title rest ih => exact ih (issue_exhausted exhausted title)

theorem length_issueAll (r : Anchors) (titles : List Text) :
    (r.issueAll titles).1.length = titles.length := by
  induction titles generalizing r with
  | nil => rfl
  | cons title rest ih => rw [issueAll, List.length_cons, ih, List.length_cons]

theorem base_mem_issue (r : Anchors) (title : Text) : base title ∈ (r.issue title).2.issued := by
  cases known : r.tried.lookup (base title) with
  | none =>
    have anchor : (r.issue title).1 = base title := by simp only [issue, known]
    rw [← anchor]
    exact new_issued r title
  | some last => exact old_issued title (mem_issued_iff.mpr ⟨last, known⟩)

theorem base_mem_issueAll {r : Anchors} {titles : List Text} {title : Text}
    (member : title ∈ titles) : base title ∈ (r.issueAll titles).2.issued := by
  induction titles generalizing r with
  | nil => simp at member
  | cons first rest ih =>
    rw [issueAll]
    rcases List.mem_cons.mp member with rfl | later
    · rw [issued_issueAll]
      exact List.mem_append_left _ (base_mem_issue r title)
    · exact ih later

/-- Every title of a document gets one anchor, and this is the least one that is new. -/
theorem issueAll_isDue (before : List Text) (title : Text) (after : List Text) :
    (empty.issueAll before).1.length = before.length ∧
      ∃ anchor later,
        (empty.issueAll (before ++ title :: after)).1 =
          (empty.issueAll before).1 ++ anchor :: later ∧
        IsDue (empty.issueAll before).1 (base title) anchor := by
  refine ⟨length_issueAll empty before, ?_⟩
  have issued := issued_issueAll empty before
  have due := issue_isDue (issueAll_exhausted empty_exhausted before) title
  rw [issued] at due
  rw [issueAll_append, issueAll]
  exact ⟨_, _, rfl, due⟩

example :
    (empty.issueAll
        ["A".toList, "A 3".toList, "a".toList, "A!".toList, "A 2".toList, "?".toList]).1 =
      ["a".toList, "a-3".toList, "a-2".toList, "a-4".toList, "a-2-2".toList, "section".toList] := by
  decide +kernel

end PodSite.Anchors
