import PodSite.Text.Basic

/-!
A text cut at its first character of a kind.
-/
namespace PodSite.Text

theorem splitOnce?_eq_some {p : Char → Bool} {t front back : Text}
    (cut : splitOnce? p t = some (front, back)) : ∃ c, p c = true ∧ t = front ++ c :: back := by
  induction t generalizing front with
  | nil => cases cut
  | cons c rest ih =>
    rw [splitOnce?] at cut
    split at cut
    · rename_i here
      cases cut
      exact ⟨c, here, rfl⟩
    · obtain ⟨⟨front', back'⟩, later, same⟩ := Option.map_eq_some_iff.mp cut
      cases same
      obtain ⟨d, holds, rfl⟩ := ih later
      exact ⟨d, holds, rfl⟩

theorem splitOnce?_first {p : Char → Bool} {front : Text} {c : Char} (back : Text)
    (before : ∀ d ∈ front, p d = false) (here : p c = true) :
    splitOnce? p (front ++ c :: back) = some (front, back) := by
  induction front with
  | nil => rw [List.nil_append, splitOnce?, if_pos here]
  | cons d front ih =>
    have later := ih fun e member => before e (List.mem_cons_of_mem d member)
    have other : ¬p d = true := by simp [before d List.mem_cons_self]
    rw [List.cons_append, splitOnce?, if_neg other, later, Option.map_some]

theorem splitOnce?_none {p : Char → Bool} {t : Text} (all : ∀ d ∈ t, p d = false) :
    splitOnce? p t = none := by
  induction t with
  | nil => rfl
  | cons d t ih =>
    have later := ih fun e member => all e (List.mem_cons_of_mem d member)
    have other : ¬p d = true := by simp [all d List.mem_cons_self]
    rw [splitOnce?, if_neg other, later, Option.map_none]

end PodSite.Text
