import PodSite.Proofs.Inline.Labels
import PodSite.Proofs.Inline.Leaves
import PodSite.Proofs.Text.Cut
import PodSite.Proofs.Text.Trim

/-!
How deep links can stand in each other. What a link shows is a part of its content, and its content
is shorter than the text that the link was read from. So the bound up to which labels are read again
is never reached, and any bound from the length of the text on gives the same text.
-/
namespace PodSite

namespace Link

theorem partOf?_sublist {t part : Text} (found : partOf? t = some part) : part.Sublist t := by
  unfold partOf? at found
  split at found
  · cases found
  · cases found
    exact ((Text.trim_sublist _).trans (Text.trimChar_sublist '"' _)).trans (Text.trim_sublist t)

theorem targetOf_part {t name part : Text} (found : targetOf t = .page name (some part)) :
    part.Sublist t := by
  unfold targetOf at found
  split at found
  · cases found
  · split at found
    · injection found with _ quoted
      exact partOf?_sublist quoted
    · split at found
      · rename_i cut
        injection found with _ slashed
        obtain ⟨c, -, rfl⟩ := Text.splitOnce?_eq_some cut
        exact (partOf?_sublist slashed).trans
          ((List.sublist_cons_self c _).trans (List.sublist_append_right _ _))
      · cases found

theorem splitLabel?_eq_some {raw front back : Text}
    (cut : splitLabel? 0 raw = some (front, back)) : raw = front ++ '|' :: back := by
  rw [splitLabel?_eq_cutAt?] at cut
  exact (cutAt?_first cut).1.1

theorem ofText_label {raw label : Text} (labelled : (ofText raw).label = some label) :
    label.Sublist raw := by
  unfold ofText at labelled
  split at labelled
  · rename_i cut
    cases labelled
    rw [splitLabel?_eq_some cut]
    exact (Text.trim_sublist _).trans (List.sublist_append_left _ _)
  · cases labelled

theorem ofText_part {raw name part : Text}
    (target : (ofText raw).target = .page name (some part)) : part.Sublist raw := by
  unfold ofText at target
  split at target
  · rename_i cut
    rw [splitLabel?_eq_some cut]
    exact ((targetOf_part target).trans (Text.trim_sublist _)).trans
      ((List.sublist_cons_self _ _).trans (List.sublist_append_right _ _))
  · exact (targetOf_part target).trans (Text.trim_sublist raw)

def Holds (raw u : Text) : Prop :=
  (ofText raw).label = some u ∨ ∃ name, (ofText raw).target = .page name (some u)

theorem length_of_holds {raw u : Text} (held : Holds raw u) : u.length ≤ raw.length := by
  rcases held with labelled | ⟨name, target⟩
  · exact (ofText_label labelled).length_le
  · exact (ofText_part target).length_le

theorem shown_congr {raw : Text} {f g : Text → Text} (same : ∀ t, Holds raw t → f t = g t) :
    (ofText raw).shown f = (ofText raw).shown g := by
  unfold shown
  split
  · rename_i labelled
    exact same _ (.inl labelled)
  · split
    · rfl
    · rfl
    · rename_i target
      exact same _ (.inr ⟨_, target⟩)
    · rename_i target
      rw [same _ (.inr ⟨_, target⟩)]

end Link

namespace Inline

mutual
theorem nodeText_congr {f g : Text → Text} : (node : Inline) →
    (∀ raw, link raw ∈ leaves node → f raw = g raw) → nodeText f node = nodeText g node
  | text t, _ => by rw [nodeText, nodeText]
  | character t, _ => by rw [nodeText, nodeText]
  | entity name, _ => by rw [nodeText, nodeText]
  | link raw, same => by
    rw [nodeText, nodeText]
    exact same raw (by simp [leaves])
  | styled style content, same => by
    rw [leaves] at same
    rw [nodeText, nodeText, contentText_congr content same]
theorem contentText_congr {f g : Text → Text} : (nodes : List Inline) →
    (∀ raw, link raw ∈ leavesAll nodes → f raw = g raw) → contentText f nodes = contentText g nodes
  | [], _ => by rw [contentText, contentText]
  | node :: rest, same => by
    simp only [leavesAll, List.mem_append] at same
    rw [contentText, contentText, nodeText_congr node fun raw here => same raw (Or.inl here),
      contentText_congr rest fun raw there => same raw (Or.inr there)]
end

theorem ofCharacterCode_ne_link (code raw : Text) : ofCharacterCode code ≠ link raw := by
  unfold ofCharacterCode
  split
  · simp
  · split
    · simp
    · split <;> simp

theorem length_of_link {t raw : Text} (read : link raw ∈ leavesAll (parse t)) :
    raw.length + 2 ≤ t.length := by
  rcases parse_within t _ read with ⟨u, same⟩ | ⟨whole, inside, same | same⟩
  · cases same
  · cases same
    have shorter := Text.length_trim_le whole
    omega
  · exact absurd same.symm (ofCharacterCode_ne_link _ raw)

theorem linkText_deeper {raw : Text} {depth : Nat} (enough : raw.length < depth) :
    linkText (depth + 1) raw = linkText depth raw := by
  induction depth generalizing raw with
  | zero => omega
  | succ depth ih =>
    rw [linkText, linkText]
    apply Link.shown_congr
    intro t held
    apply contentText_congr
    intro inner read
    have inside := Link.length_of_holds held
    have shorter := length_of_link read
    exact ih (by omega)

theorem unmarkedWithin_deeper {t : Text} {depth : Nat} (enough : t.length ≤ depth + 1) :
    unmarkedWithin (depth + 1) t = unmarkedWithin depth t := by
  apply contentText_congr
  intro raw read
  have shorter := length_of_link read
  exact linkText_deeper (by omega)

theorem unmarkedWithin_eq {t : Text} {depth : Nat} (enough : t.length ≤ depth) :
    unmarkedWithin depth t = unmarked t := by
  induction depth, enough using Nat.le_induction with
  | base => rfl
  | succ depth enough ih => rw [unmarkedWithin_deeper (by omega), ih]

end Inline
end PodSite
