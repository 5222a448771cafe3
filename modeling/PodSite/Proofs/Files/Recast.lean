import PodSite.Proofs.Files.Settled

/-!
Trees that differ only in what some files hold, and in times. Paths lead to the same places in both,
walks come to the same paths, and the same directories are made.
-/
namespace PodSite.FileTree

/-- The same things stand at the same places in both trees, but for the times of directories and for
the files at the given locations. -/
structure Recast (free : Location → Prop) (t t' : FileTree) : Prop where
  keys : (t'.entries.map (·.1)).Perm (t.entries.map (·.1))
  entries : ∀ loc, t'.get? loc = t.get? loc ∨ (t.DirectoryAt loc ∧ t'.DirectoryAt loc) ∨
    (free loc ∧ ∃ e e', t.get? loc = some e ∧ t'.get? loc = some e' ∧ e.isFile = true ∧
      e'.isFile = true)

theorem recast_put {free : Location → Prop} {t : FileTree} {loc : Location} {e e' : Entry}
    (below : loc ≠ []) (here : t.get? loc = some e) (file : e.isFile = true)
    (file' : e'.isFile = true) (place : free loc) : Recast free t (t.put loc e') where
  keys := by
    have listed : (t.entries.lookup loc).isSome := by
      rw [get?, if_neg below] at here
      simp [here]
    rw [keys_put, if_pos listed]
  entries := by
    intro x
    rw [get?_put t loc x e' below]
    split
    · rename_i same
      subst same
      exact Or.inr (Or.inr ⟨place, e, e', here, rfl, file, file'⟩)
    · exact Or.inl rfl

namespace Recast
variable {free : Location → Prop} {t t' : FileTree} (recast : Recast free t t')
include recast

theorem kind (loc : Location) : (t.get? loc = none ∧ t'.get? loc = none) ∨
    ∃ e e', t.get? loc = some e ∧ t'.get? loc = some e' ∧ e.Stays e' := by
  rcases recast.entries loc with
    same | ⟨⟨m, here⟩, m', there⟩ | ⟨_, e, e', here, there, file, file'⟩
  · cases here : t.get? loc with
    | none => exact Or.inl ⟨rfl, same.trans here⟩
    | some e => exact Or.inr ⟨e, e, rfl, same.trans here, Or.inl rfl⟩
  · exact Or.inr ⟨_, _, here, there, Or.inr (Or.inl ⟨rfl, rfl⟩)⟩
  · exact Or.inr ⟨e, e', here, there, Or.inr (Or.inr ⟨file, file'⟩)⟩

theorem inside (loc : Location) :
    (t'.get? loc).any Entry.isDirectory = (t.get? loc).any Entry.isDirectory := by
  rcases recast.kind loc with ⟨here, there⟩ | ⟨e, e', here, there, stays⟩
  · rw [here, there]
  · rw [here, there, Option.any_some, Option.any_some]
    rcases stays with rfl | ⟨before, after⟩ | ⟨before, after⟩
    · rfl
    · rw [before, after]
    · cases e <;> cases e' <;> simp [Entry.isFile, Entry.isDirectory] at before after ⊢

theorem directory_iff {loc : Location} : t'.DirectoryAt loc ↔ t.DirectoryAt loc := by
  rw [← directory_any, ← directory_any, recast.inside]

theorem isSome_eq (loc : Location) : (t'.get? loc).isSome = (t.get? loc).isSome := by
  rcases recast.kind loc with ⟨here, there⟩ | ⟨e, e', here, there, _⟩
  · rw [here, there]
  · rw [here, there]
    rfl

theorem sound (sound : t.Sound) : t'.Sound where
  distinct := recast.keys.nodup_iff.mpr sound.distinct
  housed := by
    intro loc n e there
    have here : (t.get? (loc ++ [n])).isSome := by rw [← recast.isSome_eq, there]; rfl
    obtain ⟨old, here⟩ := Option.isSome_iff_exists.mp here
    exact recast.directory_iff.mpr (sound.housed here)

theorem step_eq (loc : Location) (part : Component) : t'.step loc part = t.step loc part := by
  cases part with
  | root => rfl
  | current => rw [step, step, recast.inside]
  | parent => rw [step, step, recast.inside]
  | name n =>
    rw [step, step, recast.inside]
    rcases recast.kind (loc ++ [n]) with ⟨here, there⟩ | ⟨e, e', here, there, stays⟩
    · rw [here, there]
    · rw [here, there]
      cases e with
      | link target => rw [stays.link]
      | file content m => cases e' <;> first | rfl | cases stays.noLink rfl
      | directory m => cases e' <;> first | rfl | cases stays.noLink rfl
      | unreadable m => cases e' <;> first | rfl | cases stays.noLink rfl

theorem followWith_eq (onLink : Location → Text → Path → Except FileError Location) (p : Path)
    (loc : Location) : t'.followWith false onLink loc p = t.followWith false onLink loc p := by
  induction p generalizing loc with
  | nil => rfl
  | cons part rest ih =>
    rw [followWith_cons, followWith_cons, recast.step_eq]
    simp only [ih]

theorem follow_eq (links : Nat) (loc : Location) (p : Path) :
    t'.follow false links loc p = t.follow false links loc p := by
  induction links generalizing loc p with
  | zero => exact recast.followWith_eq _ p loc
  | succ links ih =>
    rw [follow, follow, recast.followWith_eq]
    simp only [ih]

theorem locate_eq (p : Path) : t'.locate [] p = t.locate [] p := by
  unfold locate
  rw [recast.follow_eq]

theorem isDirectory_eq (p : Path) : t'.isDirectory [] p = t.isDirectory [] p := by
  have entry : ∀ u : FileTree, u.isDirectory [] p =
      (u.locate [] p).toOption.any fun loc => (u.get? loc).any Entry.isDirectory := by
    intro u
    unfold FileTree.isDirectory entryAt
    cases u.locate [] p with
    | error e => rfl
    | ok loc => cases here : u.get? loc <;> simp [bind, Except.bind, Except.toOption, here]
  rw [entry, entry, recast.locate_eq]
  cases t.locate [] p with
  | error e => rfl
  | ok loc => exact recast.inside loc

theorem namesIn_eq (loc : Location) : t'.namesIn loc = t.namesIn loc := by
  have names : ∀ u : FileTree, u.namesIn loc = ((u.entries.map (·.1)).filterMap fun p =>
      if p.dropLast = loc then p.getLast? else none).mergeSort Text.precedes := by
    intro u
    rw [namesIn, List.filterMap_map]
    rfl
  have sorted := fun names : List Text =>
    List.pairwise_mergeSort Text.precedes_trans Text.precedes_total names
  rw [names, names]
  refine List.Perm.eq_of_pairwise ?_ (sorted _) (sorted _) ?_
  · intro a b _ _ first second
    exact Text.precedes_antisymm a b first second
  · exact (List.mergeSort_perm _ _).trans
      ((recast.keys.filterMap _).trans (List.mergeSort_perm _ _).symm)

theorem walkFrom_eq (pruned : List Text → Bool) (fuel : Nat) (ancestors : List Location)
    (loc path : Location) : (t'.walkFrom pruned fuel ancestors loc path).map Found.path =
      (t.walkFrom pruned fuel ancestors loc path).map Found.path := by
  induction fuel generalizing ancestors loc path with
  | zero => rfl
  | succ fuel ih =>
    rw [walkFrom, walkFrom, recast.namesIn_eq, List.map_flatMap, List.map_flatMap]
    congr 1
    funext n
    simp only
    split
    · rfl
    -- what a walk does at an entry depends on its kind, or on the target of a link
    rcases recast.kind (loc ++ [n]) with ⟨here, there⟩ | ⟨e, e', here, there, stays⟩
    · rw [here, there]
    rw [here, there]
    cases e with
    | file content m =>
      have file := stays.file rfl
      cases e' <;> first | rfl | cases file
    | unreadable m =>
      have file := stays.file rfl
      cases e' <;> first | rfl | cases file
    | directory m =>
      have directory := stays.directory rfl
      cases e' <;> first | exact ih _ _ _ | cases directory
    | link target =>
      rw [stays.link]
      simp only [recast.follow_eq]
      cases t.follow false maxLinks loc (Path.steps target) with
      | error e => rfl
      | ok found =>
        simp only
        rcases recast.kind found with ⟨here, there⟩ | ⟨e, e', here, there, stays⟩
        · rw [here, there]
        rw [here, there]
        cases e with
        | file content m =>
          have file := stays.file rfl
          cases e' <;> first | rfl | cases file
        | unreadable m =>
          have file := stays.file rfl
          cases e' <;> first | rfl | cases file
        | directory m =>
          have directory := stays.directory rfl
          cases e' with
          | directory m' =>
            simp only
            split
            · rfl
            · exact ih _ _ _
          | _ => cases directory
        | link target => rw [stays.link]

theorem walk_eq (pruned : List Text → Bool) (root : Location) :
    (t'.walk pruned root).map Found.path = (t.walk pruned root).map Found.path := by
  have size : t'.entries.length = t.entries.length := by
    simpa using recast.keys.length_eq
  unfold walk
  rw [recast.locate_eq, size]
  split
  · rfl
  · split
    · rfl
    · exact recast.walkFrom_eq pruned _ _ _ root

section Made
variable {loc : Location} {e e' : Entry} (below : loc ≠ []) (directory : e.isDirectory = true)
  (directory' : e'.isDirectory = true)

omit recast in
theorem directory_entry (directory : e.isDirectory = true) : ∃ m, e = .directory m := by
  cases e with
  | directory m => exact ⟨m, rfl⟩
  | _ => cases directory

include below directory directory'

theorem put : Recast free (t.put loc e) (t'.put loc e') where
  keys := by
    have listed : (t'.entries.lookup loc).isSome = (t.entries.lookup loc).isSome := by
      have := recast.isSome_eq loc
      rwa [get?, get?, if_neg below, if_neg below] at this
    rw [keys_put, keys_put, listed]
    split
    · exact recast.keys
    · exact recast.keys.append_right [loc]
  entries := by
    intro x
    obtain ⟨m, rfl⟩ := directory_entry directory
    obtain ⟨m', rfl⟩ := directory_entry directory'
    unfold DirectoryAt
    rw [get?_put t loc x _ below, get?_put t' loc x _ below]
    split
    · exact Or.inr (Or.inl ⟨⟨m, rfl⟩, m', rfl⟩)
    · exact recast.entries x

end Made

theorem stamp (loc : Location) : Recast free (t.stamp loc) (t'.stamp loc) := by
  by_cases top : loc = []
  · have same : ∀ u : FileTree, u.stamp loc = u := by
      intro u
      simp [FileTree.stamp, top, get?]
    rw [same, same]
    exact recast
  · by_cases there : t.DirectoryAt loc
    · obtain ⟨m', there'⟩ := recast.directory_iff.mpr there
      obtain ⟨m, there⟩ := there
      simp only [FileTree.stamp, there, there', if_neg top]
      exact recast.put top rfl rfl
    · have same : ∀ u : FileTree, ¬ u.DirectoryAt loc → u.stamp loc = u := by
        intro u none
        unfold FileTree.stamp
        split
        · rename_i m here
          exact absurd ⟨m, here⟩ none
        · rfl
      rw [same t there, same t' fun there' => there (recast.directory_iff.mp there')]
      exact recast

theorem add {loc : Location} (below : loc ≠ []) :
    Recast free (t.add loc (.directory t.now)) (t'.add loc (.directory t'.now)) := by
  have put : Recast free (t.put loc (.directory t.now)) (t'.put loc (.directory t'.now)) :=
    recast.put below rfl rfl
  unfold FileTree.add
  rw [recast.isSome_eq]
  split
  · exact put
  · exact put.stamp _

theorem makeDirectoriesFrom (p : Path) (loc : Location) :
    (t'.makeDirectoriesFrom loc p).2 = (t.makeDirectoriesFrom loc p).2 ∧
      Recast free (t.makeDirectoriesFrom loc p).1 (t'.makeDirectoriesFrom loc p).1 := by
  induction p generalizing t t' loc with
  | nil => exact ⟨rfl, recast⟩
  | cons part rest ih =>
    cases part with
    | root => exact ih recast []
    | current => exact ih recast loc
    | parent => exact ih recast loc.dropLast
    | name n =>
      rw [FileTree.makeDirectoriesFrom, FileTree.makeDirectoriesFrom]
      split
      · exact ⟨rfl, recast⟩
      rcases recast.kind (loc ++ [n]) with ⟨here, there⟩ | ⟨e, e', here, there, stays⟩
      · rw [here, there]
        exact ih (recast.add (by simp)) _
      rw [here, there]
      cases e with
      | file content m =>
        have file := stays.file rfl
        cases e' <;> first | exact ⟨rfl, recast⟩ | cases file
      | unreadable m =>
        have file := stays.file rfl
        cases e' <;> first | exact ⟨rfl, recast⟩ | cases file
      | directory m =>
        have directory := stays.directory rfl
        cases e' <;> first | exact ih recast _ | cases directory
      | link target =>
        rw [stays.link]
        simp only [recast.follow_eq]
        split
        · exact ⟨rfl, recast⟩
        · exact ⟨rfl, recast⟩
        · rename_i found _
          rw [recast.inside]
          split
          · exact ih recast found
          · exact ⟨rfl, recast⟩

theorem makeDirectories (p : Path) :
    (t'.makeDirectories p).2 = (t.makeDirectories p).2 ∧
      Recast free (t.makeDirectories p).1 (t'.makeDirectories p).1 := by
  unfold FileTree.makeDirectories
  split
  · exact ⟨rfl, recast⟩
  · exact recast.makeDirectoriesFrom p []

theorem read_iff {p : Path} (away : ∀ loc, t.locate [] p = .ok loc → ¬ free loc) (content : Bytes) :
    t'.read [] p = .ok content ↔ t.read [] p = .ok content := by
  unfold read entryAt
  rw [recast.locate_eq]
  cases found : t.locate [] p with
  | error e => simp [bind, Except.bind]
  | ok loc =>
    simp only [bind, Except.bind]
    rcases recast.entries loc with same | ⟨⟨m, here⟩, m', there⟩ | ⟨here, _⟩
    · rw [same]
    · rw [here, there]
    · exact absurd here (away loc found)

end Recast
end PodSite.FileTree
