import Mathlib.Data.List.Induction
import Mathlib.Data.List.Nodup
import PodSite.Files.Walk

/-!
What every tree of files keeps: no location is listed twice, and everything stands in a directory.
Putting an entry into an existing directory keeps both.
-/
namespace PodSite

namespace FileTree

def DirectoryAt (t : FileTree) (loc : Location) : Prop :=
  ∃ modified, t.get? loc = some (.directory modified)

structure Sound (t : FileTree) : Prop where
  distinct : (t.entries.map (·.1)).Nodup
  housed : ∀ {loc : Location} {n : Text} {e : Entry},
    t.get? (loc ++ [n]) = some e → t.DirectoryAt loc

def LinkFree (t : FileTree) : Prop := ∀ loc target, t.get? loc ≠ some (.link target)

theorem root_directory (t : FileTree) : t.DirectoryAt [] := ⟨t.now, by simp [get?]⟩

theorem directory_any {t : FileTree} {loc : Location} :
    (t.get? loc).any Entry.isDirectory = true ↔ t.DirectoryAt loc := by
  unfold DirectoryAt
  cases t.get? loc with
  | none => simp
  | some e => cases e <;> simp [Entry.isDirectory]

/-- A list of entries to check for a tree to be sound. -/
theorem sound_of_entries {t : FileTree} (distinct : (t.entries.map (·.1)).Nodup)
    (housed : ∀ loc ∈ t.entries.map (·.1), (t.get? loc.dropLast).any Entry.isDirectory = true) :
    t.Sound where
  distinct := distinct
  housed := by
    intro loc n e found
    have listed : loc ++ [n] ∈ t.entries.map (·.1) := by
      have : ((t.get? (loc ++ [n])).isSome) := by simp [found]
      simpa [get?, List.lookup_isSome_iff] using this
    have := directory_any.mp (housed _ listed)
    rwa [List.dropLast_concat] at this

theorem linkFree_of_entries {t : FileTree}
    (plain : ∀ pair ∈ t.entries, pair.2.isLink = false) : t.LinkFree := by
  intro loc target found
  unfold get? at found
  split at found
  · cases found
  · obtain ⟨front, back, whole, _⟩ := List.lookup_eq_some_iff.mp found
    simpa [Entry.isLink] using plain (loc, .link target) (by simp [whole])

theorem get?_now (t : FileTree) (now : Nat) {loc : Location} (inside : loc ≠ []) :
    ({ t with now := now } : FileTree).get? loc = t.get? loc := by
  simp [get?, inside]

section Later
variable {t : FileTree} (now : Nat)

theorem DirectoryAt.later {loc : Location} (there : t.DirectoryAt loc) :
    ({ t with now := now } : FileTree).DirectoryAt loc := by
  by_cases top : loc = []
  · exact top ▸ root_directory _
  · unfold DirectoryAt
    rw [get?_now t now top]
    exact there

theorem Sound.later (sound : t.Sound) : ({ t with now := now } : FileTree).Sound where
  distinct := sound.distinct
  housed := by
    intro loc n e found
    rw [get?_now t now (by simp)] at found
    exact (sound.housed found).later now

theorem LinkFree.later (linkFree : t.LinkFree) : ({ t with now := now } : FileTree).LinkFree := by
  intro loc target found
  by_cases top : loc = []
  · simp [top, get?] at found
  · rw [get?_now t now top] at found
    exact linkFree loc target found

end Later

theorem Sound.directory_above {t : FileTree} (sound : t.Sound) {loc rest : Location} {e : Entry}
    (below : rest ≠ []) (found : t.get? (loc ++ rest) = some e) : t.DirectoryAt loc := by
  induction rest using List.reverseRecOn generalizing e with
  | nil => exact absurd rfl below
  | append_singleton front n ih =>
    rw [← List.append_assoc] at found
    obtain ⟨modified, here⟩ := sound.housed found
    by_cases done : front = []
    · subst done
      exact ⟨modified, by simpa using here⟩
    · exact ih done here

theorem mem_keys {t : FileTree} {loc : Location} {n : Text} :
    loc ++ [n] ∈ t.entries.map (·.1) ↔ (t.get? (loc ++ [n])).isSome := by
  simp [get?, List.lookup_isSome_iff]

theorem Sound.length_le {t : FileTree} (sound : t.Sound) {loc : Location} {e : Entry}
    (found : t.get? loc = some e) : loc.length ≤ t.entries.length := by
  -- the non-empty beginnings of a location are all listed, and no two of them are the same
  let fronts := (List.range loc.length).map fun i => loc.take (i + 1)
  have nodup : fronts.Nodup := by
    refine List.Nodup.map_on ?_ List.nodup_range
    intro i hi j hj same
    have lengths := congrArg List.length same
    simp only [List.mem_range] at hi hj
    simp only [List.length_take] at lengths
    omega
  have listed : fronts ⊆ t.entries.map (·.1) := by
    intro front member
    obtain ⟨i, hi, rfl⟩ := List.mem_map.mp member
    have bound : i < loc.length := List.mem_range.mp hi
    rw [← List.take_append_getElem bound, mem_keys, List.take_append_getElem bound]
    by_cases last : i + 1 = loc.length
    · simp [last, found]
    · have rest : loc.drop (i + 1) ≠ [] := by
        intro none
        have := List.drop_eq_nil_iff.mp none
        omega
      rw [← List.take_append_drop (i + 1) loc] at found
      obtain ⟨modified, here⟩ := sound.directory_above rest found
      simp [here]
  have := nodup.length_le_of_subset listed
  simpa [fronts] using this

@[simp] theorem now_put (t : FileTree) (loc : Location) (e : Entry) :
    (t.put loc e).now = t.now := by
  unfold put
  split <;> rfl

theorem keys_put (t : FileTree) (loc : Location) (e : Entry) :
    (t.put loc e).entries.map (·.1) =
      if (t.entries.lookup loc).isSome then t.entries.map (·.1)
      else t.entries.map (·.1) ++ [loc] := by
  unfold put
  split
  · simp only [List.map_map]
    apply List.map_congr_left
    intro pair _
    by_cases here : pair.1 = loc <;> simp [here]
  · simp

theorem Sound.put {t : FileTree} (sound : t.Sound) {loc : Location} {e : Entry} (below : loc ≠ [])
    (house : t.DirectoryAt loc.dropLast) (keeps : t.DirectoryAt loc → e.isDirectory = true) :
    (t.put loc e).Sound where
  distinct := by
    rw [keys_put]
    split
    · exact sound.distinct
    · rename_i missing
      refine List.nodup_append'.mpr ⟨sound.distinct, List.nodup_singleton loc, ?_⟩
      intro p listed here
      rw [List.mem_singleton] at here
      subst here
      exact missing (by simpa [List.lookup_isSome_iff] using listed)
  housed := by
    intro front n e' found
    rw [get?_put t loc _ e below] at found
    unfold DirectoryAt
    rw [get?_put t loc _ e below]
    by_cases here : front ++ [n] = loc
    · have above : front ≠ loc := by
        intro same
        have := congrArg List.length (here.trans same.symm)
        simp at this
      rw [← here, List.dropLast_concat] at house
      simpa [above, DirectoryAt] using house
    · rw [if_neg here] at found
      have house' := sound.housed found
      by_cases same : front = loc
      · subst same
        have directory := keeps house'
        cases e <;> simp [Entry.isDirectory] at directory ⊢
      · simpa [same, DirectoryAt] using house'

/-- How a tree changes when directories are made, and files are written at some of the given
locations: all that is written carries the present time. -/
structure Grown (files : Location → Prop) (t t' : FileTree) : Prop where
  now : t'.now = t.now
  sound : t'.Sound
  linkFree : t'.LinkFree
  kept : ∀ {loc : Location} {e : Entry}, t.get? loc = some e →
    t'.get? loc = some e ∨
      (e.isDirectory = true ∧ t'.get? loc = some (.directory t.now)) ∨
      (files loc ∧ (∃ old m, e = .file old m) ∧ ∃ content, t'.get? loc = some (.file content t.now))
  new : ∀ {loc : Location} {e : Entry}, t'.get? loc = some e →
    t.get? loc = some e ∨ e = .directory t.now ∨
      (files loc ∧ ∃ content, e = .file content t.now)

namespace Grown

theorem refl {t : FileTree} (sound : t.Sound) (linkFree : t.LinkFree) (files : Location → Prop) :
    Grown files t t :=
  ⟨rfl, sound, linkFree, fun found => Or.inl found, fun found => Or.inl found⟩

theorem trans {files : Location → Prop} {t t' t'' : FileTree} (first : Grown files t t')
    (second : Grown files t' t'') : Grown files t t'' where
  now := second.now.trans first.now
  sound := second.sound
  linkFree := second.linkFree
  kept := by
    intro loc e found
    rcases first.kept found with same | ⟨directory, stamped⟩ | ⟨here, old, content, replaced⟩
    · rcases second.kept same with h | h | h
      · exact Or.inl h
      · exact Or.inr (Or.inl (first.now ▸ h))
      · exact Or.inr (Or.inr (first.now ▸ h))
    · rcases second.kept stamped with h | ⟨_, h⟩ | ⟨_, ⟨_, _, h⟩, _⟩
      · exact Or.inr (Or.inl ⟨directory, h⟩)
      · exact Or.inr (Or.inl ⟨directory, first.now ▸ h⟩)
      · cases h
    · rcases second.kept replaced with h | ⟨h, _⟩ | ⟨_, _, h⟩
      · exact Or.inr (Or.inr ⟨here, old, content, h⟩)
      · simp [Entry.isDirectory] at h
      · exact Or.inr (Or.inr ⟨here, old, first.now ▸ h⟩)
  new := by
    intro loc e found
    rcases second.new found with same | h | h
    · exact first.new same
    · exact Or.inr (Or.inl (first.now ▸ h))
    · exact Or.inr (Or.inr (first.now ▸ h))

theorem mono {files files' : Location → Prop} {t t' : FileTree} (grown : Grown files t t')
    (more : ∀ loc, files loc → files' loc) : Grown files' t t' where
  now := grown.now
  sound := grown.sound
  linkFree := grown.linkFree
  kept := by
    intro loc e found
    rcases grown.kept found with h | h | ⟨here, h⟩
    · exact Or.inl h
    · exact Or.inr (Or.inl h)
    · exact Or.inr (Or.inr ⟨more loc here, h⟩)
  new := by
    intro loc e found
    rcases grown.new found with h | h | ⟨here, h⟩
    · exact Or.inl h
    · exact Or.inr (Or.inl h)
    · exact Or.inr (Or.inr ⟨more loc here, h⟩)

variable {files : Location → Prop} {t t' : FileTree}

theorem directory (grown : Grown files t t') {loc : Location} (found : t.DirectoryAt loc) :
    t'.DirectoryAt loc := by
  obtain ⟨m, found⟩ := found
  rcases grown.kept found with h | ⟨_, h⟩ | ⟨_, ⟨_, _, h⟩, _⟩
  · exact ⟨m, h⟩
  · exact ⟨t.now, h⟩
  · cases h

theorem file_iff (grown : Grown files t t') {loc : Location} (away : ¬ files loc) {e : Entry}
    (file : e.isFile = true) : t'.get? loc = some e ↔ t.get? loc = some e := by
  constructor
  · intro found
    rcases grown.new found with h | h | ⟨here, _⟩
    · exact h
    · simp [h, Entry.isFile] at file
    · exact absurd here away
  · intro found
    rcases grown.kept found with h | ⟨directory, _⟩ | ⟨here, _⟩
    · exact h
    · cases e <;> simp [Entry.isFile, Entry.isDirectory] at file directory
    · exact absurd here away

theorem unreadable_iff (grown : Grown files t t') {loc : Location} {m : Nat} :
    t'.get? loc = some (.unreadable m) ↔ t.get? loc = some (.unreadable m) := by
  constructor
  · intro found
    rcases grown.new found with h | h | ⟨_, _, h⟩
    · exact h
    · cases h
    · cases h
  · intro found
    rcases grown.kept found with h | ⟨h, _⟩ | ⟨_, ⟨_, _, h⟩, _⟩
    · exact h
    · simp [Entry.isDirectory] at h
    · cases h

end Grown

theorem grown_put {t : FileTree} (sound : t.Sound) (linkFree : t.LinkFree)
    {files : Location → Prop} {loc : Location} {e : Entry} (below : loc ≠ [])
    (house : t.DirectoryAt loc.dropLast)
    (fits : e = .directory t.now ∧ (t.get? loc = none ∨ t.DirectoryAt loc) ∨
      (files loc ∧ (∃ content, e = .file content t.now) ∧
        (t.get? loc = none ∨ ∃ old m, t.get? loc = some (.file old m)))) :
    Grown files t (t.put loc e) where
  now := now_put t loc e
  sound := by
    refine sound.put below house ?_
    intro ⟨m, directory⟩
    rcases fits with ⟨rfl, _⟩ | ⟨_, _, none | ⟨old, m', file⟩⟩
    · rfl
    · simp [none] at directory
    · simp [file] at directory
  linkFree := by
    intro other target found
    rw [get?_put t loc other e below] at found
    split at found
    · rcases fits with ⟨rfl, _⟩ | ⟨_, ⟨_, rfl⟩, _⟩ <;> simp at found
    · exact linkFree other target found
  kept := by
    intro other old found
    rw [get?_put t loc other e below]
    by_cases here : other = loc
    · subst here
      rw [if_pos rfl]
      rcases fits with
        ⟨rfl, none | ⟨m, directory⟩⟩ | ⟨at_loc, ⟨content, rfl⟩, none | ⟨before, m, file⟩⟩
      · simp [none] at found
      · rw [found] at directory
        cases directory
        exact Or.inr (Or.inl ⟨rfl, rfl⟩)
      · simp [none] at found
      · rw [found] at file
        cases file
        exact Or.inr (Or.inr ⟨at_loc, ⟨_, _, rfl⟩, _, rfl⟩)
    · rw [if_neg here]
      exact Or.inl found
  new := by
    intro other fresh found
    rw [get?_put t loc other e below] at found
    split at found
    · rename_i here
      subst here
      cases found
      rcases fits with ⟨h, _⟩ | ⟨at_loc, h, _⟩
      · exact Or.inr (Or.inl h)
      · exact Or.inr (Or.inr ⟨at_loc, h⟩)
    · exact Or.inl found

theorem grown_stamp {t : FileTree} (sound : t.Sound) (linkFree : t.LinkFree)
    (files : Location → Prop) (loc : Location) : Grown files t (t.stamp loc) := by
  unfold stamp
  split
  · rename_i m found
    split
    · exact .refl sound linkFree files
    · rename_i below
      refine grown_put sound linkFree below ?_ (Or.inl ⟨rfl, Or.inr ⟨m, found⟩⟩)
      rw [← List.dropLast_concat_getLast below] at found
      exact sound.housed found
  · exact .refl sound linkFree files

theorem grown_add {t : FileTree} (sound : t.Sound) (linkFree : t.LinkFree)
    {files : Location → Prop} {loc : Location} {e : Entry} (below : loc ≠ [])
    (house : t.DirectoryAt loc.dropLast)
    (fits : e = .directory t.now ∧ (t.get? loc = none ∨ t.DirectoryAt loc) ∨
      (files loc ∧ (∃ content, e = .file content t.now) ∧
        (t.get? loc = none ∨ ∃ old m, t.get? loc = some (.file old m)))) :
    Grown files t (t.add loc e) := by
  have grown := grown_put sound linkFree below house fits
  unfold add
  split
  · exact grown
  · exact grown.trans (grown_stamp grown.sound grown.linkFree files _)

theorem get?_stamp_of_ne (t : FileTree) {loc other : Location} (apart : other ≠ loc) :
    (t.stamp loc).get? other = t.get? other := by
  unfold stamp
  split
  · split
    · rfl
    · rename_i below
      rw [get?_put t loc other _ below, if_neg apart]
  · rfl

theorem get?_add_self (t : FileTree) {loc : Location} (e : Entry) (below : loc ≠ []) :
    (t.add loc e).get? loc = some e := by
  have apart : loc ≠ loc.dropLast := by
    intro same
    have := congrArg List.length same
    have := List.length_pos_iff.mpr below
    simp at *
    omega
  unfold add
  split
  · rw [get?_put t loc loc e below, if_pos rfl]
  · rw [get?_stamp_of_ne _ apart, get?_put t loc loc e below, if_pos rfl]

end FileTree
end PodSite
