import PodSite.Proofs.Files.Access

/-!
Writing files and making directories in trees without links. Whatever the outcome, only the file
written changes, and directories are added; a write that succeeds leaves the content there.
-/
namespace PodSite.FileTree

/-- The location holds the content, as far as it can: an unreadable file takes only nothing. -/
def Holds (t : FileTree) (loc : Location) (content : Bytes) : Prop :=
  (∃ m, t.get? loc = some (.file content m)) ∨
    (content = [] ∧ ∃ m, t.get? loc = some (.unreadable m))

theorem holds_outside {t t' : FileTree} {files : Location → Prop} (grown : Grown files t t')
    {loc : Location} (away : ¬ files loc) {content : Bytes} (holds : t.Holds loc content) :
    t'.Holds loc content := by
  rcases holds with ⟨m, file⟩ | ⟨empty, m, unreadable⟩
  · exact Or.inl ⟨m, (grown.file_iff away rfl).mpr file⟩
  · exact Or.inr ⟨empty, m, grown.unreadable_iff.mpr unreadable⟩

section Writing
variable {t : FileTree} (sound : t.Sound) (linkFree : t.LinkFree)
include sound

theorem reaches_house {names : Location} (below : names ≠ []) (reaches : t.Reaches true [] names) :
    t.DirectoryAt names.dropLast := by
  rcases reaches with there | ⟨_, _, above⟩
  · obtain ⟨e, there⟩ := Option.isSome_iff_exists.mp there
    rw [List.nil_append, ← List.dropLast_concat_getLast below] at there
    exact sound.housed there
  · exact above

include linkFree

/-- What a write does, by what stands at its place. -/
theorem write_cases (names : Location) (content : Bytes) :
    ((t.write (Path.absolute names) content).1 = t ∧
        ∃ cause, (t.write (Path.absolute names) content).2 = .error cause) ∨
      (Addressable names ∧ content = [] ∧ (∃ m, t.get? names = some (.unreadable m)) ∧
        t.write (Path.absolute names) content = (t, .ok ())) ∨
      (Addressable names ∧ names ≠ [] ∧ t.DirectoryAt names.dropLast ∧
        (t.get? names = none ∨ ∃ old m, t.get? names = some (.file old m)) ∧
        t.write (Path.absolute names) content =
          (t.add names (.file content t.now), .ok ())) := by
  unfold write
  cases place : t.locateNew [] (Path.absolute names) with
  | error cause => exact Or.inl ⟨rfl, cause, rfl⟩
  | ok loc =>
    obtain ⟨rfl, addressable, reaches⟩ := (locateNew_absolute sound linkFree names loc).mp place
    have root : loc = [] → ∃ m, t.get? loc = some (.directory m) := by
      intro top
      subst top
      exact t.root_directory
    dsimp only
    cases here : t.get? loc with
    | none =>
      have below : loc ≠ [] := fun top => by simp [here] at root; exact root top
      exact Or.inr (Or.inr ⟨addressable, below, reaches_house sound below reaches, Or.inl rfl, rfl⟩)
    | some e =>
      cases e with
      | directory m => exact Or.inl ⟨rfl, .isADirectory, rfl⟩
      | link target => exact absurd here (linkFree loc target)
      | unreadable m =>
        by_cases empty : content = []
        · exact Or.inr (Or.inl ⟨addressable, empty, ⟨m, rfl⟩, by simp [empty]⟩)
        · exact Or.inl (by simp [empty])
      | file old m =>
        have below : loc ≠ [] := fun top => by simp [here] at root; exact root top
        exact Or.inr (Or.inr ⟨addressable, below, reaches_house sound below reaches,
          Or.inr ⟨old, m, rfl⟩, rfl⟩)

theorem grown_write (names : Location) (content : Bytes) :
    Grown (· = names) t (t.write (Path.absolute names) content).1 := by
  rcases write_cases sound linkFree names content with
    ⟨same, _⟩ | ⟨_, _, _, done⟩ | ⟨_, below, house, old, done⟩
  · rw [same]
    exact .refl sound linkFree _
  · rw [done]
    exact .refl sound linkFree _
  · rw [done]
    exact grown_add sound linkFree below house (Or.inr ⟨rfl, ⟨content, rfl⟩, old⟩)

/-- After a write that succeeds its place holds the content, from the present time unless it cannot
be read. -/
theorem write_ok {t' : FileTree} {names : Location} {content : Bytes} {u : Unit}
    (done : t.write (Path.absolute names) content = (t', .ok u)) :
    Addressable names ∧ t'.Holds names content ∧
      (t'.get? names = some (.file content t.now) ∨
        ∃ m, t.get? names = some (.unreadable m) ∧ t' = t) := by
  rcases write_cases sound linkFree names content with
    ⟨_, cause, failed⟩ | ⟨addressable, empty, ⟨m, here⟩, same⟩ | ⟨addressable, below, _, _, added⟩
  · simp [done] at failed
  · rw [done] at same
    cases same
    exact ⟨addressable, Or.inr ⟨empty, m, here⟩, Or.inr ⟨m, here, rfl⟩⟩
  · rw [done] at added
    cases added
    have here := get?_add_self t (.file content t.now) below
    exact ⟨addressable, Or.inl ⟨_, here⟩, Or.inl here⟩

end Writing

section Directories

/-- Making directories leaves every file as it is. -/
theorem grown_makeDirectoriesFrom (files : Location → Prop) (p : Path) {t : FileTree}
    (sound : t.Sound) (linkFree : t.LinkFree) {loc : Location} (inside : t.DirectoryAt loc) :
    Grown files t (t.makeDirectoriesFrom loc p).1 := by
  induction p generalizing t loc with
  | nil => exact .refl sound linkFree files
  | cons step rest ih =>
    cases step with
    | root => exact ih sound linkFree t.root_directory
    | current => exact ih sound linkFree inside
    | parent =>
      refine ih sound linkFree ?_
      by_cases top : loc = []
      · subst top
        exact t.root_directory
      · obtain ⟨m, here⟩ := inside
        rw [← List.dropLast_concat_getLast top] at here
        exact sound.housed here
    | name n =>
      rw [makeDirectoriesFrom]
      by_cases long : maxName < Text.byteCount n
      · rw [if_pos long]
        exact .refl sound linkFree files
      rw [if_neg long]
      cases here : t.get? (loc ++ [n]) with
      | none =>
        have added : Grown files t (t.add (loc ++ [n]) (.directory t.now)) :=
          grown_add sound linkFree (by simp) (by simpa using inside) (Or.inl ⟨rfl, Or.inl here⟩)
        have made := get?_add_self t (.directory t.now) (by simp : loc ++ [n] ≠ [])
        exact added.trans (ih added.sound added.linkFree ⟨_, made⟩)
      | some e =>
        cases e with
        | directory m => exact ih sound linkFree ⟨m, here⟩
        | file content m => exact .refl sound linkFree files
        | unreadable m => exact .refl sound linkFree files
        | link target => exact absurd here (linkFree _ target)

theorem makeDirectoriesFrom_ok (names : List Text) {t t' : FileTree} (sound : t.Sound)
    (linkFree : t.LinkFree) {loc : Location} (inside : t.DirectoryAt loc) {u : Unit}
    (done : t.makeDirectoriesFrom loc (Path.ofNames names) = (t', .ok u)) :
    (∀ n ∈ names, Text.byteCount n ≤ maxName) ∧ t'.DirectoryAt (loc ++ names) := by
  induction names generalizing t loc with
  | nil =>
    simp only [Path.ofNames, List.map_nil, makeDirectoriesFrom, Prod.mk.injEq] at done
    obtain ⟨rfl, _⟩ := done
    exact ⟨by simp, by simpa using inside⟩
  | cons n rest ih =>
    have path : Path.ofNames (n :: rest) = .name n :: Path.ofNames rest := rfl
    have split : loc ++ n :: rest = (loc ++ [n]) ++ rest := by simp
    rw [path, makeDirectoriesFrom] at done
    by_cases long : maxName < Text.byteCount n
    · simp [if_pos long] at done
    rw [if_neg long] at done
    have first := Nat.le_of_not_lt long
    rw [split, List.forall_mem_cons]
    cases here : t.get? (loc ++ [n]) with
    | none =>
      rw [here] at done
      have added : Grown (fun _ => False) t (t.add (loc ++ [n]) (.directory t.now)) :=
        grown_add sound linkFree (by simp) (by simpa using inside) (Or.inl ⟨rfl, Or.inl here⟩)
      have made := get?_add_self t (.directory t.now) (by simp : loc ++ [n] ≠ [])
      have next := ih added.sound added.linkFree ⟨_, made⟩ done
      exact ⟨⟨first, next.1⟩, next.2⟩
    | some e =>
      rw [here] at done
      cases e with
      | directory m =>
        have next := ih sound linkFree ⟨m, here⟩ done
        exact ⟨⟨first, next.1⟩, next.2⟩
      | file content m => simp at done
      | unreadable m => simp at done
      | link target => exact absurd here (linkFree _ target)

theorem makeDirectoriesFrom_existing {t : FileTree} (sound : t.Sound) (names : List Text)
    (loc : Location) (short : ∀ n ∈ names, Text.byteCount n ≤ maxName)
    (there : t.DirectoryAt (loc ++ names)) :
    t.makeDirectoriesFrom loc (Path.ofNames names) = (t, .ok ()) := by
  induction names generalizing loc with
  | nil => rfl
  | cons n rest ih =>
    have path : Path.ofNames (n :: rest) = .name n :: Path.ofNames rest := rfl
    have split : loc ++ n :: rest = (loc ++ [n]) ++ rest := by simp
    rw [split] at there
    have here : t.DirectoryAt (loc ++ [n]) := by
      by_cases last : rest = []
      · simpa [last] using there
      · obtain ⟨m, there⟩ := there
        exact sound.directory_above last there
    have next := ih (loc ++ [n]) (fun m later => short m (List.mem_cons_of_mem n later)) there
    obtain ⟨m, here⟩ := here
    rw [path, makeDirectoriesFrom, if_neg (Nat.not_lt.mpr (short n (by simp))), here]
    exact next

theorem grown_makeDirectories (files : Location → Prop) (p : Path) {t : FileTree}
    (sound : t.Sound) (linkFree : t.LinkFree) : Grown files t (t.makeDirectories p).1 := by
  unfold makeDirectories
  split
  · exact .refl sound linkFree files
  · exact grown_makeDirectoriesFrom files p sound linkFree t.root_directory

theorem makeDirectories_ok {t t' : FileTree} (sound : t.Sound) (linkFree : t.LinkFree)
    {names : Location} {u : Unit} (done : t.makeDirectories (Path.absolute names) = (t', .ok u)) :
    Addressable names ∧ t'.DirectoryAt names := by
  unfold makeDirectories at done
  unfold Addressable
  cases check : checkPath (Path.absolute names) with
  | error e => simp [check] at done
  | ok v =>
    rw [check] at done
    have made := makeDirectoriesFrom_ok names sound linkFree t.root_directory done
    exact ⟨⟨rfl, made.1⟩, made.2⟩

theorem makeDirectories_existing {t : FileTree} (sound : t.Sound) {names : Location}
    (addressable : Addressable names) (there : t.DirectoryAt names) :
    t.makeDirectories (Path.absolute names) = (t, .ok ()) := by
  unfold makeDirectories
  rw [addressable.1]
  exact makeDirectoriesFrom_existing sound names [] addressable.2 there

end Directories
end PodSite.FileTree
