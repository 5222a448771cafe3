import PodSite.Proofs.Files.Sound

/-!
Absolute paths in trees without links. A path of names leads to the location with those names, so
reading and writing come down to what stands there.
-/
namespace PodSite.FileTree

def Addressable (names : Location) : Prop :=
  checkPath (Path.absolute names) = .ok () ∧ ∀ n ∈ names, Text.byteCount n ≤ maxName

/-- Something stands at the names below `loc`, or could be created there. -/
def Reaches (t : FileTree) (create : Bool) (loc names : Location) : Prop :=
  (t.get? (loc ++ names)).isSome ∨
    (create = true ∧ names ≠ [] ∧ t.DirectoryAt (loc ++ names).dropLast)

section Following
variable {t : FileTree}

theorem reaches_inside (sound : t.Sound) {create : Bool} {loc rest : Location} {n : Text}
    (reaches : t.Reaches create loc (n :: rest)) : t.DirectoryAt loc := by
  rcases reaches with there | ⟨_, _, above⟩
  · obtain ⟨e, there⟩ := Option.isSome_iff_exists.mp there
    exact sound.directory_above (by simp) there
  · rw [List.dropLast_append_of_ne_nil (by simp)] at above
    by_cases last : rest = []
    · simpa [last] using above
    · obtain ⟨m, above⟩ := above
      refine sound.directory_above ?_ above
      rw [List.dropLast_cons_of_ne_nil last]
      simp

theorem reaches_missing (sound : t.Sound) {create : Bool} {loc rest : Location} {n : Text}
    (missing : t.get? (loc ++ [n]) = none) (reaches : t.Reaches create loc (n :: rest)) :
    create = true ∧ rest = [] := by
  have split : loc ++ n :: rest = (loc ++ [n]) ++ rest := by simp
  have last : rest = [] := by
    cases rest with
    | nil => rfl
    | cons m more =>
      have further : t.Reaches create (loc ++ [n]) (m :: more) := by
        rcases reaches with there | ⟨creates, _, above⟩
        · exact Or.inl (split ▸ there)
        · exact Or.inr ⟨creates, by simp, split ▸ above⟩
      obtain ⟨time, directory⟩ := reaches_inside sound further
      simp [missing] at directory
  subst last
  rcases reaches with there | ⟨creates, _⟩
  · simp [missing] at there
  · exact ⟨creates, rfl⟩

theorem reaches_step {create : Bool} {loc rest : Location} {n : Text}
    (here : (t.get? (loc ++ [n])).isSome) :
    t.Reaches create loc (n :: rest) ↔ t.Reaches create (loc ++ [n]) rest := by
  have split : loc ++ n :: rest = (loc ++ [n]) ++ rest := by simp
  unfold Reaches
  rw [split]
  by_cases last : rest = []
  · simp [last, here]
  · simp [last]

/-- Following names in a tree without links goes down name by name. -/
theorem followWith_names (sound : t.Sound) (linkFree : t.LinkFree) (create : Bool)
    (onLink : Location → Text → Path → Except FileError Location) (names : List Text)
    (loc found : Location) (start : (t.get? loc).isSome) :
    t.followWith create onLink loc (Path.ofNames names) = .ok found ↔
      found = loc ++ names ∧ (∀ n ∈ names, Text.byteCount n ≤ maxName) ∧
        t.Reaches create loc names := by
  induction names generalizing loc with
  | nil =>
    simp only [Path.ofNames, List.map_nil, followWith, Except.ok.injEq, List.append_nil]
    constructor
    · intro here
      exact ⟨here.symm, by simp, Or.inl (by simpa using start)⟩
    · intro ⟨here, _⟩
      exact here.symm
  | cons n rest ih =>
    have path : Path.ofNames (n :: rest) = .name n :: Path.ofNames rest := rfl
    rw [path, followWith]
    by_cases inside : t.DirectoryAt loc
    swap
    · rw [if_neg (by rwa [directory_any])]
      simp only [reduceCtorEq, false_iff]
      intro ⟨_, _, reaches⟩
      exact inside (reaches_inside sound reaches)
    rw [if_pos (directory_any.mpr inside)]
    by_cases long : maxName < Text.byteCount n
    · simp only [if_pos long, reduceCtorEq, false_iff]
      intro ⟨_, short, _⟩
      have := short n (by simp)
      omega
    rw [if_neg long]
    -- a missing name ends the way, if it may be created; what is there is no link
    cases here : t.get? (loc ++ [n]) with
    | none =>
      constructor
      · intro made
        simp only at made
        split at made
        · rename_i last
          simp only [Bool.and_eq_true, List.isEmpty_iff, Path.ofNames, List.map_eq_nil_iff] at last
          cases made
          refine ⟨by simp [last.2], by simpa [last.2] using long, Or.inr ⟨last.1, by simp, ?_⟩⟩
          simpa [last.2] using inside
        · cases made
      · intro ⟨at_end, _, reaches⟩
        obtain ⟨creates, last⟩ := reaches_missing sound here reaches
        simp [at_end, last, creates, Path.ofNames]
    | some e =>
      have next := ih (loc ++ [n]) (by simp [here])
      have goal : t.followWith create onLink (loc ++ [n]) (Path.ofNames rest) = .ok found ↔
          found = loc ++ n :: rest ∧ (∀ n' ∈ n :: rest, Text.byteCount n' ≤ maxName) ∧
            t.Reaches create loc (n :: rest) := by
        rw [next, reaches_step (by simp [here]), List.append_assoc, List.singleton_append,
          List.forall_mem_cons]
        simp only [Nat.le_of_not_lt long, true_and]
      cases e with
      | link target => exact absurd here (linkFree _ target)
      | file content m => exact goal
      | directory m => exact goal
      | unreadable m => exact goal

/-- A path that is followed to its end leads to something that exists, links or not. -/
theorem followWith_exists (sound : t.Sound)
    (onLink : Location → Text → Path → Except FileError Location)
    (after : ∀ {loc target rest found}, (t.get? loc).isSome →
      onLink loc target rest = .ok found → (t.get? found).isSome)
    (p : Path) {loc found : Location} (start : (t.get? loc).isSome)
    (done : t.followWith false onLink loc p = .ok found) : (t.get? found).isSome := by
  induction p generalizing loc with
  | nil =>
    simp only [followWith, Except.ok.injEq] at done
    exact done ▸ start
  | cons part rest ih =>
    cases part with
    | root =>
      rw [followWith] at done
      exact ih (by simp [get?]) done
    | current =>
      rw [followWith] at done
      split at done
      · exact ih start done
      · cases done
    | parent =>
      rw [followWith] at done
      split at done
      · refine ih ?_ done
        by_cases top : loc = []
        · simp [top, get?]
        · obtain ⟨e, there⟩ := Option.isSome_iff_exists.mp start
          rw [← List.dropLast_concat_getLast top] at there
          obtain ⟨m, above⟩ := sound.housed there
          simp [above]
      · cases done
    | name n =>
      rw [followWith] at done
      split at done
      · split at done
        · cases done
        · split at done
          · simp at done
          · exact after start done
          · rename_i here
            exact ih (by simp [here]) done
      · cases done

theorem follow_exists (sound : t.Sound) (links : Nat) (p : Path) {loc found : Location}
    (start : (t.get? loc).isSome) (done : t.follow false links loc p = .ok found) :
    (t.get? found).isSome := by
  induction links generalizing loc p found with
  | zero =>
    refine followWith_exists sound _ ?_ p start done
    intro _ _ _ _ _ failed
    cases failed
  | succ links ih =>
    refine followWith_exists sound _ ?_ p start done
    intro _ _ _ _ inside further
    exact ih _ inside further

theorem locate_exists (sound : t.Sound) {p : Path} {loc : Location}
    (done : t.locate [] p = .ok loc) : (t.get? loc).isSome := by
  unfold locate at done
  split at done
  · cases done
  · cases check : checkPath p with
    | error cause => simp [check, bind, Except.bind] at done
    | ok _ =>
      simp only [check, bind, Except.bind] at done
      exact follow_exists sound maxLinks p (by simp [get?]) done

variable (sound : t.Sound) (linkFree : t.LinkFree)
include sound linkFree

theorem follow_absolute (create : Bool) (links : Nat) (names found : Location) :
    t.follow create links [] (Path.absolute names) = .ok found ↔
      found = names ∧ (∀ n ∈ names, Text.byteCount n ≤ maxName) ∧ t.Reaches create [] names := by
  have start : (t.get? []).isSome := by simp [get?]
  cases links with
  | zero =>
    rw [follow, Path.absolute, followWith, followWith_names sound linkFree _ _ _ _ _ start]
    simp
  | succ links =>
    rw [follow, Path.absolute, followWith, followWith_names sound linkFree _ _ _ _ _ start]
    simp

theorem locate_absolute (names found : Location) :
    t.locate [] (Path.absolute names) = .ok found ↔
      found = names ∧ Addressable names ∧ (t.get? names).isSome := by
  have follows := follow_absolute sound linkFree false maxLinks names found
  unfold locate Addressable
  rw [if_neg (by simp [Path.absolute])]
  cases checkPath (Path.absolute names) with
  | error e => simp [bind, Except.bind]
  | ok _ => simpa [bind, Except.bind, Reaches] using follows

theorem locateNew_absolute (names found : Location) :
    t.locateNew [] (Path.absolute names) = .ok found ↔
      found = names ∧ Addressable names ∧ t.Reaches true [] names := by
  have follows := follow_absolute sound linkFree true maxLinks names found
  unfold locateNew Addressable
  rw [if_neg (by simp [Path.absolute])]
  cases checkPath (Path.absolute names) with
  | error e => simp [bind, Except.bind]
  | ok _ => simpa [bind, Except.bind] using follows

theorem entryAt_absolute (names : Location) (e : Entry) :
    t.entryAt [] (Path.absolute names) = .ok e ↔ Addressable names ∧ t.get? names = some e := by
  unfold entryAt
  cases found : t.locate [] (Path.absolute names) with
  | error cause =>
    simp only [bind, Except.bind, reduceCtorEq, false_iff]
    intro ⟨addressable, here⟩
    have := (locate_absolute sound linkFree names names).mpr ⟨rfl, addressable, by simp [here]⟩
    simp [this] at found
  | ok loc =>
    obtain ⟨rfl, addressable, there⟩ := (locate_absolute sound linkFree names loc).mp found
    obtain ⟨e', here⟩ := Option.isSome_iff_exists.mp there
    simp [bind, Except.bind, here, addressable]

theorem isDirectory_absolute (names : Location) :
    t.isDirectory [] (Path.absolute names) = true ↔ Addressable names ∧ t.DirectoryAt names := by
  have entry := entryAt_absolute sound linkFree names
  unfold isDirectory
  cases found : t.entryAt [] (Path.absolute names) with
  | error cause =>
    simp only [Bool.false_eq_true, false_iff]
    intro ⟨addressable, m, directory⟩
    simp [(entry _).mpr ⟨addressable, directory⟩] at found
  | ok e =>
    obtain ⟨addressable, here⟩ := (entry e).mp found
    rw [← directory_any, here]
    simp [addressable]

theorem modified?_absolute (names : Location) (m : Nat) :
    t.modified? (Path.absolute names) = some m ↔
      Addressable names ∧ ∃ e, t.get? names = some e ∧ e.modified? = some m := by
  have entry := entryAt_absolute sound linkFree names
  unfold modified?
  cases found : t.entryAt [] (Path.absolute names) with
  | error cause =>
    simp only [reduceCtorEq, false_iff]
    intro ⟨addressable, e, here, _⟩
    simp [(entry _).mpr ⟨addressable, here⟩] at found
  | ok e =>
    obtain ⟨addressable, here⟩ := (entry e).mp found
    simp [addressable, here]

theorem modified?_congr {t' : FileTree} (sound' : t'.Sound) (linkFree' : t'.LinkFree)
    {names : Location} (same : t'.get? names = t.get? names) :
    t'.modified? (Path.absolute names) = t.modified? (Path.absolute names) := by
  apply Option.ext
  intro m
  rw [modified?_absolute sound linkFree, modified?_absolute sound' linkFree', same]

theorem read_absolute (names : Location) (content : Bytes) :
    t.read [] (Path.absolute names) = .ok content ↔
      Addressable names ∧ ∃ m, t.get? names = some (.file content m) := by
  have entry := entryAt_absolute sound linkFree names
  unfold read
  cases found : t.entryAt [] (Path.absolute names) with
  | error cause =>
    simp only [bind, Except.bind, reduceCtorEq, false_iff]
    intro ⟨addressable, m, here⟩
    simp [(entry _).mpr ⟨addressable, here⟩] at found
  | ok e =>
    obtain ⟨addressable, here⟩ := (entry e).mp found
    cases e <;> simp [bind, Except.bind, addressable, here]

end Following
end PodSite.FileTree
