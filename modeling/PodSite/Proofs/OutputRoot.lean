import PodSite.Config
import PodSite.Proofs.Files.Access
import PodSite.Proofs.Path

/-!
The output root of resolved settings. Unless a path goes up, it is a list of names below the root,
and it is written just so.
-/
namespace PodSite

def FileTree.Named (t : FileTree) : Prop :=
  ∀ {loc e}, t.get? loc = some e → ∀ n ∈ loc, n.IsFileName

theorem FileTree.named_of_entries {t : FileTree}
    (valid : ∀ pair ∈ t.entries, ∀ n ∈ pair.1, n.IsFileName) : t.Named := by
  intro loc e found n member
  unfold get? at found
  split at found
  · rename_i top
    simp [top] at member
  · obtain ⟨front, back, whole, _⟩ := List.lookup_eq_some_iff.mp found
    exact valid (loc, e) (by simp [whole]) n member

namespace Config

theorem leadsSomewhere_root (t : FileTree) : t.leadsSomewhere [] (Path.absolute []) = true := by
  simp [FileTree.leadsSomewhere, FileTree.locate, Path.absolute, Path.ofNames, FileTree.checkPath,
    Path.hasZero, Component.spell, Path.spell, Text.byteCount, FileTree.maxPath, FileTree.follow,
    FileTree.maxLinks, FileTree.followWith, bind, Except.bind, show Char.utf8Size '/' = 1 from rfl]

theorem leadsSomewhere_root_dot (t : FileTree) :
    t.leadsSomewhere [] (Path.absolute [] ++ [.current]) = true := by
  simp [FileTree.leadsSomewhere, FileTree.locate, Path.absolute, Path.ofNames,
    FileTree.checkPath, Path.hasZero, Component.spell, Path.spell, Text.byteCount,
    FileTree.maxPath, FileTree.follow, FileTree.maxLinks, FileTree.followWith, bind,
    Except.bind, FileTree.get?, Entry.isDirectory, show Char.utf8Size '/' = 1 from rfl,
    show Char.utf8Size '.' = 1 from rfl]

/-- Below a part that exists, the search for the longest one ends there or further down. -/
theorem existingPart_reaches {t : FileTree} {existing : Path}
    (leads : t.leadsSomewhere [] existing = true) (names missing : List Text) :
    ∃ front rest, names = front ++ rest ∧
      existingPart t missing (existing ++ Path.ofNames names).reverse =
        some (existing ++ Path.ofNames front, rest ++ missing) ∧
      t.leadsSomewhere [] (existing ++ Path.ofNames front) = true := by
  induction names using List.reverseRecOn generalizing missing with
  | nil =>
    refine ⟨[], [], rfl, ?_, by simpa [Path.ofNames] using leads⟩
    cases last : existing.reverse with
    | nil =>
      rw [List.reverse_eq_nil_iff.mp last] at leads
      simp [FileTree.leadsSomewhere, FileTree.locate] at leads
    | cons part front =>
      have whole : (part :: front).reverse = existing := by rw [← last, List.reverse_reverse]
      simp only [Path.ofNames, List.map_nil, List.append_nil, last, existingPart, whole, leads,
        if_true, List.nil_append]
  | append_singleton names n ih =>
    have split : (existing ++ Path.ofNames (names ++ [n])).reverse =
        .name n :: (existing ++ Path.ofNames names).reverse := by
      simp [Path.ofNames]
    rw [split, existingPart, ← split, List.reverse_reverse]
    split
    · rename_i here
      exact ⟨names ++ [n], [], by simp, rfl, here⟩
    · obtain ⟨front, rest, rfl, found, there⟩ := ih (n :: missing)
      exact ⟨front, rest ++ [n], by simp, by simpa using found, there⟩

theorem existingPart_absolute (t : FileTree) (names missing : List Text) :
    ∃ front back, existingPart t missing (Path.absolute names).reverse =
        some (Path.absolute front, back ++ missing) ∧ front ++ back = names := by
  obtain ⟨front, back, rfl, found, _⟩ :=
    existingPart_reaches (leadsSomewhere_root t) names missing
  exact ⟨front, back, found, rfl⟩

theorem existingPart_missing {t : FileTree} {missing : List Text} {parts : List Component}
    {existing : Path} {back : List Text}
    (found : existingPart t missing parts = some (existing, back)) :
    ∀ n ∈ back, n ∈ missing ∨ Component.name n ∈ parts := by
  induction parts generalizing missing with
  | nil => simp [existingPart] at found
  | cons last front ih =>
    by_cases here : t.leadsSomewhere [] (last :: front).reverse = true
    · rw [existingPart.eq_def] at found
      simp only [here, ↓reduceIte, Option.some.injEq, Prod.mk.injEq] at found
      exact fun n member => Or.inl (found.2 ▸ member)
    · rw [existingPart.eq_def] at found
      simp only [here, Bool.false_eq_true, ↓reduceIte] at found
      cases last with
      | name m =>
        intro n member
        rcases ih found n member with listed | there
        · rcases List.mem_cons.mp listed with rfl | listed
          · exact Or.inr (by simp)
          · exact Or.inl listed
        · exact Or.inr (by simp [there])
      | root => cases found
      | current => cases found
      | parent => cases found

section Output
variable (t : FileTree) (p : Path) (slash : Prop) [Decidable slash]

def splitOutput : Option (Path × List Text) :=
  if slash ∧ !t.leadsSomewhere [] (p ++ [.current]) then
    match p.getLast? with
    | some (.name n) => existingPart t [n] p.dropLast.reverse
    | _ => none
  else existingPart t [] p.reverse

theorem outputRootOf_eq (cwd : Location) (written : Text) :
    outputRootOf t cwd written =
      if written.isEmpty then .error .emptyPath
      else
        match splitOutput t (Path.fromDirectory cwd written) (written.getLast? = some '/') with
        | none => .ok (Path.fromDirectory cwd written, Path.absoluteText cwd written)
        | some (existing, missing) => do
          let root := Path.absolute ((← t.locate [] existing) ++ missing)
          return (root, root.spell) := rfl

theorem splitOutput_absolute (names : List Text) :
    (splitOutput t (Path.absolute names) slash).isSome := by
  unfold splitOutput
  split
  · rename_i away
    induction names using List.reverseRecOn with
    | nil => simp [leadsSomewhere_root_dot] at away
    | append_singleton names n ih =>
      have split : Path.absolute (names ++ [n]) = Path.absolute names ++ [.name n] := by
        simp [Path.absolute, Path.ofNames]
      obtain ⟨front, back, found, _⟩ := existingPart_absolute t names [n]
      simp [split, found]
  · obtain ⟨front, back, found, _⟩ := existingPart_absolute t names []
    simp [found]

variable {t p slash}

theorem splitOutput_missing {existing : Path} {back : List Text}
    (found : splitOutput t p slash = some (existing, back)) :
    ∀ n ∈ back, Component.name n ∈ p := by
  unfold splitOutput at found
  intro n member
  split at found
  · split at found
    · rename_i last ends
      rcases existingPart_missing found n member with here | there
      · rw [List.mem_singleton] at here
        exact here ▸ List.mem_of_getLast? ends
      · exact List.dropLast_subset p (List.mem_reverse.mp there)
    · cases found
  · rcases existingPart_missing found n member with here | there
    · simp at here
    · exact List.mem_reverse.mp there

end Output

/-- An output root that does not go up is what is found of its path, with the names that are missing
after it, and it is written as it is. -/
theorem outputRootOf_split {t : FileTree} {cwd : Location} {written spelling : Text} {root : Path}
    (found : outputRootOf t cwd written = .ok (root, spelling))
    (down : Component.parent ∉ root) :
    written ≠ [] ∧ ∃ existing loc missing,
      splitOutput t (Path.fromDirectory cwd written) (written.getLast? = some '/') =
        some (existing, missing) ∧
      t.locate [] existing = .ok loc ∧ root = Path.absolute (loc ++ missing) ∧
      spelling = root.spell := by
  obtain ⟨front, rest, shape, _, goes_on⟩ := Path.fromDirectory_shape cwd written
  rw [outputRootOf_eq] at found
  split at found
  · cases found
  · rename_i full
    refine ⟨by simpa using full, ?_⟩
    split at found
    · -- nothing was found, although a path of names always has a part that exists
      rename_i nothing
      cases found
      rw [shape] at down nothing
      simp only [List.mem_append, not_or] at down
      obtain ⟨names, rfl, _⟩ := Path.ofNames_of_goesOn goes_on down.2
      rw [← Path.absolute_append] at nothing
      have := splitOutput_absolute t (written.getLast? = some '/') (front ++ names)
      simp [nothing] at this
    · rename_i existing missing split
      cases located : t.locate [] existing with
      | error cause => simp [located, bind, Except.bind] at found
      | ok loc =>
        simp only [located, bind, Except.bind, pure, Except.pure, Except.ok.injEq,
          Prod.mk.injEq] at found
        refine ⟨existing, loc, missing, split, located, found.1.symm, ?_⟩
        rw [← found.2, ← found.1]

theorem outputRootOf_spec {t : FileTree} {cwd : Location} {written spelling : Text} {root : Path}
    (found : outputRootOf t cwd written = .ok (root, spelling))
    (down : Component.parent ∉ root) :
    ∃ existing loc missing, t.locate [] existing = .ok loc ∧
      root = Path.absolute (loc ++ missing) ∧ spelling = root.spell ∧
      ∀ n ∈ missing, n ∈ cwd ∨ n.IsFileName := by
  obtain ⟨_, existing, loc, missing, split, located, output, spells⟩ :=
    outputRootOf_split found down
  obtain ⟨front, rest, shape, from_cwd, goes_on⟩ := Path.fromDirectory_shape cwd written
  refine ⟨existing, loc, missing, located, output, spells, ?_⟩
  intro n member
  have listed := splitOutput_missing split n member
  rw [shape, List.mem_append] at listed
  rcases listed with here | there
  · rcases from_cwd with rfl | rfl
    · simp [Path.absolute, Path.ofNames] at here
    · exact Or.inl (by simpa [Path.absolute, Path.ofNames] using here)
  · rcases goes_on _ there with up | ⟨m, same, valid⟩
    · cases up
    · cases same
      exact Or.inr valid

theorem resolve_output {t : FileTree} {cwd : Location} {file : Option Text} {s : Settings}
    {c : Config} (resolved : resolve t cwd file s = .ok c) :
    outputRootOf t cwd (besideFile file s.output) = .ok (c.outputRoot, c.outputSpelling) := by
  unfold resolve at resolved
  simp only [bind, Except.bind] at resolved
  cases found : outputRootOf t cwd (besideFile file s.output) with
  | error cause => simp [found] at resolved
  | ok root =>
    simp only [found] at resolved
    split at resolved
    · cases resolved
    split at resolved
    · cases resolved
    split at resolved
    · cases resolved
      rfl
    · cases resolved

theorem resolve_named {t : FileTree} {cwd : Location} {file : Option Text} {s : Settings}
    {c : Config} (resolved : resolve t cwd file s = .ok c) (down : Component.parent ∉ c.outputRoot)
    (sound : t.Sound) (named : t.Named) (there : t.DirectoryAt cwd) :
    ∃ out, c.outputRoot = Path.absolute out ∧ c.outputSpelling = (Path.absolute out).spell ∧
      ∀ n ∈ out, n.IsFileName := by
  obtain ⟨existing, loc, missing, located, output, spelling, names⟩ :=
    outputRootOf_spec (resolve_output resolved) down
  refine ⟨loc ++ missing, output, output ▸ spelling, ?_⟩
  intro n member
  rcases List.mem_append.mp member with here | absent
  · obtain ⟨e, found⟩ := Option.isSome_iff_exists.mp (FileTree.locate_exists sound located)
    exact named found n here
  · rcases names n absent with in_cwd | valid
    · obtain ⟨m, found⟩ := there
      exact named found n in_cwd
    · exact valid

end Config
end PodSite
