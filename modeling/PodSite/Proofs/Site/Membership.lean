import PodSite.Proofs.Site.Places

/-!
Which documents a project has: one set for each group, in their order, and in it a document for each
relative path that some library root provides. No document is in two sets, nor twice in one.
-/
namespace PodSite

theorem Path.extension?_names (front : Path) {names : List Text} (named : names ≠ []) :
    extension? (front ++ ofNames names) = extension? (ofNames names) := by
  have some : ofNames names ≠ [] := by simpa [ofNames] using named
  rw [extension?, extension?, fileName?, fileName?, List.getLast?_append_of_ne_nil _ some]

theorem Group.owner?_names (groups : List Group) (front : Path) {names : List Text}
    (named : names ≠ []) : owner? groups (front ++ Path.ofNames names) =
      owner? groups (Path.ofNames names) := by
  have owns : (fun g : Group => g.owns (front ++ Path.ofNames names)) =
      fun g => g.owns (Path.ofNames names) := by
    funext g
    rw [Group.owns, Group.owns, Path.extension?_names front named]
  rw [owner?, owner?, owns]

namespace Site
open FileTree

theorem known_subset_addNew (known ds : List Document) : known ⊆ addNew known ds := by
  induction ds generalizing known with
  | nil => exact List.Subset.refl known
  | cons d ds ih =>
    rw [addNew]
    split
    · exact ih known
    · exact List.Subset.trans (List.subset_append_left known [d]) (ih _)

theorem addNew_covers (known ds : List Document) {x : Document} (member : x ∈ ds) :
    ∃ d ∈ addNew known ds, d.relative = x.relative := by
  induction ds generalizing known with
  | nil => simp at member
  | cons d ds ih =>
    rw [addNew]
    rcases List.mem_cons.mp member with rfl | later
    · split
      · rename_i there
        obtain ⟨old, listed, same⟩ := List.any_eq_true.mp there
        exact ⟨old, known_subset_addNew known ds listed, by simpa using same⟩
      · exact ⟨x, known_subset_addNew _ ds (by simp), rfl⟩
    · split
      · exact ih known later
      · exact ih _ later

theorem addNew_distinct (known ds : List Document)
    (distinct : known.Pairwise fun x y => x.relative ≠ y.relative) :
    (addNew known ds).Pairwise fun x y => x.relative ≠ y.relative := by
  induction ds generalizing known with
  | nil => exact distinct
  | cons d ds ih =>
    rw [addNew]
    split
    · exact ih known distinct
    · rename_i new
      refine ih _ (List.pairwise_append.mpr ⟨distinct, List.pairwise_singleton _ d, ?_⟩)
      intro x listed y last
      rw [List.mem_singleton.mp last]
      intro same
      exact new (List.any_eq_true.mpr ⟨x, listed, by simpa using same⟩)

section Sets
variable {t : FileTree} {c : Config}

theorem known_subset_documentsOf {index : Nat} {g : Group} (roots : List Location)
    (known ds : List Document) (found : documentsOf t c index g known roots = .ok ds) :
    known ⊆ ds := by
  induction roots generalizing known with
  | nil =>
    simp only [documentsOf, Except.ok.injEq] at found
    rw [found]
    exact List.Subset.refl ds
  | cons root roots ih =>
    rw [documentsOf] at found
    split at found
    · exact List.Subset.trans (known_subset_addNew known _) (ih _ found)
    · cases found

theorem documentsOf_roots {index : Nat} {g : Group} (roots : List Location)
    (known ds : List Document) (found : documentsOf t c index g known roots = .ok ds) :
    ∀ root ∈ roots, t.isDirectory [] (Path.absolute root) = true := by
  induction roots generalizing known with
  | nil => simp
  | cons root roots ih =>
    rw [documentsOf] at found
    split at found
    · rename_i there
      exact List.forall_mem_cons.mpr ⟨there, ih _ found⟩
    · cases found

theorem documentsOf_covers {index : Nat} {g : Group} (roots : List Location)
    (known ds : List Document) (found : documentsOf t c index g known roots = .ok ds)
    {root : Location} (listed : root ∈ roots) {x : Document}
    (member : x ∈ documentsBelow t c index g root) : ∃ d ∈ ds, d.relative = x.relative := by
  induction roots generalizing known with
  | nil => simp at listed
  | cons first roots ih =>
    rw [documentsOf] at found
    split at found
    · rcases List.mem_cons.mp listed with rfl | later
      · obtain ⟨d, there, same⟩ := addNew_covers known _ member
        exact ⟨d, known_subset_documentsOf roots _ ds found there, same⟩
      · exact ih _ found later
    · cases found

theorem documentsOf_distinct {index : Nat} {g : Group} (roots : List Location)
    (known ds : List Document) (found : documentsOf t c index g known roots = .ok ds)
    (distinct : known.Pairwise fun x y => x.relative ≠ y.relative) :
    ds.Pairwise fun x y => x.relative ≠ y.relative := by
  induction roots generalizing known with
  | nil =>
    simp only [documentsOf, Except.ok.injEq] at found
    rwa [← found]
  | cons root roots ih =>
    rw [documentsOf] at found
    split at found
    · exact ih _ found (addNew_distinct known _ distinct)
    · cases found

theorem mem_discoverFrom_iff (groups : List Group) (index : Nat) (sets : List GroupDocuments)
    (found : discoverFrom t c index groups = .ok sets) (set : GroupDocuments) :
    set ∈ sets ↔ ∃ j, groups[j]? = some set.group ∧ set.index = index + j ∧
      documentsOf t c set.index set.group [] c.libraryRoots = .ok set.documents := by
  induction groups generalizing index sets with
  | nil =>
    simp only [discoverFrom, Except.ok.injEq] at found
    simp [← found]
  | cons g groups ih =>
    obtain ⟨ds, rest, first, later, rfl⟩ := discoverFrom_cons_ok found
    rw [List.mem_cons, ih (index + 1) rest later]
    constructor
    · rintro (rfl | ⟨j, at_j, number, documents⟩)
      · exact ⟨0, rfl, rfl, first⟩
      · exact ⟨j + 1, at_j, by omega, documents⟩
    · rintro ⟨j, at_j, number, documents⟩
      cases j with
      | zero =>
        obtain ⟨i, g', ds'⟩ := set
        simp only [List.getElem?_cons_zero, Option.some.injEq, Nat.add_zero] at at_j number
        subst at_j number
        cases first.symm.trans documents
        exact Or.inl rfl
      | succ j => exact Or.inr ⟨j, by simpa using at_j, by omega, documents⟩

theorem exists_set (groups : List Group) (index : Nat) (sets : List GroupDocuments)
    (found : discoverFrom t c index groups = .ok sets) {j : Nat} {g : Group}
    (at_j : groups[j]? = some g) : ∃ set ∈ sets, set.group = g ∧ set.index = index + j := by
  induction groups generalizing index sets j with
  | nil => simp at at_j
  | cons first groups ih =>
    obtain ⟨ds, rest, _, later, rfl⟩ := discoverFrom_cons_ok found
    cases j with
    | zero =>
      simp only [List.getElem?_cons_zero, Option.some.injEq] at at_j
      exact ⟨⟨index, first, ds⟩, by simp, at_j, rfl⟩
    | succ j =>
      obtain ⟨set, member, group, number⟩ := ih (index + 1) rest later (by simpa using at_j)
      exact ⟨set, List.mem_cons_of_mem _ member, group, by omega⟩

theorem discoverFrom_numbered (groups : List Group) (index : Nat) (sets : List GroupDocuments)
    (found : discoverFrom t c index groups = .ok sets) :
    sets.Pairwise fun s s' => s.index ≠ s'.index := by
  induction groups generalizing index sets with
  | nil =>
    simp only [discoverFrom, Except.ok.injEq] at found
    simp [← found]
  | cons g groups ih =>
    obtain ⟨ds, rest, first, later, rfl⟩ := discoverFrom_cons_ok found
    refine List.pairwise_cons.mpr ⟨?_, ih (index + 1) rest later⟩
    intro set member
    obtain ⟨j, _, number, _⟩ := (mem_discoverFrom_iff groups _ rest later set).mp member
    simp only
    omega

theorem owner_of_relative {sets : List GroupDocuments} (found : discover t c = .ok sets)
    {set : GroupDocuments} (listed : set ∈ sets) {d : Document} (member : d ∈ set.documents) :
    Group.owner? c.groups (Path.ofNames d.relative) = some set.index := by
  obtain ⟨root, _, _, f, _, made⟩ := mem_discover found listed member
  obtain ⟨path, _, _, _, laid, owned⟩ := documentOf?_laid made
  rwa [path, Path.absolute_append, Group.owner?_names _ _ laid.named] at owned

theorem tasks_apart {sets : List GroupDocuments} (found : discover t c = .ok sets) :
    (tasksOf sets).Pairwise fun x y => x.document.relative ≠ y.document.relative := by
  unfold tasksOf
  rw [List.pairwise_flatMap]
  constructor
  · intro set listed
    have documents := mem_discoverFrom c.groups 0 sets found listed
    have distinct := documentsOf_distinct c.libraryRoots [] _ documents .nil
    rw [List.pairwise_map]
    exact distinct
  · refine (discoverFrom_numbered c.groups 0 sets found).imp_of_mem ?_
    intro s s' listed listed' apart x first y second same
    obtain ⟨d, member, rfl⟩ := List.mem_map.mp first
    obtain ⟨d', member', rfl⟩ := List.mem_map.mp second
    have owner := owner_of_relative found listed member
    have owner' := owner_of_relative found listed' member'
    simp only at same
    rw [same, owner'] at owner
    exact apart (Option.some.inj owner).symm

theorem tasks_distinct {sets : List GroupDocuments} (found : discover t c = .ok sets) :
    (tasksOf sets).Pairwise fun x y => x.document ≠ y.document :=
  (tasks_apart found).imp fun apart same => apart (congrArg Document.relative same)

end Sets

theorem mem_references {sets : List GroupDocuments} {name : Text} {page : Path} :
    (name, page) ∈ (referencesOf sets).entries ↔ ∃ task ∈ tasksOf sets,
      task.group.kind.isReferable = true ∧ task.document.name = name ∧
        task.document.output = page := by
  simp only [referencesOf, tasksOf, List.mem_flatMap, List.mem_filter, List.mem_map, Prod.mk.injEq]
  constructor
  · rintro ⟨set, ⟨listed, referable⟩, d, member, named, place⟩
    exact ⟨⟨set.index, set.group, d⟩, ⟨set, listed, d, member, rfl⟩, referable, named, place⟩
  · rintro ⟨_, ⟨set, listed, d, member, rfl⟩, referable, named, place⟩
    exact ⟨set, ⟨listed, referable⟩, d, member, named, place⟩

end Site
end PodSite
