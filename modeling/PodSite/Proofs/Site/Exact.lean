import Mathlib
import PodSite.Proofs.Site.Order
import PodSite.Proofs.Text.Utf8

/-!
Discovery is exact. A path below the library roots has a document if and only if some root provides
it; the document stands in the set of the first group that lists its suffix, and comes from the
first root that provides it. Each set is in the order of the library roots, and for one root in the
order of the names on the way to its files.
-/
namespace PodSite

namespace Group

def FirstFor (groups : List Group) (index : Nat) (g : Group) (names : List Text) : Prop :=
  groups[index]? = some g ∧
    ∃ suffix ∈ g.suffixes, Path.extension? (Path.ofNames names) = some suffix ∧
      ∀ j < index, ∀ other, groups[j]? = some other → suffix ∉ other.suffixes

theorem firstFor_of_owner? {groups : List Group} {index : Nat} {g : Group} {names : List Text}
    (numbered : groups[index]? = some g)
    (owned : owner? groups (Path.ofNames names) = some index) : FirstFor groups index g names := by
  rw [owner?, List.findIdx?_eq_some_iff_getElem] at owned
  obtain ⟨bound, owns, before⟩ := owned
  obtain ⟨_, rfl⟩ := List.getElem?_eq_some_iff.mp numbered
  obtain ⟨suffix, listed, ends⟩ := owns_iff.mp owns
  refine ⟨numbered, suffix, listed, ends, ?_⟩
  intro j earlier other at_j also
  obtain ⟨_, rfl⟩ := List.getElem?_eq_some_iff.mp at_j
  exact before j earlier (owns_iff.mpr ⟨suffix, also, ends⟩)

end Group

namespace FileTree

theorem before_append_iff {loc p q : List Text} : Before (loc ++ p) (loc ++ q) ↔ Before p q := by
  refine ⟨fun order => ?_, before_append⟩
  induction loc with
  | nil => exact order
  | cons n loc ih =>
    have split : List.Lex (fun a b => Text.precedes a b = true ∧ a ≠ b) (n :: (loc ++ p))
      (n :: (loc ++ q)) := order
    rcases List.cons_lex_cons_iff.mp split with ⟨_, different⟩ | ⟨_, further⟩
    · exact absurd rfl different
    · exact ih further

/-- The order of paths by the bytes of the first names in which they differ. -/
def BytesBefore (p q : List Text) : Prop :=
  List.Lex (fun a b => Text.Utf8.encode a < Text.Utf8.encode b) p q

theorem bytesBefore_iff {p q : List Text} : BytesBefore p q ↔ Before p q := by
  unfold BytesBefore Before
  simp only [Text.Utf8.encode_lt_iff]

end FileTree

namespace Site
open FileTree

theorem Provides.named {t : FileTree} {c : Config} {root names : Location}
    (provides : Provides t c root names) : names ≠ [] := by
  rintro rfl
  exact provides.1.apart (List.append_nil root)

section Roots
variable {t : FileTree} {c : Config} {index : Nat} {g : Group}

theorem addNew_eq_append (known ds : List Document) :
    ∃ new, addNew known ds = known ++ new ∧ new.Sublist ds ∧
      ∀ d ∈ new, ∀ x ∈ known, x.relative ≠ d.relative := by
  induction ds generalizing known with
  | nil => exact ⟨[], by simp [addNew], List.Sublist.refl [], by simp⟩
  | cons d ds ih =>
    rw [addNew]
    split
    · obtain ⟨new, whole, part, apart⟩ := ih known
      exact ⟨new, whole, part.cons d, apart⟩
    · rename_i unknown
      obtain ⟨new, whole, part, apart⟩ := ih (known ++ [d])
      refine ⟨d :: new, by simp [whole], part.cons_cons d, ?_⟩
      rintro e (_ | ⟨_, later⟩) x listed same
      · exact unknown (List.any_eq_true.mpr ⟨x, listed, by simpa using same⟩)
      · exact apart e later x (by simp [listed]) same

theorem documentsOf_parts (roots : List Location) (known ds : List Document)
    (found : documentsOf t c index g known roots = .ok ds) :
    ∃ parts : List (List Document), ds = known ++ parts.flatten ∧
      List.Forall₂ (fun root part => part.Sublist (documentsBelow t c index g root))
        roots parts := by
  induction roots generalizing known with
  | nil =>
    simp only [documentsOf, Except.ok.injEq] at found
    exact ⟨[], by simp [found], .nil⟩
  | cons root roots ih =>
    rw [documentsOf] at found
    split at found
    · obtain ⟨new, whole, part, _⟩ := addNew_eq_append known (documentsBelow t c index g root)
      obtain ⟨parts, all, from_roots⟩ := ih _ found
      exact ⟨new :: parts, by simp [all, whole], .cons part from_roots⟩
    · cases found

theorem documentsOf_first (roots : List Location) (known ds : List Document)
    (found : documentsOf t c index g known roots = .ok ds) {d : Document} (member : d ∈ ds) :
    d ∈ known ∨ ((∀ x ∈ known, x.relative ≠ d.relative) ∧
      ∃ (k : Nat) (root : Location), roots[k]? = some root ∧ d ∈ documentsBelow t c index g root ∧
        ∀ j < k, ∀ other, roots[j]? = some other →
          ∀ x ∈ documentsBelow t c index g other, x.relative ≠ d.relative) := by
  induction roots generalizing known with
  | nil =>
    simp only [documentsOf, Except.ok.injEq] at found
    exact Or.inl (found ▸ member)
  | cons root roots ih =>
    rw [documentsOf] at found
    split at found
    swap
    · cases found
    obtain ⟨new, whole, part, apart⟩ := addNew_eq_append known (documentsBelow t c index g root)
    rcases ih _ found with early | ⟨differs, k, other, numbered, below, first⟩
    · rw [whole] at early
      rcases List.mem_append.mp early with old | here
      · exact Or.inl old
      · exact Or.inr ⟨apart d here, 0, root, rfl, part.subset here, by simp⟩
    · refine Or.inr ⟨fun x listed => differs x (known_subset_addNew known _ listed), k + 1, other,
        numbered, below, ?_⟩
      intro j earlier another at_j x listed
      cases j with
      | zero =>
        -- one of this root would be known by the time the later roots are searched
        simp only [List.getElem?_cons_zero, Option.some.injEq] at at_j
        subst at_j
        obtain ⟨y, added, same⟩ := addNew_covers known _ listed
        exact same ▸ differs y added
      | succ j => exact first j (by omega) another at_j x listed

end Roots

section Below
variable {t : FileTree} {c : Config} (sound : t.Sound) (linkFree : t.LinkFree) {index : Nat}
  {g : Group} {root : Location} (there : t.isDirectory [] (Path.absolute root) = true)
include sound linkFree

theorem documentsBelow_sorted :
    (documentsBelow t c index g root).Pairwise fun d e => Before d.relative e.relative := by
  refine List.pairwise_filterMap.mpr ((walk_sorted sound linkFree _ root).imp ?_)
  intro f f' order d made d' made'
  rw [(documentOf?_laid made).1, (documentOf?_laid made').1] at order
  exact before_append_iff.mp order

include there

theorem provides_of_documentsBelow {d : Document}
    (member : d ∈ documentsBelow t c index g root) :
    d.source = Path.absolute (root ++ d.relative) ∧ Provides t c root d.relative := by
  obtain ⟨f, walked, made⟩ := List.mem_filterMap.mp member
  obtain ⟨view, e, here, file, _⟩ := (mem_walk sound linkFree _ there f).mp walked
  obtain ⟨path, source, _, _, _, owned⟩ := documentOf?_laid made
  have included : c.isExcluded (Document.slashed d.relative) = false := by
    obtain ⟨_, m⟩ := f
    simp only at path
    rw [path, documentOf?_eq] at made
    split at made
    · rename_i conditions
      exact conditions.2
    · cases made
  rw [path] at view here owned source
  exact ⟨source, view, ⟨e, here, file⟩, by simp [owned], included⟩

theorem documentsBelow_of_provides {names : Location} (provides : Provides t c root names)
    (owned : Group.owner? c.groups (Path.absolute (root ++ names)) = some index) :
    ∃ d ∈ documentsBelow t c index g root, d.relative = names := by
  obtain ⟨view, ⟨e, here, file⟩, _, included⟩ := id provides
  obtain ⟨m, time⟩ : ∃ m, e.modified? = some m := by
    cases e <;> simp [Entry.isFile, Entry.modified?] at file ⊢
  have walked :=
    (mem_walk sound linkFree _ there ⟨root ++ names, m⟩).mpr ⟨view, e, here, file, time⟩
  obtain ⟨d, made, relative⟩ := Document.ofSource?_below c.outputRoot g root
    provides.named m
  refine ⟨d, List.mem_filterMap.mpr ⟨_, walked, ?_⟩, relative⟩
  rw [documentOf?_eq, if_pos ⟨owned, included⟩, made]

end Below

/-- Documents that come from the library roots one after the other, those of one root in the order
of the bytes of their names. -/
def InRootOrder (roots : List Location) (ds : List Document) : Prop :=
  ∃ parts : List (List Document), ds = parts.flatten ∧
    List.Forall₂ (fun root part =>
      (∀ d ∈ part, d.source = Path.absolute (root ++ d.relative)) ∧
        part.Pairwise fun d e => BytesBefore d.relative e.relative) roots parts

/-- The document is made of the file in the first library root that provides its path. -/
def FromFirstRoot (t : FileTree) (c : Config) (d : Document) : Prop :=
  ∃ (k : Nat) (root : Location), c.libraryRoots[k]? = some root ∧
    d.source = Path.absolute (root ++ d.relative) ∧ Provides t c root d.relative ∧
    ∀ j < k, ∀ other, c.libraryRoots[j]? = some other → ¬ Provides t c other d.relative

section Exact
variable {t : FileTree} {c : Config} {sets : List GroupDocuments} (sound : t.Sound)
  (linkFree : t.LinkFree) (found : discover t c = .ok sets)
include sound linkFree found

theorem set_inRootOrder {set : GroupDocuments} (listed : set ∈ sets) :
    InRootOrder c.libraryRoots set.documents := by
  have documents := mem_discoverFrom c.groups 0 sets found listed
  have there := documentsOf_roots c.libraryRoots [] _ documents
  obtain ⟨parts, whole, from_roots⟩ := documentsOf_parts c.libraryRoots [] _ documents
  refine ⟨parts, by simpa using whole, ?_⟩
  clear whole documents
  generalize c.libraryRoots = roots at there from_roots ⊢
  induction from_roots with
  | nil => exact .nil
  | @cons root part roots parts of_root _ ih =>
    refine .cons ⟨fun d member => ?_, ?_⟩
      (ih fun r listed => there r (List.mem_cons_of_mem _ listed))
    · exact (provides_of_documentsBelow sound linkFree (there root List.mem_cons_self)
        (of_root.subset member)).1
    · refine ((documentsBelow_sorted sound linkFree).sublist of_root).imp ?_
      intro d e order
      exact bytesBefore_iff.mpr order

theorem set_firstRoot {set : GroupDocuments} (listed : set ∈ sets) {d : Document}
    (member : d ∈ set.documents) : FromFirstRoot t c d := by
  have documents := mem_discoverFrom c.groups 0 sets found listed
  have there := documentsOf_roots c.libraryRoots [] _ documents
  rcases documentsOf_first c.libraryRoots [] _ documents member with
    none | ⟨_, k, root, numbered, below, first⟩
  · simp at none
  · obtain ⟨source, provides⟩ := provides_of_documentsBelow sound linkFree
      (there root (List.mem_of_getElem? numbered)) below
    refine ⟨k, root, numbered, source, provides, ?_⟩
    intro j earlier other at_j also
    have owned : Group.owner? c.groups (Path.absolute (other ++ d.relative)) = some set.index := by
      rw [Path.absolute_append, Group.owner?_names _ _ provides.named]
      exact owner_of_relative found listed member
    obtain ⟨x, shown, same⟩ := documentsBelow_of_provides (g := set.group) sound linkFree
      (there other (List.mem_of_getElem? at_j)) also owned
    exact first j earlier other at_j x shown same

theorem exists_of_provides {root names : Location} (listed : root ∈ c.libraryRoots)
    (provides : Provides t c root names) :
    ∃ task ∈ tasksOf sets, task.document.relative = names := by
  obtain ⟨index, owned⟩ := Option.isSome_iff_exists.mp provides.2.2.1
  have bound : index < c.groups.length := (List.findIdx?_eq_some_iff_getElem.mp owned).1
  obtain ⟨set, member, _, number⟩ :=
    exists_set c.groups 0 sets found (List.getElem?_eq_getElem bound)
  have documents := mem_discoverFrom c.groups 0 sets found member
  have there := documentsOf_roots c.libraryRoots [] _ documents root listed
  rw [← Nat.zero_add index, ← number] at owned
  obtain ⟨x, below, relative⟩ :=
    documentsBelow_of_provides (g := set.group) sound linkFree there provides owned
  obtain ⟨d, of_set, same⟩ := documentsOf_covers c.libraryRoots [] _ documents listed below
  exact ⟨⟨set.index, set.group, d⟩, List.mem_flatMap.mpr ⟨set, member, List.mem_map_of_mem of_set⟩,
    same.trans relative⟩

end Exact

section Total
variable {t : FileTree} {c : Config}
  (there : ∀ root ∈ c.libraryRoots, t.isDirectory [] (Path.absolute root) = true)
include there

theorem documentsOf_total (index : Nat) (g : Group) :
    ∃ ds, documentsOf t c index g [] c.libraryRoots = .ok ds := by
  generalize c.libraryRoots = roots at there ⊢
  generalize ([] : List Document) = known
  induction roots generalizing known with
  | nil => exact ⟨known, rfl⟩
  | cons root roots ih =>
    rw [documentsOf, if_pos (there root List.mem_cons_self)]
    exact ih (fun other listed => there other (List.mem_cons_of_mem _ listed)) _

theorem discoverFrom_total (index : Nat) (groups : List Group) :
    ∃ sets, discoverFrom t c index groups = .ok sets := by
  induction groups generalizing index with
  | nil => exact ⟨[], rfl⟩
  | cons g groups ih =>
    obtain ⟨ds, documents⟩ := documentsOf_total there index g
    obtain ⟨sets, rest⟩ := ih (index + 1)
    exact ⟨⟨index, g, ds⟩ :: sets, by simp [discoverFrom, documents, rest, bind, Except.bind, pure,
      Except.pure]⟩

end Total

/-- Discovery succeeds if the library roots are directories. It finds exactly one document for each
path that some root provides, in the set of the first group that lists its suffix and from the first
root that provides it. Each set is in the order of the library roots, and within a root in the order
of the names. -/
theorem discover_exact {t : FileTree} {c : Config} (sound : t.Sound) (linkFree : t.LinkFree) :
    ((∀ root ∈ c.libraryRoots, t.isDirectory [] (Path.absolute root) = true) →
        ∃ sets, discover t c = .ok sets) ∧
      ∀ sets, discover t c = .ok sets →
        (∀ names, (∃ task ∈ tasksOf sets, task.document.relative = names) ↔
            ∃ root ∈ c.libraryRoots, Provides t c root names) ∧
          (tasksOf sets).Pairwise (fun x y => x.document.relative ≠ y.document.relative) ∧
          (∀ task ∈ tasksOf sets,
            Group.FirstFor c.groups task.index task.group task.document.relative ∧
              FromFirstRoot t c task.document) ∧
          ∀ set ∈ sets, InRootOrder c.libraryRoots set.documents := by
  refine ⟨fun there => discoverFrom_total there 0 c.groups, fun sets found => ?_⟩
  have placed : ∀ task ∈ tasksOf sets,
      Group.FirstFor c.groups task.index task.group task.document.relative ∧
        FromFirstRoot t c task.document := by
    intro task member
    obtain ⟨set, listed, member⟩ := List.mem_flatMap.mp member
    obtain ⟨d, of_set, rfl⟩ := List.mem_map.mp member
    obtain ⟨j, numbered, number, _⟩ := (mem_discoverFrom_iff c.groups 0 sets found set).mp listed
    rw [← show set.index = j by omega] at numbered
    exact ⟨Group.firstFor_of_owner? numbered (owner_of_relative found listed of_set),
      set_firstRoot sound linkFree found listed of_set⟩
  refine ⟨fun names => ⟨?_, ?_⟩, tasks_apart found, placed, fun set listed =>
    set_inRootOrder sound linkFree found listed⟩
  · rintro ⟨task, member, rfl⟩
    obtain ⟨k, root, numbered, _, provides, _⟩ := (placed task member).2
    exact ⟨root, List.mem_of_getElem? numbered, provides⟩
  · rintro ⟨root, listed, provides⟩
    exact exists_of_provides sound linkFree found listed provides

def overlappingTree : FileTree :=
  ⟨[ (["l".toList], .directory 0), (["l".toList, "a-b.pm".toList], .file [65] 1),
    (["l".toList, "a".toList], .directory 0),
    (["l".toList, "a".toList, "B.pm".toList], .file [66] 1),
    (["l".toList, "o".toList], .directory 0),
    (["l".toList, "o".toList, "C.pm".toList], .file [67] 1), (["m".toList], .directory 0),
    (["m".toList, "a".toList], .directory 0),
    (["m".toList, "a".toList, "B.pm".toList], .file [68] 1),
    (["m".toList, "A.pm".toList], .file [69] 1), (["m".toList, "p.png".toList], .file [7] 1)], 5⟩

def overlappingConfig : Config :=
  { smallConfig with
    outputRoot := Path.absolute ["l".toList, "o".toList]
    libraryRoots := [["l".toList], ["m".toList]] }

theorem discover_exact_overlapping :
    ∃ sets, discover overlappingTree overlappingConfig = .ok sets ∧
      sets.map (fun set => set.documents.map fun d => d.source.names) =
        [ [["l".toList, "a".toList, "B.pm".toList], ["l".toList, "a-b.pm".toList],
            ["m".toList, "A.pm".toList]],
          [["m".toList, "p.png".toList]]] ∧
      ∀ set ∈ sets, InRootOrder overlappingConfig.libraryRoots set.documents := by
  have sound : overlappingTree.Sound := sound_of_entries (by decide) (by decide)
  have linkFree : overlappingTree.LinkFree := linkFree_of_entries (by decide)
  obtain ⟨total, precise⟩ := discover_exact (c := overlappingConfig) sound linkFree
  obtain ⟨sets, found⟩ := total (by decide)
  have listed : (discover overlappingTree overlappingConfig).toOption.map (fun sets =>
      sets.map fun set => set.documents.map fun d => d.source.names) = some
        [ [["l".toList, "a".toList, "B.pm".toList], ["l".toList, "a-b.pm".toList],
            ["m".toList, "A.pm".toList]],
          [["m".toList, "p.png".toList]]] := by cbv
  rw [found] at listed
  exact ⟨sets, found, Option.some.inj listed, (precise sets found).2.2.2⟩

end Site
end PodSite
