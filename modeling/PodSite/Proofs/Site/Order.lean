import Mathlib.Data.List.Lattice
import Mathlib.Data.List.Pairwise
import PodSite.Proofs.Page.Lookups
import PodSite.Proofs.Site.FirstBuild
import PodSite.Proofs.Site.Membership

/-!
The order of the library roots and of the groups does not show in the files of a site, as long as
nothing hangs on it: no path has two providers, no suffix two groups, and no module name two
documents.
-/
namespace PodSite

def Config.rearranged (c : Config) (roots : List Location) (groups : List Group) : Config :=
  { c with libraryRoots := roots, groups := groups }

namespace Group

def Exclusive (groups : List Group) : Prop :=
  groups.Pairwise fun g h => g.suffixes.Disjoint h.suffixes

theorem Exclusive.perm {groups groups' : List Group} (exclusive : Exclusive groups)
    (perm : groups'.Perm groups) : Exclusive groups' :=
  (perm.pairwise_iff fun disjoint => List.Disjoint.symm disjoint).mpr exclusive

theorem owns_iff {g : Group} {p : Path} :
    g.owns p = true ↔ ∃ suffix ∈ g.suffixes, Path.extension? p = some suffix := by
  unfold owns
  cases Path.extension? p with
  | none => simp
  | some suffix => simp

theorem owner?_isSome_iff {groups : List Group} {p : Path} :
    (owner? groups p).isSome ↔ ∃ g ∈ groups, g.owns p = true := by
  simp [owner?, List.findIdx?_isSome]

theorem owner?_eq_some_iff {groups : List Group} (exclusive : Exclusive groups) {p : Path}
    {i : Nat} : owner? groups p = some i ↔ ∃ g, groups[i]? = some g ∧ g.owns p = true := by
  rw [owner?, List.findIdx?_eq_some_iff_getElem]
  constructor
  · rintro ⟨bound, owns, _⟩
    exact ⟨groups[i], List.getElem?_eq_getElem bound, owns⟩
  · rintro ⟨g, at_i, owns⟩
    obtain ⟨bound, rfl⟩ := List.getElem?_eq_some_iff.mp at_i
    refine ⟨bound, owns, fun j before also => ?_⟩
    -- an earlier owner would list the same suffix
    have apart := List.pairwise_iff_getElem.mp exclusive j i (by omega) bound before
    obtain ⟨suffix, listed, ends⟩ := owns_iff.mp owns
    obtain ⟨other, listed', ends'⟩ := owns_iff.mp also
    cases ends.symm.trans ends'
    exact apart listed' listed

end Group

namespace Site
open FileTree

/-- A library root has a document with the given path. -/
def Provides (t : FileTree) (c : Config) (root names : Location) : Prop :=
  InView (prunedFrom c root) root (root ++ names) ∧ FileAt t (root ++ names) ∧
    (Group.owner? c.groups (Path.absolute (root ++ names))).isSome ∧
    c.isExcluded (Document.slashed names) = false

/-- No path is provided by two library roots. -/
def OneProvider (t : FileTree) (c : Config) : Prop :=
  ∀ r ∈ c.libraryRoots, ∀ s ∈ c.libraryRoots, ∀ names,
    Provides t c r names → Provides t c s names → r = s

def MadeFrom (t : FileTree) (c : Config) (g : Group) (d : Document) (root names : Location) :
    Prop :=
  InView (prunedFrom c root) root (root ++ names) ∧ g.owns (Path.absolute (root ++ names)) = true ∧
    c.isExcluded (Document.slashed names) = false ∧
    ∃ e m, t.get? (root ++ names) = some e ∧ e.isFile = true ∧ e.modified? = some m ∧
      Document.ofSource? c.outputRoot g (Path.absolute root) (Path.absolute (root ++ names)) m =
        some d

theorem MadeFrom.relative {t : FileTree} {c : Config} {g : Group} {d : Document}
    {root names : Location} (made : MadeFrom t c g d root names) : d.relative = names := by
  obtain ⟨_, _, _, e, m, _, _, _, document⟩ := made
  obtain ⟨path, _⟩ := Document.ofSource?_laid document
  exact (List.append_cancel_left path).symm

theorem MadeFrom.unique {t : FileTree} {c : Config} {g : Group} {d d' : Document}
    {root names : Location} (made : MadeFrom t c g d root names)
    (made' : MadeFrom t c g d' root names) : d = d' := by
  obtain ⟨_, _, _, e, m, here, _, time, document⟩ := made
  obtain ⟨_, _, _, e', m', here', _, time', document'⟩ := made'
  cases here.symm.trans here'
  cases time.symm.trans time'
  exact Option.some.inj (document.symm.trans document')

theorem MadeFrom.provides {t : FileTree} {c : Config} {g : Group} {d : Document}
    {root names : Location} (made : MadeFrom t c g d root names) (listed : g ∈ c.groups) :
    Provides t c root names := by
  obtain ⟨view, owns, kept, e, m, here, file, _⟩ := made
  exact ⟨view, ⟨e, here, file⟩, Group.owner?_isSome_iff.mpr ⟨g, listed, owns⟩, kept⟩

section Membership
variable {t : FileTree} {c : Config} (sound : t.Sound) (linkFree : t.LinkFree)
  (exclusive : Group.Exclusive c.groups)
include sound linkFree exclusive

theorem mem_documentsBelow_iff {index : Nat} {g : Group} (numbered : c.groups[index]? = some g)
    {root : Location} (there : t.isDirectory [] (Path.absolute root) = true) (d : Document) :
    d ∈ documentsBelow t c index g root ↔ ∃ names, MadeFrom t c g d root names := by
  have owner : ∀ p, Group.owner? c.groups p = some index ↔ g.owns p = true := by
    intro p
    rw [Group.owner?_eq_some_iff exclusive, numbered]
    simp
  have members : d ∈ documentsBelow t c index g root ↔
      ∃ f ∈ t.walk (prunedFrom c root) root, documentOf? c index g root f = some d :=
    List.mem_filterMap
  rw [members]
  constructor
  · rintro ⟨⟨path, m⟩, walked, made⟩
    obtain ⟨view, e, here, file, time⟩ := (mem_walk sound linkFree _ there _).mp walked
    obtain ⟨names, rfl⟩ := view.above
    rw [documentOf?_eq] at made
    split at made
    · rename_i conditions
      exact ⟨names, view, (owner _).mp conditions.1, conditions.2, e, m, here, file, time, made⟩
    · cases made
  · rintro ⟨names, view, owns, kept, e, m, here, file, time, made⟩
    refine ⟨⟨root ++ names, m⟩, (mem_walk sound linkFree _ there _).mpr ⟨view, e, here, file, time⟩,
      ?_⟩
    rw [documentOf?_eq, if_pos ⟨(owner _).mpr owns, kept⟩, made]

variable {sets : List GroupDocuments} (found : discover t c = .ok sets)
include found

theorem madeFrom_of_task {task : Task} (member : task ∈ tasksOf sets) :
    task.group ∈ c.groups ∧ ∃ root ∈ c.libraryRoots, ∃ names,
      MadeFrom t c task.group task.document root names := by
  obtain ⟨set, listed, member⟩ := List.mem_flatMap.mp member
  obtain ⟨d, of_set, rfl⟩ := List.mem_map.mp member
  obtain ⟨j, numbered, number, documents⟩ :=
    (mem_discoverFrom_iff c.groups 0 sets found set).mp listed
  have index : c.groups[set.index]? = some set.group := by
    rw [number, Nat.zero_add, numbered]
  refine ⟨List.mem_of_getElem? numbered, ?_⟩
  rcases mem_documentsOf c.libraryRoots [] _ documents of_set with
    none | ⟨root, root_listed, there, below⟩
  · simp at none
  · exact ⟨root, root_listed,
      (mem_documentsBelow_iff sound linkFree exclusive index there d).mp below⟩

theorem task_of_madeFrom (unique : OneProvider t c) {g : Group} (listed : g ∈ c.groups)
    {root names : Location} (root_listed : root ∈ c.libraryRoots) {d : Document}
    (made : MadeFrom t c g d root names) : ∃ i, ⟨i, g, d⟩ ∈ tasksOf sets := by
  obtain ⟨j, numbered⟩ := List.mem_iff_getElem?.mp listed
  obtain ⟨set, set_listed, rfl, number⟩ := exists_set c.groups 0 sets found numbered
  rw [Nat.zero_add] at number
  rw [← number] at numbered
  have documents := mem_discoverFrom c.groups 0 sets found set_listed
  have there := documentsOf_roots c.libraryRoots [] _ documents root root_listed
  have below := (mem_documentsBelow_iff sound linkFree exclusive numbered there d).mpr ⟨names, made⟩
  obtain ⟨d', member, same⟩ := documentsOf_covers c.libraryRoots [] _ documents root_listed below
  have task : (⟨set.index, set.group, d'⟩ : Task) ∈ tasksOf sets :=
    List.mem_flatMap.mpr ⟨set, set_listed, List.mem_map.mpr ⟨d', member, rfl⟩⟩
  obtain ⟨_, root', root_listed', names', made'⟩ :=
    madeFrom_of_task sound linkFree exclusive found task
  -- the document with the path is the one that the only provider makes
  have path : names' = names := made'.relative.symm.trans (same.trans made.relative)
  subst path
  have provider := unique root root_listed root' root_listed' _ (made.provides listed)
    (made'.provides listed)
  subst provider
  rw [made.unique made']
  exact ⟨set.index, task⟩

end Membership

section References

def DistinctModules (tasks : List Task) : Prop :=
  ((tasks.filter (·.group.kind.isReferable)).map (·.document.name)).Nodup

theorem lookup_iff_mem {entries : List (Text × Path)} {name : Text}
    (once : ∀ page page', (name, page) ∈ entries → (name, page') ∈ entries → page = page')
    (page : Path) : entries.lookup name = some page ↔ (name, page) ∈ entries := by
  have found : ∀ page', entries.lookup name = some page' → (name, page') ∈ entries := by
    intro page' here
    obtain ⟨front, back, whole, _⟩ := List.lookup_eq_some_iff.mp here
    simp [whole]
  constructor
  · exact found page
  · intro member
    have there : (entries.lookup name).isSome :=
      List.lookup_isSome_iff.mpr ⟨(name, page), member, by simp⟩
    obtain ⟨page', here⟩ := Option.isSome_iff_exists.mp there
    rw [here, once page page' member (found page' here)]

def OnePage (tasks : List Task) : Prop :=
  ∀ x ∈ tasks, ∀ y ∈ tasks, x.group.kind.isReferable = true → y.group.kind.isReferable = true →
    x.document.name = y.document.name → x.document.output = y.document.output

theorem DistinctModules.onePage {tasks : List Task} (distinct : DistinctModules tasks) :
    OnePage tasks := by
  intro x listed y listed' referable referable' named
  have same := List.inj_on_of_nodup_map distinct (List.mem_filter.mpr ⟨listed, referable⟩)
    (List.mem_filter.mpr ⟨listed', referable'⟩) named
  rw [same]

theorem resolve?_iff {sets : List GroupDocuments} (once : OnePage (tasksOf sets)) (name : Text)
    (page : Path) :
    (referencesOf sets).resolve? name = some page ↔ ∃ task ∈ tasksOf sets,
      task.group.kind.isReferable = true ∧ task.document.name = name ∧
        task.document.output = page := by
  rw [References.resolve?, lookup_iff_mem ?_, mem_references]
  intro page page' first second
  obtain ⟨x, listed, referable, named, rfl⟩ := mem_references.mp first
  obtain ⟨y, listed', referable', named', rfl⟩ := mem_references.mp second
  exact once x listed y listed' referable referable' (named.trans named'.symm)

end References

section Rearranging
variable {t : FileTree} {c : Config} {roots : List Location} {groups : List Group}
  (same_roots : roots.Perm c.libraryRoots) (same_groups : groups.Perm c.groups)

theorem madeFrom_rearranged {g : Group} {d : Document} {root names : Location} :
    MadeFrom t (c.rearranged roots groups) g d root names ↔ MadeFrom t c g d root names := Iff.rfl

include same_groups in
theorem provides_rearranged {root names : Location} :
    Provides t (c.rearranged roots groups) root names ↔ Provides t c root names := by
  refine and_congr Iff.rfl (and_congr Iff.rfl (and_congr ?_ Iff.rfl))
  rw [Group.owner?_isSome_iff, Group.owner?_isSome_iff]
  exact exists_congr fun g => and_congr same_groups.mem_iff Iff.rfl

include same_roots same_groups in
theorem oneProvider_rearranged (unique : OneProvider t c) :
    OneProvider t (c.rearranged roots groups) := by
  intro r listed s listed' names first second
  exact unique r (same_roots.mem_iff.mp listed) s (same_roots.mem_iff.mp listed') names
    ((provides_rearranged same_groups).mp first) ((provides_rearranged same_groups).mp second)

def SameMembers (tasks tasks' : List Task) : Prop :=
  ∀ g d, (∃ i, ⟨i, g, d⟩ ∈ tasks) ↔ ∃ i, ⟨i, g, d⟩ ∈ tasks'

include same_roots same_groups in
theorem sameMembers_rearranged (sound : t.Sound) (linkFree : t.LinkFree)
    (exclusive : Group.Exclusive c.groups) (unique : OneProvider t c)
    {sets sets' : List GroupDocuments} (found : discover t c = .ok sets)
    (found' : discover t (c.rearranged roots groups) = .ok sets') :
    SameMembers (tasksOf sets) (tasksOf sets') := by
  have exclusive' : Group.Exclusive (c.rearranged roots groups).groups :=
    exclusive.perm same_groups
  have unique' := oneProvider_rearranged same_roots same_groups unique
  intro g d
  constructor
  · rintro ⟨i, member⟩
    obtain ⟨listed, root, root_listed, names, made⟩ :=
      madeFrom_of_task sound linkFree exclusive found member
    exact task_of_madeFrom sound linkFree exclusive' found' unique'
      (same_groups.mem_iff.mpr listed) (same_roots.mem_iff.mpr root_listed)
      (madeFrom_rearranged.mpr made)
  · rintro ⟨i, member⟩
    obtain ⟨listed, root, root_listed, names, made⟩ :=
      madeFrom_of_task sound linkFree exclusive' found' member
    exact task_of_madeFrom sound linkFree exclusive found unique (same_groups.mem_iff.mp listed)
      (same_roots.mem_iff.mp root_listed) (madeFrom_rearranged.mp made)

end Rearranging

section SameMembers
variable {tasks tasks' : List Task}

theorem SameMembers.exists_iff (same : SameMembers tasks tasks') {p : Group → Document → Prop} :
    (∃ task ∈ tasks, p task.group task.document) ↔ ∃ task ∈ tasks', p task.group task.document := by
  constructor
  · rintro ⟨⟨i, g, d⟩, member, holds⟩
    obtain ⟨j, member'⟩ := (same g d).mp ⟨i, member⟩
    exact ⟨_, member', holds⟩
  · rintro ⟨⟨i, g, d⟩, member, holds⟩
    obtain ⟨j, member'⟩ := (same g d).mpr ⟨i, member⟩
    exact ⟨_, member', holds⟩

instance : Std.Symm Unrelated where
  symm _ _ unrelated a first b second := (unrelated b second a first).symm

theorem SameMembers.unrelated (same : SameMembers tasks tasks')
    (distinct : tasks'.Pairwise fun x y => x.document ≠ y.document)
    (apart : tasks.Pairwise Unrelated) : tasks'.Pairwise Unrelated := by
  refine distinct.imp_of_mem ?_
  rintro ⟨i, g, d⟩ ⟨j, h, d'⟩ member member' differ
  obtain ⟨i', first⟩ := (same g d).mpr ⟨i, member⟩
  obtain ⟨j', second⟩ := (same h d').mpr ⟨j, member'⟩
  have other : (⟨i', g, d⟩ : Task) ≠ ⟨j', h, d'⟩ := fun equal =>
    differ (congrArg (·.document) equal)
  have unrelated : Unrelated ⟨i', g, d⟩ ⟨j', h, d'⟩ := apart.forall first second other
  exact unrelated

end SameMembers

theorem SameMembers.onePage {tasks tasks' : List Task} (same : SameMembers tasks tasks')
    (once : OnePage tasks) : OnePage tasks' := by
  rintro ⟨i, g, d⟩ listed ⟨j, h, d'⟩ listed' referable referable' named
  obtain ⟨i', first⟩ := (same g d).mpr ⟨i, listed⟩
  obtain ⟨j', second⟩ := (same h d').mpr ⟨j, listed'⟩
  exact once ⟨i', g, d⟩ first ⟨j', h, d'⟩ second referable referable' named

theorem resolve?_sameMembers {sets sets' : List GroupDocuments}
    (same : SameMembers (tasksOf sets) (tasksOf sets')) (once : OnePage (tasksOf sets))
    (name : Text) : (referencesOf sets').resolve? name = (referencesOf sets).resolve? name := by
  apply Option.ext
  intro page
  rw [resolve?_iff once, resolve?_iff (same.onePage once)]
  exact (same.exists_iff (p := fun g d =>
    g.kind.isReferable = true ∧ d.name = name ∧ d.output = page)).symm

theorem writtenBy_sameMembers {c c' : Config} {references references' : References}
    {tasks tasks' : List Task} (same : SameMembers tasks tasks')
    (project : c'.project = c.project)
    (lookups : ∀ name, references'.resolve? name = references.resolve? name) (t : FileTree)
    (loc : Location) (content : Bytes) :
    writtenBy c' references' t tasks' loc content ↔ writtenBy c references t tasks loc content := by
  have page : ∀ task source,
      pageBytes c' references' task source = pageBytes c references task source := by
    intro task source
    simp only [pageBytes, project, Page.render_lookups lookups]
  have writes : ∀ task, Writes c' references' t task loc content ↔
      Writes c references t task loc content := by
    intro task
    simp only [Writes, page]
  unfold writtenBy
  simp only [writes]
  exact (same.exists_iff (p := fun g d => Writes c references t ⟨0, g, d⟩ loc content)).symm

/-- Builds into an empty output root with the library roots and the groups in two orders leave the
same files there, if no path has two providers, no suffix two groups and no module name two
documents, and no document writes at or above a place of another. -/
theorem build_rearranged {t final final' : FileTree} {c : Config} {roots : List Location}
    {groups : List Group} {sets : List GroupDocuments} {r r' : Report} (sound : t.Sound)
    (linkFree : t.LinkFree) (vacant : t.Vacant (c.outputRoot.leadFrom []))
    (same_roots : roots.Perm c.libraryRoots) (same_groups : groups.Perm c.groups)
    (found : discoveredBy t c = .ok sets) (unique : OneProvider t c)
    (exclusive : Group.Exclusive c.groups) (distinct : DistinctModules (tasksOf sets))
    (apart : (tasksOf sets).Pairwise Unrelated) (done : build t c = (final, .ok r))
    (done' : build t (c.rearranged roots groups) = (final', .ok r')) :
    ∀ rest, rest ≠ [] → ∀ e : Entry, e.isDirectory = false →
      (final'.get? (c.outputRoot.leadFrom [] ++ rest) = some e ↔
        final.get? (c.outputRoot.leadFrom [] ++ rest) = some e) := by
  have grown := grown_makeDirectories (fun _ => False) c.outputRoot sound linkFree
  have unique₀ : OneProvider (t.makeDirectories c.outputRoot).1 c := by
    have files : ∀ loc, FileAt (t.makeDirectories c.outputRoot).1 loc → FileAt t loc := by
      rintro loc ⟨e, here, file⟩
      exact ⟨e, (grown.file_iff not_false file).mp here, file⟩
    intro r listed s listed' names first second
    exact unique r listed s listed' names ⟨first.1, files _ first.2.1, first.2.2⟩
      ⟨second.1, files _ second.2.1, second.2.2⟩
  obtain ⟨sets', found'⟩ : ∃ sets', discoveredBy t (c.rearranged roots groups) = .ok sets' := by
    obtain ⟨t₀, sets', _, made, found', _⟩ := build_ok done'
    exact ⟨sets', by rw [discoveredBy, made, found']⟩
  have same := sameMembers_rearranged same_roots same_groups grown.sound grown.linkFree exclusive
    unique₀ found found'
  have apart' := same.unrelated (tasks_distinct found') apart
  intro rest more e plain
  rw [files_of_build sound linkFree vacant found apart done more plain]
  rw [show c.outputRoot = (c.rearranged roots groups).outputRoot from rfl] at vacant ⊢
  rw [files_of_build sound linkFree vacant found' apart' done' more plain]
  refine exists_congr fun content => and_congr_left fun _ => ?_
  exact writtenBy_sameMembers same rfl (resolve?_sameMembers same distinct.onePage) _ _ content

instance : DecidableRel Unrelated := fun x y =>
  inferInstanceAs (Decidable (∀ a ∈ x.document.places, ∀ b ∈ y.document.places,
    ¬ a <+: b ∧ ¬ b <+: a))

theorem oneProvider_of_entries {t : FileTree} {c : Config}
    (apart : ∀ r ∈ c.libraryRoots, ∀ s ∈ c.libraryRoots, ∀ pair ∈ t.entries, r <+: pair.1 →
      (t.get? (s ++ pair.1.drop r.length)).any Entry.isFile = true → r = s) : OneProvider t c := by
  rintro r listed s listed' names ⟨_, first, _⟩ ⟨_, ⟨e, second, file⟩, _⟩
  obtain ⟨e', here, file'⟩ := first
  unfold get? at here
  split at here
  · cases here
    cases file'
  · obtain ⟨front, back, whole, _⟩ := List.lookup_eq_some_iff.mp here
    refine apart r listed s listed' (r ++ names, e') (by simp [whole])
      (List.prefix_append r names) ?_
    simp [second, file]

def mixedTree : FileTree :=
  ⟨[ (["l".toList], .directory 0),
    (["l".toList, "A.pm".toList], .file (Text.Utf8.encode "=pod\n\nL<B>".toList) 1),
    (["m".toList], .directory 0), (["m".toList, "B.pm".toList], .file [66] 1),
    (["p".toList], .directory 0), (["p".toList, "b.png".toList], .file [7] 1)], 5⟩

def mixedConfig : Config :=
  { smallConfig with libraryRoots := [["l".toList], ["m".toList], ["p".toList]] }

def mixedSets : List GroupDocuments :=
  (discoveredBy mixedTree mixedConfig).toOption.getD []

def turnedConfig : Config :=
  mixedConfig.rearranged mixedConfig.libraryRoots.reverse mixedConfig.groups.reverse

theorem build_rearranged_mixed :
    ∃ final final' r r', build mixedTree mixedConfig = (final, .ok r) ∧
      build mixedTree turnedConfig = (final', .ok r') ∧
      ∀ rest, rest ≠ [] → ∀ e : Entry, e.isDirectory = false →
        (final'.get? ("o".toList :: rest) = some e ↔ final.get? ("o".toList :: rest) = some e) := by
  have done : build mixedTree mixedConfig = (_, .ok _) :=
    Prod.ext rfl (ok_of_isOk ⟨[], 0, [], []⟩ (by decide +kernel))
  have done' : build mixedTree turnedConfig = (_, .ok _) :=
    Prod.ext rfl (ok_of_isOk ⟨[], 0, [], []⟩ (by decide +kernel))
  have sound : mixedTree.Sound := sound_of_entries (by decide) (by decide)
  have linkFree : mixedTree.LinkFree := linkFree_of_entries (by decide)
  have vacant : mixedTree.Vacant (mixedConfig.outputRoot.leadFrom []) :=
    vacant_of_missing sound (by decide)
  have found : discoveredBy mixedTree mixedConfig = .ok mixedSets :=
    ok_of_isOk [] (by decide +kernel)
  have unique : OneProvider mixedTree mixedConfig := oneProvider_of_entries (by decide)
  have exclusive : Group.Exclusive mixedConfig.groups := by
    simp [Group.Exclusive, mixedConfig, smallConfig]
  have distinct : DistinctModules (tasksOf mixedSets) := by
    unfold DistinctModules
    decide +kernel
  have apart : (tasksOf mixedSets).Pairwise Unrelated := by decide +kernel
  exact ⟨_, _, _, _, done, done', build_rearranged sound linkFree vacant (List.reverse_perm _)
    (List.reverse_perm _) found unique exclusive distinct apart done done'⟩

end Site
end PodSite
