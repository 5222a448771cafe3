import PodSite.Proofs.Site.Documents

/-!
What discovery depends on: the files that the walks from the library roots show and that a group
owns, and nothing else of the tree. Their contents do not count, and their times only date the
documents.
-/
namespace PodSite.Site
open FileTree

/-- Paths that the walk from a library root leaves out. -/
def prunedFrom (c : Config) (root : Location) (path : List Text) : Bool :=
  c.isGenerated (Path.absolute root) (Path.absolute path)

def FileAt (t : FileTree) (loc : Location) : Prop := ∃ e, t.get? loc = some e ∧ e.isFile = true

theorem FileAt.inside {t : FileTree} {loc : Location} (there : FileAt t loc) : loc ≠ [] := by
  rintro rfl
  obtain ⟨e, here, file⟩ := there
  simp only [get?, ↓reduceIte, Option.some.injEq] at here
  simp [← here, Entry.isFile] at file

structure SameSources (c : Config) (t t' : FileTree) : Prop where
  roots : ∀ root ∈ c.libraryRoots, t.isDirectory [] (Path.absolute root) = true →
    t'.isDirectory [] (Path.absolute root) = true
  files : ∀ root ∈ c.libraryRoots, ∀ p, InView (prunedFrom c root) root p →
    (Group.owner? c.groups (Path.absolute p)).isSome → (FileAt t p ↔ FileAt t' p)

theorem SameSources.trans {c : Config} {t t' t'' : FileTree} (first : SameSources c t t')
    (second : SameSources c t' t'') : SameSources c t t'' where
  roots root listed there := second.roots root listed (first.roots root listed there)
  files root listed p view owned :=
    (first.files root listed p view owned).trans (second.files root listed p view owned)

/-- The sources are in both trees, with the same bytes and times. -/
structure SourcesKept (c : Config) (t t' : FileTree) : Prop where
  roots : ∀ root ∈ c.libraryRoots, t.isDirectory [] (Path.absolute root) = true →
    t'.isDirectory [] (Path.absolute root) = true
  files : ∀ root ∈ c.libraryRoots, ∀ p, InView (prunedFrom c root) root p →
    (Group.owner? c.groups (Path.absolute p)).isSome →
      ∀ e, e.isFile = true → (t.get? p = some e ↔ t'.get? p = some e)

namespace SourcesKept

theorem sameSources {c : Config} {t t' : FileTree} (kept : SourcesKept c t t') :
    SameSources c t t' where
  roots := kept.roots
  files root listed p view owned := by
    have same := kept.files root listed p view owned
    constructor
    · rintro ⟨e, here, file⟩
      exact ⟨e, (same e file).mp here, file⟩
    · rintro ⟨e, here, file⟩
      exact ⟨e, (same e file).mpr here, file⟩

theorem trans {c : Config} {t t' t'' : FileTree} (first : SourcesKept c t t')
    (second : SourcesKept c t' t'') : SourcesKept c t t'' where
  roots root listed there := second.roots root listed (first.roots root listed there)
  files root listed p view owned e file :=
    (first.files root listed p view owned e file).trans
      (second.files root listed p view owned e file)

theorem of_grown {c : Config} {files : Location → Prop} {t t' : FileTree}
    (sound : t.Sound) (linkFree : t.LinkFree) (grown : Grown files t t')
    (hidden : ∀ root ∈ c.libraryRoots, ∀ p, InView (prunedFrom c root) root p →
      (Group.owner? c.groups (Path.absolute p)).isSome → ¬ files p) : SourcesKept c t t' where
  roots root _ there := by
    obtain ⟨addressable, directory⟩ := (isDirectory_absolute sound linkFree root).mp there
    exact (isDirectory_absolute grown.sound grown.linkFree root).mpr
      ⟨addressable, grown.directory directory⟩
  files root listed p view owned e file :=
    (grown.file_iff (hidden root listed p view owned) file).symm

theorem later (c : Config) {t : FileTree} (sound : t.Sound) (linkFree : t.LinkFree) (now : Nat) :
    SourcesKept c t { t with now := now } where
  roots root _ there := by
    obtain ⟨addressable, directory⟩ := (isDirectory_absolute sound linkFree root).mp there
    exact (isDirectory_absolute (sound.later now) (linkFree.later now) root).mpr
      ⟨addressable, directory.later now⟩
  files root _ p _ _ e file := by
    by_cases top : p = []
    · constructor
      · intro here
        exact absurd top (FileAt.inside ⟨e, here, file⟩)
      · intro here
        exact absurd top (FileAt.inside ⟨e, here, file⟩)
    · rw [get?_now t now top]

end SourcesKept

structure SameDocuments (s s' : GroupDocuments) : Prop where
  index : s.index = s'.index
  group : s.group = s'.group
  documents : s.documents.map Document.undated = s'.documents.map Document.undated

theorem documentOf?_spec {c : Config} {out : Location} (output : c.outputRoot = Path.absolute out)
    {index : Nat} {g : Group} {root : Location} {f : Found} {d : Document}
    (found : documentOf? c index g root f = some d) :
    f.path = root ++ d.relative ∧ d.source = Path.absolute f.path ∧ d.kind = g.kind ∧
      d.modified = f.modified ∧ d.Placed out ∧ Group.owner? c.groups d.source = some index := by
  simp only [documentOf?, bind] at found
  split at found
  · cases found
  rename_i owned
  obtain ⟨rest, _, found⟩ := Option.bind_eq_some_iff.mp found
  split at found
  · cases found
  rw [output] at found
  obtain ⟨path, source, kind, modified, placed⟩ := Document.ofSource?_spec found
  exact ⟨path, source, kind, modified, placed, by rw [source]; exact not_not.mp owned⟩

theorem documentOf?_undated (c : Config) (index : Nat) (g : Group) (root : Location) (f : Found) :
    (documentOf? c index g root f).map Document.undated =
      documentOf? c index g root ⟨f.path, 0⟩ := by
  have dated := Document.ofSource?_modified c.outputRoot g (Path.absolute root)
    (Path.absolute f.path) f.modified
  simp only [documentOf?, bind]
  split
  · rfl
  · cases Path.below? (Path.absolute root) (Path.absolute f.path) with
    | none => rfl
    | some rest =>
      simp only [Option.bind_some]
      split
      · rfl
      · rw [dated, Option.map_map]
        have same := Document.ofSource?_modified c.outputRoot g (Path.absolute root)
          (Path.absolute f.path) 0
        rw [same, Option.map_map]
        rfl

theorem mem_addNew {d : Document} (known ds : List Document) (member : d ∈ addNew known ds) :
    d ∈ known ∨ d ∈ ds := by
  induction ds generalizing known with
  | nil => exact Or.inl member
  | cons e ds ih =>
    rw [addNew] at member
    split at member
    · rcases ih known member with h | h
      · exact Or.inl h
      · exact Or.inr (List.mem_cons_of_mem e h)
    · rcases ih (known ++ [e]) member with h | h
      · rcases List.mem_append.mp h with h | h
        · exact Or.inl h
        · exact Or.inr (by simp [List.mem_singleton.mp h])
      · exact Or.inr (List.mem_cons_of_mem e h)

theorem addNew_undated (known ds : List Document) :
    (addNew known ds).map Document.undated =
      addNew (known.map Document.undated) (ds.map Document.undated) := by
  induction ds generalizing known with
  | nil => rfl
  | cons d ds ih =>
    have same : (known.map Document.undated).any (·.relative == d.undated.relative) =
        known.any (·.relative == d.relative) := by
      simp [List.any_map, Function.comp_def, Document.undated]
    rw [List.map_cons, addNew, addNew, same]
    split
    · exact ih known
    · rw [ih (known ++ [d])]
      simp

theorem mem_documentsOf {t : FileTree} {c : Config} {index : Nat} {g : Group} {d : Document}
    (roots : List Location) (known ds : List Document)
    (found : documentsOf t c index g known roots = .ok ds) (member : d ∈ ds) :
    d ∈ known ∨ ∃ root ∈ roots, t.isDirectory [] (Path.absolute root) = true ∧
      d ∈ documentsBelow t c index g root := by
  induction roots generalizing known with
  | nil =>
    simp only [documentsOf, Except.ok.injEq] at found
    exact Or.inl (found ▸ member)
  | cons root roots ih =>
    rw [documentsOf] at found
    split at found
    · rename_i there
      rcases ih _ found with h | ⟨other, listed, h⟩
      · rcases mem_addNew _ _ h with h | h
        · exact Or.inl h
        · exact Or.inr ⟨root, by simp, there, h⟩
      · exact Or.inr ⟨other, List.mem_cons_of_mem root listed, h⟩
    · cases found

theorem discoverFrom_cons_ok {t : FileTree} {c : Config} {index : Nat} {g : Group}
    {groups : List Group} {sets : List GroupDocuments}
    (found : discoverFrom t c index (g :: groups) = .ok sets) :
    ∃ ds rest, documentsOf t c index g [] c.libraryRoots = .ok ds ∧
      discoverFrom t c (index + 1) groups = .ok rest ∧ sets = ⟨index, g, ds⟩ :: rest := by
  rw [discoverFrom] at found
  cases first : documentsOf t c index g [] c.libraryRoots with
  | error e => simp [first, bind, Except.bind] at found
  | ok ds =>
    cases later : discoverFrom t c (index + 1) groups with
    | error e => simp [first, later, bind, Except.bind] at found
    | ok rest =>
      simp only [first, later, bind, Except.bind, pure, Except.pure, Except.ok.injEq] at found
      exact ⟨ds, rest, rfl, rfl, found.symm⟩

theorem mem_discoverFrom {t : FileTree} {c : Config} (groups : List Group) (index : Nat)
    (sets : List GroupDocuments) (found : discoverFrom t c index groups = .ok sets)
    {set : GroupDocuments} (member : set ∈ sets) :
    documentsOf t c set.index set.group [] c.libraryRoots = .ok set.documents := by
  induction groups generalizing index sets with
  | nil =>
    simp only [discoverFrom, Except.ok.injEq] at found
    simp [← found] at member
  | cons g groups ih =>
    obtain ⟨ds, rest, first, later, rfl⟩ := discoverFrom_cons_ok found
    rcases List.mem_cons.mp member with rfl | h
    · exact first
    · exact ih (index + 1) rest later h

theorem mem_discover {t : FileTree} {c : Config} {sets : List GroupDocuments}
    (found : discover t c = .ok sets) {set : GroupDocuments} (listed : set ∈ sets) {d : Document}
    (member : d ∈ set.documents) :
    ∃ root ∈ c.libraryRoots, t.isDirectory [] (Path.absolute root) = true ∧
      ∃ f ∈ t.walk (prunedFrom c root) root, documentOf? c set.index set.group root f = some d := by
  have documents := mem_discoverFrom c.groups 0 sets found listed
  rcases mem_documentsOf c.libraryRoots [] _ documents member with h | ⟨root, known, there, h⟩
  · simp at h
  · exact ⟨root, known, there, List.mem_filterMap.mp h⟩

/-- A document with the location of its source: what discovery promises of each it finds. -/
structure Discovered (c : Config) (out : Location) (t : FileTree) (d : Document) (p : Location) :
    Prop where
  source : d.source = Path.absolute p
  placed : d.Placed out
  shown : ∃ root ∈ c.libraryRoots, InView (prunedFrom c root) root p
  owned : (Group.owner? c.groups (Path.absolute p)).isSome
  file : ∃ e, t.get? p = some e ∧ e.isFile = true ∧ e.modified? = some d.modified

theorem discovered {t : FileTree} (sound : t.Sound) (linkFree : t.LinkFree) {c : Config}
    {out : Location} (output : c.outputRoot = Path.absolute out) {sets : List GroupDocuments}
    (found : discover t c = .ok sets) {set : GroupDocuments} (listed : set ∈ sets) {d : Document}
    (member : d ∈ set.documents) : ∃ p, Discovered c out t d p := by
  obtain ⟨root, known, there, f, walked, made⟩ := mem_discover found listed member
  obtain ⟨view, file⟩ := (mem_walk sound linkFree _ there f).mp walked
  obtain ⟨_, source, _, modified, placed, owned⟩ := documentOf?_spec output made
  rw [source] at owned
  exact ⟨f.path, source, placed, ⟨root, known, view⟩, by simp [owned], modified ▸ file⟩

/-- Nothing below the output root is seen from a library root that is not below it. -/
theorem output_hidden {c : Config} {out root p : Location}
    (output : c.outputRoot = Path.absolute out) (apart : ¬ out <+: root)
    (view : InView (prunedFrom c root) root p) : ¬ out <+: p := by
  intro below
  have inside : root <+: out := by
    rcases List.prefix_or_prefix_of_prefix below view.above with h | h
    · exact absurd h apart
    · exact h
  have different : Path.absolute out ≠ Path.absolute root := by
    intro same
    exact apart (Path.absolute_injective same ▸ List.prefix_refl _)
  have pruned := view.unpruned out inside below
  simp [prunedFrom, Config.isGenerated, output, different] at pruned

theorem copyRoot_absolute {c : Config} {out : Location}
    (output : c.outputRoot = Path.absolute out) :
    c.copyRoot = Path.absolute (out ++ ["src".toList]) := by
  simp [Config.copyRoot, Document.copyRoot, output, Path.absolute_append, Path.ofNames]

theorem copies_hidden {c : Config} {out root p : Location}
    (output : c.outputRoot = Path.absolute out) (above : root <+: out ++ ["src".toList])
    (view : InView (prunedFrom c root) root p) : ¬ out ++ ["src".toList] <+: p := by
  intro below
  have pruned := view.unpruned _ above below
  simp [prunedFrom, Config.isGenerated, copyRoot_absolute output] at pruned

section Force
variable (t : FileTree) (c : Config) (force : Bool)

theorem documentsOf_force (index : Nat) (g : Group) (known : List Document)
    (roots : List Location) :
    documentsOf t { c with force := force } index g known roots =
      documentsOf t c index g known roots := by
  induction roots generalizing known with
  | nil => rfl
  | cons root roots ih =>
    rw [documentsOf, documentsOf, ih]
    rfl

theorem discover_force : discover t { c with force := force } = discover t c := by
  have sets : ∀ (groups : List Group) (index : Nat),
      discoverFrom t { c with force := force } index groups = discoverFrom t c index groups := by
    intro groups
    induction groups with
    | nil => exact fun _ => rfl
    | cons g groups ih =>
      intro index
      rw [discoverFrom, discoverFrom, documentsOf_force, ih]
  exact sets c.groups 0

end Force

structure SameBelow (c : Config) (t t' : FileTree) : Prop where
  roots : ∀ root ∈ c.libraryRoots, t.isDirectory [] (Path.absolute root) = true →
    t'.isDirectory [] (Path.absolute root) = true
  documents : ∀ root ∈ c.libraryRoots, t.isDirectory [] (Path.absolute root) = true →
    ∀ index g, (documentsBelow t c index g root).map Document.undated =
      (documentsBelow t' c index g root).map Document.undated

section Below
variable {c : Config} {t t' : FileTree} (same : SameBelow c t t')
include same

theorem documentsOf_same (index : Nat) (g : Group) (roots : List Location)
    (listed : ∀ root ∈ roots, root ∈ c.libraryRoots) (known known' ds : List Document)
    (start : known.map Document.undated = known'.map Document.undated)
    (found : documentsOf t c index g known roots = .ok ds) :
    ∃ ds', documentsOf t' c index g known' roots = .ok ds' ∧
      ds.map Document.undated = ds'.map Document.undated := by
  induction roots generalizing known known' with
  | nil =>
    simp only [documentsOf, Except.ok.injEq] at found
    exact ⟨known', rfl, found ▸ start⟩
  | cons root roots ih =>
    rw [documentsOf] at found
    split at found
    · rename_i there
      have here := listed root (by simp)
      have below := same.documents root here there index g
      rw [documentsOf, if_pos (same.roots root here there)]
      refine ih (fun r h => listed r (List.mem_cons_of_mem root h)) _ _ ?_ found
      rw [addNew_undated, addNew_undated, start, below]
    · cases found

theorem discoverFrom_same (groups : List Group) (index : Nat) (sets : List GroupDocuments)
    (found : discoverFrom t c index groups = .ok sets) :
    ∃ sets', discoverFrom t' c index groups = .ok sets' ∧
      List.Forall₂ SameDocuments sets sets' := by
  induction groups generalizing index sets with
  | nil =>
    simp only [discoverFrom, Except.ok.injEq] at found
    subst found
    exact ⟨[], rfl, .nil⟩
  | cons g groups ih =>
    obtain ⟨ds, rest, first, later, rfl⟩ := discoverFrom_cons_ok found
    obtain ⟨ds', first', equal⟩ := documentsOf_same same index g c.libraryRoots (fun _ h => h) []
      [] ds rfl first
    obtain ⟨rest', later', equals⟩ := ih (index + 1) rest later
    refine ⟨⟨index, g, ds'⟩ :: rest', ?_, .cons ⟨rfl, rfl, equal⟩ equals⟩
    rw [discoverFrom]
    simp only [first', later', bind, Except.bind, pure, Except.pure]

end Below

section Same
variable {c : Config} {t t' : FileTree} (sound : t.Sound) (linkFree : t.LinkFree)
  (sound' : t'.Sound) (linkFree' : t'.LinkFree) (same : SameSources c t t')

theorem documentsBelow_undated (t : FileTree) (c : Config) (index : Nat) (g : Group)
    (root : Location) :
    (documentsBelow t c index g root).map Document.undated =
      ((t.walk (prunedFrom c root) root).map Found.path).filterMap fun p =>
        documentOf? c index g root ⟨p, 0⟩ := by
  rw [List.filterMap_map]
  unfold documentsBelow
  rw [List.map_filterMap]
  congr 1
  funext f
  exact documentOf?_undated c index g root f

include sound linkFree in
theorem mem_walk_paths {root p : Location} (there : t.isDirectory [] (Path.absolute root) = true) :
    p ∈ (t.walk (prunedFrom c root) root).map Found.path ↔
      InView (prunedFrom c root) root p ∧ FileAt t p := by
  simp only [List.mem_map, mem_walk sound linkFree _ there]
  constructor
  · rintro ⟨f, ⟨view, e, here, file, _⟩, rfl⟩
    exact ⟨view, e, here, file⟩
  · rintro ⟨view, e, here, file⟩
    cases e with
    | file content m => exact ⟨⟨p, m⟩, ⟨view, _, here, rfl, rfl⟩, rfl⟩
    | unreadable m => exact ⟨⟨p, m⟩, ⟨view, _, here, rfl, rfl⟩, rfl⟩
    | directory m => simp [Entry.isFile] at file
    | link target => simp [Entry.isFile] at file

theorem owned_of_documentOf? {index : Nat} {g : Group} {root p : Location}
    (made : (documentOf? c index g root ⟨p, 0⟩).isSome) :
    (Group.owner? c.groups (Path.absolute p)).isSome := by
  unfold documentOf? at made
  simp only [bind] at made
  split at made
  · simp at made
  · rename_i owned
    simp [not_not.mp owned]

include sound linkFree sound' linkFree' same

theorem documentsBelow_same {root : Location} (listed : root ∈ c.libraryRoots)
    (there : t.isDirectory [] (Path.absolute root) = true) (index : Nat) (g : Group) :
    (documentsBelow t c index g root).map Document.undated =
      (documentsBelow t' c index g root).map Document.undated := by
  have there' := same.roots root listed there
  rw [documentsBelow_undated, documentsBelow_undated]
  let makes := fun p => (documentOf? c index g root ⟨p, 0⟩).isSome
  have keep : ∀ ps : List Location,
      (ps.filterMap fun p => documentOf? c index g root ⟨p, 0⟩) =
        (ps.filter makes).filterMap fun p => documentOf? c index g root ⟨p, 0⟩ := by
    intro ps
    rw [List.filterMap_filter]
    congr 1
    funext p
    cases h : documentOf? c index g root ⟨p, 0⟩ <;> simp [makes, h]
  rw [keep, keep (List.map Found.path _)]
  -- of the paths that make documents both walks show the same, in the same order
  congr 1
  refine sorted_paths_unique ?_ ?_ ?_
  · refine List.Pairwise.filter _ (List.pairwise_map.mpr ?_)
    exact walk_sorted sound linkFree _ root
  · refine List.Pairwise.filter _ (List.pairwise_map.mpr ?_)
    exact walk_sorted sound' linkFree' _ root
  · intro p
    rw [List.mem_filter, List.mem_filter, mem_walk_paths sound linkFree there,
      mem_walk_paths sound' linkFree' there']
    constructor
    · rintro ⟨⟨view, file⟩, made⟩
      exact ⟨⟨view, (same.files root listed p view (owned_of_documentOf? made)).mp file⟩, made⟩
    · rintro ⟨⟨view, file⟩, made⟩
      exact ⟨⟨view, (same.files root listed p view (owned_of_documentOf? made)).mpr file⟩, made⟩

theorem sameBelow : SameBelow c t t' :=
  ⟨same.roots, fun _ listed there index g =>
    documentsBelow_same sound linkFree sound' linkFree' same listed there index g⟩

theorem discover_same {sets : List GroupDocuments} (found : discover t c = .ok sets) :
    ∃ sets', discover t' c = .ok sets' ∧ List.Forall₂ SameDocuments sets sets' :=
  discoverFrom_same (sameBelow sound linkFree sound' linkFree' same) c.groups 0 sets found

end Same
end PodSite.Site
