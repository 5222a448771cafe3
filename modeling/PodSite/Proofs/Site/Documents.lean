import PodSite.Proofs.Files.Walk
import PodSite.Proofs.Path
import PodSite.Site.Discovery

/-!
Where documents come from and where they go: a document found below a library root keeps its names,
and its page and its copy stand below the output root.
-/
namespace PodSite.Document

def undated (d : Document) : Document := { d with modified := 0 }

/-- Where building a document writes: its copy if there is one, and its page. -/
def targets (d : Document) : List Location :=
  if d.sharesSource then [d.copy.names, d.output.names] else [d.output.names]

theorem output_mem_targets (d : Document) : d.output.names ∈ d.targets := by
  unfold targets
  split <;> simp

theorem copy_mem_targets {d : Document} (shared : d.sharesSource = true) :
    d.copy.names ∈ d.targets := by
  simp [targets, shared]

structure Placed (out : Location) (d : Document) : Prop where
  named : d.relative ≠ []
  copy : d.copy = Path.absolute (out ++ "src".toList :: d.relative)
  output : d.output =
    if d.kind.isBinary then d.copy else Path.absolute (out ++ pageNames d.relative)
  shared : d.kind.isBinary = true → d.sharesSource = true

theorem Placed.copy_absolute {out : Location} {d : Document} (placed : d.Placed out) :
    d.copy = Path.absolute d.copy.names := by
  rw [placed.copy, Path.names_absolute]

theorem Placed.output_absolute {out : Location} {d : Document} (placed : d.Placed out) :
    d.output = Path.absolute d.output.names := by
  rw [placed.output]
  split
  · exact placed.copy_absolute
  · rw [Path.names_absolute]

theorem Placed.output_of_binary {out : Location} {d : Document} (placed : d.Placed out)
    (binary : d.kind.isBinary = true) : d.output = d.copy := by
  rw [placed.output, if_pos binary]

theorem Placed.output_inside {out : Location} {d : Document} (placed : d.Placed out) :
    d.output.names ≠ [] := by
  obtain ⟨last, found⟩ := Option.isSome_iff_exists.mp (List.getLast?_isSome.mpr placed.named)
  rw [placed.output, placed.copy]
  split <;> simp [pageNames, found]

theorem Placed.targets_below {out loc : Location} {d : Document} (placed : d.Placed out)
    (target : loc ∈ d.targets) : out <+: loc := by
  have copy : out <+: d.copy.names := by
    rw [placed.copy, Path.names_absolute]
    exact List.prefix_append out _
  have output : out <+: d.output.names := by
    rw [placed.output]
    split
    · exact copy
    · rw [Path.names_absolute]
      exact List.prefix_append out _
  unfold targets at target
  split at target
  · rcases List.mem_pair.mp target with rfl | rfl
    · exact copy
    · exact output
  · rw [List.mem_singleton.mp target]
    exact output

theorem names_eq_some_iff {p : Path} {names : List Text} :
    namesBelow?.names p = some names ↔
      (∀ part ∈ p, part = .current ∨ part.isName) ∧ p.names = names := by
  fun_induction namesBelow?.names p generalizing names with
  | case1 => simp [Path.names]
  | case2 n rest ih =>
    rw [Option.map_eq_some_iff]
    constructor
    · rintro ⟨more, found, rfl⟩
      obtain ⟨down, named⟩ := ih.mp found
      exact ⟨by simpa [Component.isName] using down, by simp [Path.names, ← named]⟩
    · rintro ⟨down, rfl⟩
      refine ⟨Path.names rest, ih.mpr ⟨(List.forall_mem_cons.mp down).2, rfl⟩, ?_⟩
      simp [Path.names]
  | case3 rest ih => simp [ih, Path.names]
  | case4 rest => simp [Component.isName]
  | case5 rest => simp [Component.isName]

theorem names_of_ofNames (names : List Text) :
    namesBelow?.names (Path.ofNames names) = some names := by
  refine names_eq_some_iff.mpr ⟨?_, ?_⟩
  · simp [Path.ofNames, Component.isName]
  · simp [Path.names, Path.ofNames, List.filterMap_map]

theorem namesBelow?_ofNames {names ns : List Text}
    (found : namesBelow? (Path.ofNames names) = some ns) : ns = names ∧ ns ≠ [] := by
  simp only [namesBelow?, names_of_ofNames, Option.filter_eq_some_iff, Option.some.injEq] at found
  exact ⟨found.1.symm, by simpa using found.2⟩

/-- The places of a document's page and copy below the output root, whatever components it has. -/
structure Laid (root : Path) (d : Document) : Prop where
  named : d.relative ≠ []
  copy : d.copy = root ++ Path.ofNames ("src".toList :: d.relative)
  output : d.output =
    if d.kind.isBinary then d.copy else root ++ Path.ofNames (pageNames d.relative)
  shared : d.kind.isBinary = true → d.sharesSource = true

theorem ofSource?_made {out root source : Path} {g : Group} {m : Nat} {d : Document}
    (found : ofSource? out g root source m = some d) :
    ∃ rest, Path.below? root source = some rest ∧ namesBelow? rest = some d.relative ∧
      d.source = source ∧ d.kind = g.kind ∧ d.modified = m ∧ d.Laid out := by
  simp only [ofSource?, bind, Option.bind_eq_some_iff] at found
  obtain ⟨rest, below, names, named, made⟩ := found
  have some : names ≠ [] := by simpa using (Option.filter_eq_some_iff.mp named).2
  simp only [pure, Option.some.injEq] at made
  subst made
  refine ⟨rest, below, named, rfl, rfl, rfl, some, ?_, rfl, ?_⟩
  · simp [copyRoot, Path.ofNames]
  · intro binary
    simp only at binary
    simp [Group.sharesSource, binary]

theorem ofSource?_laid {out : Path} {root path : Location} {g : Group} {m : Nat} {d : Document}
    (found : ofSource? out g (Path.absolute root) (Path.absolute path) m = some d) :
    path = root ++ d.relative ∧ d.source = Path.absolute path ∧ d.kind = g.kind ∧
      d.modified = m ∧ d.Laid out := by
  obtain ⟨rest, below, named, source, kind, modified, laid⟩ := ofSource?_made found
  obtain ⟨names, rfl, rfl⟩ := Path.below?_absolute below
  rw [(namesBelow?_ofNames named).1]
  exact ⟨rfl, source, kind, modified, laid⟩

theorem Laid.placed {out : Location} {d : Document} (laid : d.Laid (Path.absolute out)) :
    d.Placed out := by
  refine ⟨laid.named, ?_, ?_, laid.shared⟩
  · rw [laid.copy, Path.absolute_append]
  · rw [laid.output, Path.absolute_append]

theorem ofSource?_spec {out root path : Location} {g : Group} {m : Nat} {d : Document}
    (found : ofSource? (Path.absolute out) g (Path.absolute root) (Path.absolute path) m = some d) :
    path = root ++ d.relative ∧ d.source = Path.absolute path ∧ d.kind = g.kind ∧
      d.modified = m ∧ d.Placed out := by
  obtain ⟨path, source, kind, modified, laid⟩ := ofSource?_laid found
  exact ⟨path, source, kind, modified, laid.placed⟩

theorem ofSource?_modified (out : Path) (g : Group) (root source : Path) (m : Nat) :
    ofSource? out g root source m =
      (ofSource? out g root source 0).map fun d => { d with modified := m } := by
  unfold ofSource?
  cases Path.below? root source with
  | none => rfl
  | some rest =>
    simp only [bind, Option.bind_some]
    cases namesBelow? rest with
    | none => rfl
    | some names => rfl

end PodSite.Document
