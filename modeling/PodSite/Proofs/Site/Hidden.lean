import PodSite.Proofs.Site.Build

/-!
Generated files are no sources. A walk from a library root above the output root leaves all output
out; one from the output root itself leaves the copies out, and the other generated files have
suffixes that no group lists.
-/
namespace PodSite

namespace Path

theorem fileName?_concat (loc : Location) (n : Text) :
    fileName? (absolute (loc ++ [n])) = some n := by
  rw [absolute_append, fileName?]
  simp [ofNames]

theorem splitExtension_dot (front back : Text) (plain : '.' ∉ back) (some : front ≠ []) :
    splitExtension (front ++ '.' :: back) = (front, Option.some back) := by
  have letters : ∀ c ∈ back.reverse, (c != '.') = true := by
    intro c member
    simp only [bne_iff_ne, ne_eq]
    rintro rfl
    exact plain (List.mem_reverse.mp member)
  have turned : (front ++ '.' :: back).reverse = back.reverse ++ '.' :: front.reverse := by simp
  have taken : (front ++ '.' :: back).reverse.takeWhile (· != '.') = back.reverse := by
    rw [turned, List.takeWhile_append_of_pos letters]
    simp
  have dropped : (front ++ '.' :: back).reverse.dropWhile (· != '.') = '.' :: front.reverse := by
    rw [turned, List.dropWhile_append_of_pos letters]
    simp
  unfold splitExtension
  rw [taken, dropped]
  simp only [List.reverse_cons, List.reverse_reverse, List.dropLast_concat]

end Path

namespace Site
open FileTree

def generatedSuffixes : List Text :=
  ["html".toList, "json".toList, "css".toList, "svg".toList]

def Generated (out loc : Location) : Prop :=
  out ++ ["src".toList] <+: loc ∨
    (out <+: loc ∧
      ∀ s, Path.extension? (Path.absolute loc) = some s → s ∈ generatedSuffixes)

/-- No library root stands strictly below the output root, and if they are the same, no group lists
a suffix of generated files. -/
structure HidesOutput (c : Config) : Prop where
  above : ∀ root ∈ c.libraryRoots, c.outputRoot <+: Path.absolute root →
    Path.absolute root = c.outputRoot
  plain : ∀ root ∈ c.libraryRoots, Path.absolute root = c.outputRoot →
    ∀ g ∈ c.groups, ∀ s ∈ generatedSuffixes, s ∉ g.suffixes

theorem Generated.below {out loc : Location} (generated : Generated out loc) : out <+: loc := by
  rcases generated with copy | ⟨below, _⟩
  · exact (List.prefix_append out _).trans copy
  · exact below

theorem suffix_of_owned {groups : List Group} {p : Path} (owned : (Group.owner? groups p).isSome) :
    ∃ g ∈ groups, ∃ s ∈ g.suffixes, Path.extension? p = some s := by
  rw [Group.owner?, List.findIdx?_isSome] at owned
  obtain ⟨g, member, owns⟩ := List.any_eq_true.mp owned
  obtain ⟨s, extension, listed⟩ := (Option.any_eq_true _ _).mp owns
  exact ⟨g, member, s, List.contains_iff_mem.mp listed, extension⟩

theorem generated_hidden {c : Config} {out : Location} (output : c.outputRoot = Path.absolute out)
    (hides : HidesOutput c) {root p : Location} (listed : root ∈ c.libraryRoots)
    (view : InView (prunedFrom c root) root p)
    (owned : (Group.owner? c.groups (Path.absolute p)).isSome) : ¬ Generated out p := by
  intro generated
  by_cases inside : out <+: root
  · have same := hides.above root listed (output ▸ Path.absolute_prefix.mpr inside)
    cases Path.absolute_injective (same.trans output)
    rcases generated with copy | ⟨_, suffixes⟩
    · exact copies_hidden output (List.prefix_append out _) view copy
    · obtain ⟨g, member, s, listed_suffix, extension⟩ := suffix_of_owned owned
      exact hides.plain _ listed same g member s (suffixes s extension) listed_suffix
  · exact output_hidden output inside view generated.below

def OutputPlace (out loc : Location) : Prop :=
  out ++ ["src".toList] <+: loc ∨
    (out <+: loc ∧ ∀ s, Path.extension? (Path.absolute loc) = some s → s = "html".toList)

theorem OutputPlace.generated {out loc : Location} (place : OutputPlace out loc) :
    Generated out loc := by
  refine place.imp id fun ⟨below, suffix⟩ => ⟨below, fun s extension => ?_⟩
  rw [suffix s extension]
  simp [generatedSuffixes]

theorem copy_place {out : Location} {d : Document} (placed : d.Placed out) :
    OutputPlace out d.copy.names := by
  rw [placed.copy, Path.names_absolute]
  exact Or.inl ⟨d.relative, by simp⟩

theorem extension_page (front : Path) {names : List Text} (named : names ≠ []) {s : Text}
    (extension : Path.extension? (front ++ Path.ofNames (Document.pageNames names)) = some s) :
    s = "html".toList := by
  obtain ⟨last, found⟩ := Option.isSome_iff_exists.mp (List.getLast?_isSome.mpr named)
  have page : Path.fileName? (front ++ Path.ofNames (Document.pageNames names)) =
      some (last ++ '.' :: "html".toList) := by
    simp [Document.pageNames, found, Path.fileName?, Path.ofNames]
  rw [Path.extension?, page, Option.bind_some] at extension
  by_cases empty : last = []
  · simp [empty, Path.splitExtension] at extension
  · rw [Path.splitExtension_dot _ _ (by decide) empty] at extension
    exact (Option.some.inj extension).symm

theorem page_place (out : Location) {names : Location} (named : names ≠ []) :
    OutputPlace out (out ++ Document.pageNames names) := by
  refine Or.inr ⟨List.prefix_append out _, fun s extension => ?_⟩
  rw [Path.absolute_append] at extension
  exact extension_page _ named extension

theorem written_place {out : Location} {tasks : List Task}
    (placed : ∀ task ∈ tasks, task.document.Placed out) {loc : Location}
    (written : WrittenBy tasks loc) : OutputPlace out loc := by
  obtain ⟨task, member, target⟩ := written
  have place := placed task member
  have output : OutputPlace out task.document.output.names := by
    rw [place.output]
    split
    · exact copy_place place
    · rw [Path.names_absolute]
      exact page_place out place.named
  unfold Document.targets at target
  split at target
  · rcases List.mem_pair.mp target with rfl | rfl
    · exact copy_place place
    · exact output
  · rw [List.mem_singleton.mp target]
    exact output

/-- Documents are written at places of generated files. -/
theorem written_generated {out : Location} {tasks : List Task}
    (placed : ∀ task ∈ tasks, task.document.Placed out) {loc : Location}
    (written : WrittenBy tasks loc) : Generated out loc :=
  (written_place placed written).generated

theorem sources_unwritten {c : Config} {out : Location} (output : c.outputRoot = Path.absolute out)
    (hides : HidesOutput c) {t : FileTree} (sound : t.Sound) (linkFree : t.LinkFree)
    {sets : List GroupDocuments} (found : discover t c = .ok sets) :
    ∀ task ∈ tasksOf sets, SourceUnwritten (tasksOf sets) task := by
  intro task member
  obtain ⟨p, source⟩ := tasks_discovered sound linkFree output found member
  refine ⟨p, source.source, fun written => ?_⟩
  obtain ⟨root, listed, view⟩ := source.shown
  exact generated_hidden output hides listed view source.owned
    (written_generated (tasks_placed sound linkFree output found) written)

end Site
end PodSite
