import PodSite.Proofs.Files.Way
import PodSite.Proofs.Site.Build

/-!
The ways to a document's page and copy, whatever components the output root has: down to the output
root first, and then below it.
-/
namespace PodSite

theorem Path.below?_append (base rest : Path) : below? base (base ++ rest) = some rest := by
  induction base with
  | nil => rfl
  | cons part base ih => simpa [below?] using ih

theorem Path.below?_names (root names : Location) :
    below? (absolute root) (absolute (root ++ names)) = some (ofNames names) := by
  rw [absolute_append]
  exact below?_append _ _

theorem Path.stops_dropLast {x loc : Location} {p : Path} (member : x ∈ stops loc p.dropLast) :
    x ∈ stops loc p := by
  cases p using List.reverseRecOn with
  | nil => exact member
  | append_singleton front part =>
    rw [List.dropLast_concat] at member
    exact mem_stops_append.mpr (Or.inl member)

namespace Document

theorem pageNames_ne_nil {names : List Text} (some : names ≠ []) : pageNames names ≠ [] := by
  obtain ⟨last, found⟩ := Option.isSome_iff_exists.mp (List.getLast?_isSome.mpr some)
  simp [pageNames, found]

theorem pageNames_length (names : List Text) : (pageNames names).length = names.length := by
  unfold pageNames
  cases last : names.getLast? with
  | none => simp [List.getLast?_eq_none_iff.mp last]
  | some n =>
    have := congrArg List.length (List.dropLast_append_getLast? n last)
    simpa using this

theorem ofSource?_below (out : Path) (g : Group) (root : Location) {names : List Text}
    (named : names ≠ []) (m : Nat) :
    ∃ d, ofSource? out g (Path.absolute root) (Path.absolute (root ++ names)) m = some d ∧
      d.relative = names := by
  have kept : namesBelow? (Path.ofNames names) = some names := by
    simp [namesBelow?, names_of_ofNames, named]
  simp [ofSource?, Path.below?_names, kept]

/-- The names of a document's page below the output root. -/
def pagePlace (d : Document) : List Text :=
  if d.kind.isBinary then "src".toList :: d.relative else pageNames d.relative

def places (d : Document) : List Location :=
  if d.sharesSource then [d.copy.leadFrom [], d.output.leadFrom []] else [d.output.leadFrom []]

theorem output_mem_places (d : Document) : d.output.leadFrom [] ∈ d.places := by
  unfold places
  split <;> simp

theorem copy_mem_places {d : Document} (shared : d.sharesSource = true) :
    d.copy.leadFrom [] ∈ d.places := by
  simp [places, shared]

namespace Laid
variable {root : Path} {d : Document} (laid : d.Laid root)
include laid

theorem page : d.output = root ++ Path.ofNames d.pagePlace := by
  rw [laid.output, pagePlace]
  split
  · exact laid.copy
  · rfl

theorem pagePlace_ne_nil : d.pagePlace ≠ [] := by
  unfold pagePlace
  split
  · simp
  · exact pageNames_ne_nil laid.named

theorem copy_lead : d.copy.leadFrom [] = root.leadFrom [] ++ "src".toList :: d.relative := by
  rw [laid.copy, Path.leadFrom_append, Path.leadFrom_ofNames]

theorem output_lead : d.output.leadFrom [] = root.leadFrom [] ++ d.pagePlace := by
  rw [laid.page, Path.leadFrom_append, Path.leadFrom_ofNames]

/-- A page and the copy beside it have different places: the copy is one name deeper. -/
theorem copy_ne_output (page : d.kind.isBinary = false) :
    d.copy.leadFrom [] ≠ d.output.leadFrom [] := by
  rw [laid.copy_lead, laid.output_lead, pagePlace, if_neg (by simp [page])]
  intro same
  have lengths := congrArg List.length (List.append_cancel_left same)
  rw [List.length_cons, pageNames_length] at lengths
  omega

theorem copy_stops {x : Location} (member : x ∈ Path.stops [] d.copy) :
    x ∈ Path.stops [] root ∨ root.leadFrom [] <+: x := by
  rw [laid.copy, Path.mem_stops_append] at member
  exact member.imp_right fun later => (Path.mem_stops_ofNames.mp later).1

theorem output_stops {x : Location} (member : x ∈ Path.stops [] d.output) :
    x ∈ Path.stops [] root ∨ root.leadFrom [] <+: x := by
  rw [laid.page, Path.mem_stops_append] at member
  exact member.imp_right fun later => (Path.mem_stops_ofNames.mp later).1

end Laid
end Document

namespace Site
open FileTree

theorem documentOf?_eq (c : Config) (index : Nat) (g : Group) (root names : Location) (m : Nat) :
    documentOf? c index g root ⟨root ++ names, m⟩ =
      if Group.owner? c.groups (Path.absolute (root ++ names)) = some index ∧
          c.isExcluded (Document.slashed names) = false then
        Document.ofSource? c.outputRoot g (Path.absolute root) (Path.absolute (root ++ names)) m
      else none := by
  have spelled : (Path.ofNames names).joinedBy ['/'] = Document.slashed names := by
    simp [Path.joinedBy, Path.ofNames, Document.slashed, Function.comp_def, Component.spell]
  simp only [documentOf?, bind, Path.below?_names, Option.bind_some, spelled]
  by_cases owned : Group.owner? c.groups (Path.absolute (root ++ names)) = some index
  · cases excluded : c.isExcluded (Document.slashed names) <;> simp [owned]
  · simp [owned]

theorem documentOf?_made {c : Config} {index : Nat} {g : Group} {root : Location} {f : Found}
    {d : Document} (found : documentOf? c index g root f = some d) :
    Group.owner? c.groups (Path.absolute f.path) = some index ∧
      Document.ofSource? c.outputRoot g (Path.absolute root) (Path.absolute f.path) f.modified =
        some d := by
  simp only [documentOf?, bind] at found
  split at found
  · cases found
  rename_i owned
  obtain ⟨rest, _, found⟩ := Option.bind_eq_some_iff.mp found
  split at found
  · cases found
  exact ⟨not_not.mp owned, found⟩

theorem documentOf?_laid {c : Config} {index : Nat} {g : Group} {root : Location} {f : Found}
    {d : Document} (found : documentOf? c index g root f = some d) :
    f.path = root ++ d.relative ∧ d.source = Path.absolute f.path ∧ d.kind = g.kind ∧
      d.modified = f.modified ∧ d.Laid c.outputRoot ∧
      Group.owner? c.groups (Path.absolute f.path) = some index := by
  obtain ⟨owned, made⟩ := documentOf?_made found
  obtain ⟨path, source, kind, modified, laid⟩ := Document.ofSource?_laid made
  exact ⟨path, source, kind, modified, laid, owned⟩

def discoveredBy (t : FileTree) (c : Config) : Except BuildError (List GroupDocuments) :=
  discover (t.makeDirectories c.outputRoot).1 c

theorem tasks_laid {t : FileTree} (sound : t.Sound) (linkFree : t.LinkFree) {c : Config}
    {sets : List GroupDocuments} (found : discover t c = .ok sets) {task : Task}
    (member : task ∈ tasksOf sets) :
    ∃ p, task.document.source = Path.absolute p ∧ task.document.Laid c.outputRoot ∧
      ∃ e, t.get? p = some e ∧ e.isFile = true := by
  obtain ⟨set, listed, member⟩ := List.mem_flatMap.mp member
  obtain ⟨d, of_set, rfl⟩ := List.mem_map.mp member
  obtain ⟨root, _, there, f, walked, made⟩ := mem_discover found listed of_set
  obtain ⟨_, e, here, file, _⟩ := (mem_walk sound linkFree _ there f).mp walked
  obtain ⟨_, source, _, _, laid, _⟩ := documentOf?_laid made
  exact ⟨f.path, source, laid, e, here, file⟩

end Site
end PodSite
