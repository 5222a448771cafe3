import PodSite.Proofs.OutputRoot
import PodSite.Proofs.Site.Hidden

/-!
Sources stay as they are. A build writes copies and pages only, and discovery leaves the places of
both out, unless a library root stands among the copies or a source looks like a page of the output.
-/
namespace PodSite.Site
open FileTree

/-- A source that may stand where a build writes: it was found from a library root inside of the
copies, or it has the suffix of pages and was found from the output root or from inside of it. -/
def Exposed (c : Config) (source : Path) : Prop :=
  ∃ root ∈ c.libraryRoots, Path.absolute root <+: source ∧
    ((c.copyRoot <+: Path.absolute root ∧ c.copyRoot ≠ Path.absolute root) ∨
      (c.outputRoot <+: Path.absolute root ∧ Path.extension? source = some "html".toList))

instance (c : Config) : DecidablePred (Exposed c) := fun source =>
  inferInstanceAs (Decidable (∃ root ∈ c.libraryRoots, Path.absolute root <+: source ∧
    ((c.copyRoot <+: Path.absolute root ∧ c.copyRoot ≠ Path.absolute root) ∨
      (c.outputRoot <+: Path.absolute root ∧ Path.extension? source = some "html".toList))))

section Frame
variable {c : Config} {out : Location} (output : c.outputRoot = Path.absolute out) {t : FileTree}
  (sound : t.Sound) (linkFree : t.LinkFree)
include output

theorem exposed_of_place {d : Document} {p : Location} (found : Discovered c out t d p)
    (place : OutputPlace out p) : Exposed c d.source := by
  obtain ⟨root, listed, view⟩ := found.shown
  have below : Path.absolute root <+: d.source := by
    rw [found.source]
    exact Path.absolute_prefix.mpr view.above
  refine ⟨root, listed, below, ?_⟩
  -- from a root above the place, the walk would have left the place out
  rcases place with copy | ⟨inside, suffix⟩
  · have deeper : ¬ root <+: out ++ ["src".toList] := fun above =>
      copies_hidden output above view copy
    have inner : out ++ ["src".toList] <+: root :=
      (List.prefix_or_prefix_of_prefix view.above copy).resolve_left deeper
    rw [copyRoot_absolute output]
    refine Or.inl ⟨Path.absolute_prefix.mpr inner, ?_⟩
    intro same
    exact deeper (Path.absolute_injective same ▸ List.prefix_refl _)
  · have inner : out <+: root := by
      by_contra apart
      exact output_hidden output apart view inside
    obtain ⟨_, _, s, _, extension⟩ := suffix_of_owned found.owned
    rw [suffix s extension] at extension
    rw [found.source, output]
    exact Or.inr ⟨Path.absolute_prefix.mpr inner, extension⟩

include sound linkFree

theorem grown_build {sets : List GroupDocuments} (found : discover t c = .ok sets) :
    Grown (WrittenBy (tasksOf sets)) t (build t c).1 := by
  have made := grown_makeDirectories (fun _ => False) c.outputRoot sound linkFree
  unfold build
  match t.makeDirectories c.outputRoot, made with
  | (t₀, .error cause), made => exact made.mono fun _ => False.elim
  | (t₀, .ok _), made =>
    -- making the output root adds directories only, so the same documents are found again
    have kept := SourcesKept.of_grown (c := c) sound linkFree made fun _ _ _ _ _ => not_false
    obtain ⟨again, found', tasks, _⟩ :=
      discover_kept output sound linkFree made.sound made.linkFree kept found
    have placed := tasks_placed made.sound made.linkFree output found'
    have worked := grown_buildTasks c (referencesOf again) (tasksOf again) placed made.sound
      made.linkFree ⟨[], 0, [], .initial c.groups⟩
    have start : Grown (WrittenBy (tasksOf again)) t t₀ := made.mono fun _ => False.elim
    rw [← buildSets_eq] at worked
    simp only [found', ← tasks]
    split
    · rename_i failed
      rw [failed] at worked
      exact start.trans worked
    · rename_i done
      rw [done] at worked
      exact start.trans worked

end Frame

/-- After a build, successful or not, every source is as it was, bytes and time, but for exposed
ones that are in the place of a page or a copy. -/
theorem build_keeps_sources {t : FileTree} {cwd : Location} {file : Option Text}
    {settings : Settings} {c : Config} {sets : List GroupDocuments}
    (resolved : Config.resolve t cwd file settings = .ok c)
    (down : Component.parent ∉ c.outputRoot) (sound : t.Sound) (linkFree : t.LinkFree)
    (found : discover t c = .ok sets) :
    ∀ task ∈ tasksOf sets, ∃ loc e, task.document.source = Path.absolute loc ∧ e.isFile = true ∧
      t.get? loc = some e ∧
      ((build t c).1.get? loc = some e ∨
        (Exposed c task.document.source ∧ WrittenBy (tasksOf sets) loc)) := by
  obtain ⟨_, loc, missing, _, output, _, _⟩ :=
    Config.outputRootOf_spec (Config.resolve_output resolved) down
  have grown := grown_build output sound linkFree found
  intro task member
  obtain ⟨p, source⟩ := tasks_discovered sound linkFree output found member
  obtain ⟨e, here, file, _⟩ := source.file
  refine ⟨p, e, source.source, file, here, ?_⟩
  by_cases written : WrittenBy (tasksOf sets) p
  · have place := written_place (tasks_placed sound linkFree output found) written
    exact Or.inr ⟨exposed_of_place output source place, written⟩
  · exact Or.inl ((grown.file_iff written file).mpr here)

def moduleSettings (output : Text) (libraries : List Text) : Settings :=
  ⟨⟨[], [], []⟩, output, libraries, [], false,
    some [⟨"Modules".toList, .modules, ["pm".toList], .lines, none, none⟩]⟩

def moduleConfig (output : Location) (libraries : List Location) : Config :=
  ⟨Path.absolute output, (Path.absolute output).spell, libraries, [], false, ⟨[], [], []⟩,
    [⟨"Modules".toList, .modules, ["pm".toList], .lines, true, none⟩]⟩

def sharedTree : FileTree :=
  ⟨[ (["l".toList], .directory 0), (["l".toList, "src".toList], .directory 0),
    (["l".toList, "src".toList, "A.pm".toList], .file [67] 1), (["m".toList], .directory 0),
    (["m".toList, "A.pm".toList], .file [65] 3)], 5⟩

def sharedConfig : Config := moduleConfig ["l".toList] [["l".toList], ["m".toList]]

def sharedSets : List GroupDocuments := (discover sharedTree sharedConfig).toOption.getD []

theorem build_keeps_sources_shared :
    (tasksOf sharedSets).map (·.document.source) = [Path.absolute ["m".toList, "A.pm".toList]] ∧
      (build sharedTree sharedConfig).1.get? ["m".toList, "A.pm".toList] = some (.file [65] 3) := by
  have sound : sharedTree.Sound := sound_of_entries (by decide) (by decide)
  have linkFree : sharedTree.LinkFree := linkFree_of_entries (by decide)
  have resolved : Config.resolve sharedTree [] none
      (moduleSettings "/l".toList ["/l".toList, "/m".toList]) = .ok sharedConfig := rfl
  have found : discover sharedTree sharedConfig = .ok sharedSets :=
    ok_of_isOk [] (by decide +kernel)
  have sources : (tasksOf sharedSets).map (·.document.source) =
      [Path.absolute ["m".toList, "A.pm".toList]] := by decide +kernel
  obtain ⟨task, member, source⟩ := List.mem_map.mp (sources ▸ List.mem_singleton_self _)
  obtain ⟨loc, e, place, _, here, kept⟩ :=
    build_keeps_sources resolved (by decide) sound linkFree found task member
  rw [source] at place kept
  cases Path.absolute_injective place
  cases (by decide : sharedTree.get? _ = some (.file [65] 3)).symm.trans here
  rcases kept with kept | ⟨exposed, _⟩
  · exact ⟨sources, kept⟩
  · exact absurd exposed (by decide)

def nestedTree : FileTree :=
  ⟨[ (["l".toList], .directory 0), (["l".toList, "v".toList], .directory 0),
    (["l".toList, "v".toList, "A.pm".toList], .file [66] 1), (["o".toList], .directory 0),
    (["o".toList, "src".toList], .directory 0),
    (["o".toList, "src".toList, "v".toList], .directory 0),
    (["o".toList, "src".toList, "v".toList, "A.pm".toList], .file [65] 1)], 5⟩

def nestedConfig : Config :=
  moduleConfig ["o".toList] [["l".toList], ["o".toList, "src".toList, "v".toList]]

theorem build_overwrites_source :
    nestedTree.Sound ∧ nestedTree.LinkFree ∧
      Config.resolve nestedTree [] none
          (moduleSettings "/o".toList ["/l".toList, "/o/src/v".toList]) = .ok nestedConfig ∧
      (tasksOf ((discover nestedTree nestedConfig).toOption.getD [])).map (·.document.source) =
        [Path.absolute ["l".toList, "v".toList, "A.pm".toList],
          Path.absolute ["o".toList, "src".toList, "v".toList, "A.pm".toList]] ∧
      nestedTree.get? ["o".toList, "src".toList, "v".toList, "A.pm".toList] =
        some (.file [65] 1) ∧
      (build nestedTree nestedConfig).1.get? ["o".toList, "src".toList, "v".toList, "A.pm".toList] =
        some (.file [66] 5) := by
  refine ⟨sound_of_entries (by decide) (by decide), linkFree_of_entries (by decide), rfl, ?_, ?_, ?_⟩
  · decide +kernel
  · decide
  · decide +kernel

end PodSite.Site
