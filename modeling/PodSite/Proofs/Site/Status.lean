import PodSite.Proofs.Files.Through
import PodSite.Proofs.Site.Links
import PodSite.Proofs.Site.Order

/-!
The status of a project and a build of it. A build decides about each document when its turn comes,
after the output root was made and the documents before were written; the status is about the tree
as it is. Documents that keep apart do not change each other's answer. Making the output root can: a
page that could not be reached before may come to light.
-/
namespace PodSite

theorem Path.ofText_slashed {names : List Text} (some : names ≠ [])
    (valid : ∀ n ∈ names, n.IsFileName) : ofText (Document.slashed names) = ofNames names := by
  rw [Document.slashed, ofText_intercalate some fun n member => (valid n member).2.2.2,
    ofSegment_fileNames valid, List.filter_eq_self]
  · intro part member
    obtain ⟨n, _, rfl⟩ := List.mem_map.mp member
    simp
  · intro first front
    obtain ⟨full, dot, _⟩ := valid first (List.mem_of_mem_head? front)
    exact ⟨full, dot⟩

theorem Document.ofSource?_outputRelative {out root source : Path} {g : Group} {m : Nat}
    {d : Document} (made : ofSource? out g root source m = some d) :
    d.outputRelative = slashed d.pagePlace := by
  simp only [ofSource?, bind, Option.bind_eq_some_iff, pure, Option.some.injEq] at made
  obtain ⟨_, _, names, _, rfl⟩ := made
  unfold pagePlace
  split
  · rfl
  · rfl

namespace Site
open FileTree

theorem outputRelative_eq {t : FileTree} {c : Config} {sets : List GroupDocuments}
    (found : discover t c = .ok sets) {task : Task} (member : task ∈ tasksOf sets) :
    task.document.outputRelative = Document.slashed task.document.pagePlace := by
  obtain ⟨set, listed, member⟩ := List.mem_flatMap.mp member
  obtain ⟨d, of_set, rfl⟩ := List.mem_map.mp member
  obtain ⟨root, _, _, f, _, made⟩ := mem_discover found listed of_set
  exact Document.ofSource?_outputRelative (documentOf?_made made).2

section Below
variable {t t' : FileTree} {root : Path} (linkFree : t.LinkFree) (opens : t.Opens [] root)
  {names : List Text} (some : names ≠ []) {content : Bytes} {u : Unit}
include linkFree opens some

theorem wrote_below (done : writeFile t (root ++ Path.ofNames names) content = (t', .ok u)) :
    Wrote (· <+: root.leadFrom [] ++ names) (root.leadFrom [] ++ names) content t t' := by
  have around : root.leadFrom [] ++ names.dropLast <+: root.leadFrom [] ++ names :=
    (List.prefix_append_right_inj _).mpr (List.dropLast_prefix names)
  have made := (furnished_through linkFree opens names.dropLast).mono
    fun x (above : x <+: _) => above.trans around
  rw [Path.ofNames_concat some, ← List.append_assoc] at done
  have wrote := wrote_furnished linkFree made (by simpa using around) done
  rwa [Path.leadFrom_append, Path.leadFrom_ofNames, List.append_assoc,
    List.dropLast_concat_getLast] at wrote

theorem touched_writeFile {places : Location → Prop} (sound : t.Sound)
    (place : places (root.leadFrom [] ++ names))
    (done : writeFile t (root ++ Path.ofNames names) content = (t', .ok u)) :
    Touched places t t' := by
  obtain ⟨_, _, _, _, _, spared⟩ := writeFile_linked sound done
  exact .of_wrote spared.toKeeps (wrote_below linkFree opens some done) place

end Below

section Run
variable {c : Config} {references : References} {t t' : FileTree} {task : Task}

theorem touched_publishCopy (sound : t.Sound) (linkFree : t.LinkFree)
    (opens : t.Opens [] c.outputRoot) (laid : task.document.Laid c.outputRoot) {u : Unit}
    (done : publishCopy t task.document = (t', .ok u)) :
    Touched (· ∈ task.document.places) t t' := by
  unfold publishCopy at done
  split at done
  · rename_i shared
    split at done
    · cases done
    · rw [laid.copy] at done
      have place := Document.copy_mem_places shared
      rw [laid.copy_lead] at place
      exact touched_writeFile linkFree opens (by simp) sound place done
  · cases done
    exact .refl sound linkFree _

theorem touched_publishes (sound : t.Sound) (linkFree : t.LinkFree)
    (opens : t.Opens [] c.outputRoot) (laid : task.document.Laid c.outputRoot)
    (publishes : Publishes c references task t t') : Touched (· ∈ task.document.places) t t' := by
  unfold Publishes at publishes
  split at publishes
  · exact touched_publishCopy sound linkFree opens laid publishes
  · obtain ⟨source, middle, _, copied, written⟩ := publishes
    have first := touched_publishCopy sound linkFree opens laid copied
    have place := task.document.output_mem_places
    rw [laid.output_lead] at place
    rw [laid.page] at written
    exact first.trans (touched_writeFile first.linkFree
      (opens.later fun x there => first.keeps.directory there) laid.pagePlace_ne_nil
      first.keeps.sound place written)

theorem isStale_touched {x : Task} (sound : t.Sound) (linkFree : t.LinkFree)
    (opens : t.Opens [] c.outputRoot) (touched : Touched (· ∈ task.document.places) t t')
    (laid : x.document.Laid c.outputRoot) (apart : Unrelated task x) (force : Bool) :
    isStale t' force x.document = isStale t force x.document := by
  have own := x.document.output_mem_places
  rw [laid.output_lead] at own
  have same := touched.elsewhere fun y place => (apart y place _ own).2
  have opens' := opens.later fun x (there : t.DirectoryAt x) => touched.keeps.directory there
  unfold isStale
  rw [laid.page, modified?_through laid.pagePlace_ne_nil opens opens' sound linkFree
    touched.keeps.sound touched.linkFree same]

theorem listed?_isSome (readable : ∃ content, t.read [] task.document.source = .ok content) :
    (listed? t task).isSome := by
  obtain ⟨content, read⟩ := readable
  unfold listed?
  split
  · rfl
  · simp [read]

theorem output_of_listed? {d : Document} (listed : listed? t task = some d) :
    d.output = task.document.output := by
  unfold listed? at listed
  split at listed
  · cases listed
    rfl
  · split at listed
    · cases listed
    · cases listed
      rfl

/-- Documents that keep apart are written or left as the tree before the first of them says. -/
theorem buildTasks_foreseen (tasks : List Task) (sound : t.Sound) (linkFree : t.LinkFree)
    (opens : t.Opens [] c.outputRoot) (laid : ∀ x ∈ tasks, x.document.Laid c.outputRoot)
    (apart : tasks.Pairwise Unrelated)
    (readable : ∀ x ∈ tasks, ∃ content, t.read [] x.document.source = .ok content)
    {r r' : Report} (worked : buildTasks c references t r tasks = (t', .ok r')) :
    r'.published = r.published ++
        (tasks.filter fun x => isStale t c.force x.document).map (·.document.output) ∧
      r'.fresh = r.fresh + (tasks.filter fun x => !isStale t c.force x.document).length := by
  induction tasks generalizing t r with
  | nil =>
    cases worked
    simp
  | cons task rest ih =>
    obtain ⟨before, apart⟩ := List.pairwise_cons.mp apart
    obtain ⟨first, laid⟩ := List.forall_mem_cons.mp laid
    obtain ⟨source, readable⟩ := List.forall_mem_cons.mp readable
    rcases buildTasks_cons_ok worked with
      ⟨missing, further⟩ | ⟨d, _, fresh, further⟩ | ⟨d, t₁, listed, stale, publishes, further⟩
    · have listed := listed?_isSome source
      simp [missing] at listed
    · obtain ⟨published, left⟩ := ih sound linkFree opens laid apart readable further
      rw [List.filter_cons, List.filter_cons, fresh]
      simp only [Report.add] at published left
      refine ⟨by simpa using published, ?_⟩
      simp only [Bool.not_false, if_true, List.length_cons]
      omega
    · have touched := touched_publishes sound linkFree opens first publishes
      -- the other documents keep apart from this one, so none of them gets stale or fresh
      have same : ∀ x ∈ rest, isStale t₁ c.force x.document = isStale t c.force x.document :=
        fun x member => isStale_touched sound linkFree opens touched (laid x member)
          (before x member) c.force
      obtain ⟨published, left⟩ := ih touched.keeps.sound touched.linkFree
        (opens.later fun x there => touched.keeps.directory there) laid apart
        (fun x member => touched.read (readable x member)) further
      rw [List.filter_congr same] at published
      rw [List.filter_congr fun x member => congrArg (!·) (same x member)] at left
      rw [List.filter_cons, List.filter_cons, stale]
      simp only [Report.add, output_of_listed? listed] at published left
      refine ⟨by simpa using published, by simpa using left⟩

end Run

section Discovery
variable {t t' : FileTree} {c : Config} (sound : t.Sound) (linkFree : t.LinkFree)
  (grown : Grown (fun _ => False) t t')
include sound linkFree grown

theorem isDirectory_grown {names : Location}
    (there : t.isDirectory [] (Path.absolute names) = true) :
    t'.isDirectory [] (Path.absolute names) = true := by
  rw [isDirectory_absolute sound linkFree] at there
  rw [isDirectory_absolute grown.sound grown.linkFree]
  exact ⟨there.1, grown.directory there.2⟩

theorem walk_grown {root : Location} (there : t.isDirectory [] (Path.absolute root) = true)
    (pruned : List Text → Bool) : t'.walk pruned root = t.walk pruned root := by
  have there' := isDirectory_grown sound linkFree grown there
  refine sorted_unique Found.path (walk_sorted grown.sound grown.linkFree pruned root)
    (walk_sorted sound linkFree pruned root) fun f => ?_
  rw [mem_walk sound linkFree pruned there, mem_walk grown.sound grown.linkFree pruned there']
  refine and_congr_right fun _ => exists_congr fun e => ?_
  constructor
  · rintro ⟨here, file, time⟩
    exact ⟨(grown.file_iff not_false file).mp here, file, time⟩
  · rintro ⟨here, file, time⟩
    exact ⟨(grown.file_iff not_false file).mpr here, file, time⟩

theorem documentsOf_grown (index : Nat) (g : Group) (roots : List Location)
    (known ds : List Document) (found : documentsOf t c index g known roots = .ok ds) :
    documentsOf t' c index g known roots = .ok ds := by
  induction roots generalizing known with
  | nil => exact found
  | cons root roots ih =>
    rw [documentsOf] at found
    split at found
    · rename_i there
      rw [documentsOf, if_pos (isDirectory_grown sound linkFree grown there)]
      simp only [documentsBelow, walk_grown sound linkFree grown there]
      exact ih _ found
    · cases found

theorem discoverFrom_grown (groups : List Group) (index : Nat) (sets : List GroupDocuments)
    (found : discoverFrom t c index groups = .ok sets) :
    discoverFrom t' c index groups = .ok sets := by
  induction groups generalizing index sets with
  | nil => exact found
  | cons g groups ih =>
    obtain ⟨ds, rest, first, later, rfl⟩ := discoverFrom_cons_ok found
    simp [discoverFrom, documentsOf_grown sound linkFree grown index g _ _ _ first,
      ih (index + 1) rest later, bind, Except.bind, pure, Except.pure]

end Discovery

def statusOf (t : FileTree) (force : Bool) (task : Task) : Status :=
  ⟨task.group.description, task.document.name, task.document.source, task.document.outputRelative,
    isStale t force task.document⟩

theorem status_eq {t : FileTree} {c : Config} {sets : List GroupDocuments}
    (found : discover t c = .ok sets) :
    status t c = .ok ((tasksOf sets).map (statusOf t c.force)) := by
  simp only [status, found, bind, Except.bind, pure, Except.pure, tasksOf, List.map_flatMap,
    List.map_map]
  rfl

/-- A build wrote the documents that a status calls stale, in its order, and left the others. -/
def Predicts (c : Config) (list : List Status) (r : Report) : Prop :=
  r.published = (list.filter (·.stale)).map (fun s => c.outputRoot ++ Path.ofText s.output) ∧
    r.fresh = (list.filter (!·.stale)).length

/-- A document whose page counts as up to date only once the output root is made. -/
def Revealed (t : FileTree) (c : Config) (d : Document) : Prop :=
  isStale t c.force d = true ∧ isStale (t.makeDirectories c.outputRoot).1 c.force d = false

theorem output_written {t : FileTree} (named : t.Named) {c : Config} {sets : List GroupDocuments}
    (found : discover t c = .ok sets) {task : Task} (member : task ∈ tasksOf sets) :
    c.outputRoot ++ Path.ofText task.document.outputRelative = task.document.output := by
  obtain ⟨laid, _, valid⟩ := tasks_named named found member
  have names : ∀ n ∈ task.document.pagePlace, n.IsFileName := by
    unfold Document.pagePlace
    split
    · exact List.forall_mem_cons.mpr ⟨by decide, valid⟩
    · exact Document.pageNames_valid valid
  rw [outputRelative_eq found member, Path.ofText_slashed laid.pagePlace_ne_nil names, laid.page]

theorem predicts_iff {t : FileTree} (named : t.Named) {c : Config} {sets : List GroupDocuments}
    (found : discover t c = .ok sets) (r : Report) :
    Predicts c ((tasksOf sets).map (statusOf t c.force)) r ↔
      r.published =
          ((tasksOf sets).filter fun x => isStale t c.force x.document).map (·.document.output) ∧
        r.fresh = ((tasksOf sets).filter fun x => !isStale t c.force x.document).length := by
  have outputs : ∀ x ∈ (tasksOf sets).filter fun x => isStale t c.force x.document,
      c.outputRoot ++ Path.ofText x.document.outputRelative = x.document.output :=
    fun x member => output_written named found (List.mem_filter.mp member).1
  unfold Predicts
  rw [List.filter_map, List.filter_map, List.map_map, List.length_map]
  simp only [Function.comp_def, statusOf, List.map_congr_left outputs]

theorem stale_same_iff (tasks : List Task) {before after : Task → Bool}
    (still : ∀ task ∈ tasks, after task = true → before task = true) :
    ((tasks.filter after).map (·.document.output) =
          (tasks.filter before).map (·.document.output) ∧
        (tasks.filter (!after ·)).length = (tasks.filter (!before ·)).length) ↔
      ∀ task ∈ tasks, ¬ (before task = true ∧ after task = false) := by
  constructor
  · rintro ⟨same, _⟩ task member ⟨stale, fresh⟩
    have both : tasks.filter after = (tasks.filter before).filter after := by
      rw [List.filter_filter]
      refine List.filter_congr fun x listed => ?_
      cases later : after x with
      | false => rfl
      | true => simp [still x listed later]
    have lengths := congrArg List.length same
    rw [List.length_map, List.length_map, both, List.length_filter_eq_length_iff] at lengths
    have later := lengths task (List.mem_filter.mpr ⟨member, stale⟩)
    rw [fresh] at later
    cases later
  · intro none
    have same : ∀ task ∈ tasks, after task = before task := by
      intro task member
      rw [Bool.eq_iff_iff]
      refine ⟨still task member, fun stale => ?_⟩
      by_contra fresh
      exact none task member ⟨stale, by simpa using fresh⟩
    rw [List.filter_congr same, List.filter_congr fun x member => congrArg (!·) (same x member)]
    exact ⟨rfl, rfl⟩

section Root
variable {t t₀ : FileTree} {c : Config} (sound : t.Sound) (linkFree : t.LinkFree) {u : Unit}
  (made : t.makeDirectories c.outputRoot = (t₀, .ok u)) {d : Document} (laid : d.Laid c.outputRoot)
include sound linkFree made laid

theorem made_of_fresh {force : Bool} (fresh : isStale t force d = false) : t₀ = t := by
  obtain ⟨e, there, _⟩ := entryAt_of_fresh fresh
  obtain ⟨loc, place, _⟩ := entryAt_eq_ok.mp there
  rw [laid.page] at place
  exact makeDirectories_there sound linkFree made place

theorem revealed_root (revealed : Revealed t c d) :
    t.isDirectory [] c.outputRoot = false ∧ ∀ out, c.outputRoot ≠ Path.absolute out := by
  obtain ⟨stale, fresh⟩ := revealed
  rw [made] at fresh
  constructor
  · by_contra there
    unfold FileTree.isDirectory at there
    cases entry : t.entryAt [] c.outputRoot with
    | error cause => simp [entry] at there
    | ok e =>
      obtain ⟨loc, place, _⟩ := entryAt_eq_ok.mp entry
      rw [← List.append_nil c.outputRoot] at place
      rw [makeDirectories_there sound linkFree made place, stale] at fresh
      cases fresh
  · intro out output
    have frame := furnished_makeDirectories linkFree c.outputRoot
    have grown := grown_makeDirectories (fun _ => False) c.outputRoot sound linkFree
    rw [made] at frame grown
    -- the page is below all that was made
    have same : t₀.get? (out ++ d.pagePlace) = t.get? (out ++ d.pagePlace) := by
      rcases frame.entries (out ++ d.pagePlace) with same | ⟨stop, _⟩
      · exact same
      · rw [output, Path.mem_stops_absolute] at stop
        have longer := List.length_pos_iff.mpr laid.pagePlace_ne_nil
        rcases stop with top | above
        · have := congrArg List.length top
          simp only [List.length_append, List.length_nil] at this
          omega
        · have := above.length_le
          simp only [List.length_append] at this
          omega
    have time : t₀.modified? d.output = t.modified? d.output := by
      rw [laid.page, output, ← Path.absolute_append]
      exact modified?_congr sound linkFree grown.sound grown.linkFree same
    unfold isStale at stale fresh
    rw [time, stale] at fresh
    cases fresh

end Root

/-- If documents keep apart and their sources can be read, a status tells what a build will write,
unless the output root brings to light a page that is up to date; that happens only if the output
root is missing and its path goes up. -/
theorem status_predicts {t final : FileTree} {c : Config} {sets : List GroupDocuments}
    {list : List Status} {r : Report} (sound : t.Sound) (linkFree : t.LinkFree) (named : t.Named)
    (found : discover t c = .ok sets)
    (readable : ∀ task ∈ tasksOf sets, ∃ content, t.read [] task.document.source = .ok content)
    (apart : (tasksOf sets).Pairwise Unrelated) (listed : status t c = .ok list)
    (done : build t c = (final, .ok r)) :
    (Predicts c list r ↔ ∀ task ∈ tasksOf sets, ¬ Revealed t c task.document) ∧
      ∀ task ∈ tasksOf sets, Revealed t c task.document →
        t.isDirectory [] c.outputRoot = false ∧ ∀ out, c.outputRoot ≠ Path.absolute out := by
  have laid : ∀ task ∈ tasksOf sets, task.document.Laid c.outputRoot :=
    fun task member => (tasks_named named found member).1
  obtain ⟨t₀, sets', r₀, made, found', worked, rfl⟩ := build_ok done
  have grown := grown_makeDirectories (fun _ => False) c.outputRoot sound linkFree
  have opens := opens_of_made sound linkFree made
  rw [made] at grown
  have found₀ : discover t₀ c = .ok sets :=
    discoverFrom_grown sound linkFree grown c.groups 0 sets found
  cases found'.symm.trans found₀
  have readable₀ : ∀ task ∈ tasksOf sets,
      ∃ content, t₀.read [] task.document.source = .ok content := by
    intro task member
    obtain ⟨p, source, _⟩ := tasks_laid sound linkFree found member
    obtain ⟨content, read⟩ := readable task member
    rw [source] at read ⊢
    exact ⟨content, (read_outside sound linkFree grown not_false content).mpr read⟩
  obtain ⟨published, left⟩ := buildTasks_foreseen (tasksOf sets) grown.sound grown.linkFree opens
    laid apart readable₀ worked
  -- making the output root may show that a page is up to date, but makes none stale
  have still : ∀ task ∈ tasksOf sets, isStale t₀ c.force task.document = true →
      isStale t c.force task.document = true := by
    intro task member stale
    by_contra fresh
    rw [Bool.not_eq_true] at fresh
    rw [made_of_fresh sound linkFree made (laid task member) fresh, fresh] at stale
    cases stale
  cases (status_eq found).symm.trans listed
  refine ⟨?_, fun task member => revealed_root sound linkFree made (laid task member)⟩
  rw [predicts_iff named found]
  simp only [List.nil_append, Nat.zero_add] at published left
  simp only [published, left, Revealed, made]
  exact stale_same_iff (tasksOf sets) still

def pendingTree : FileTree :=
  ⟨[ (["l".toList], .directory 0), (["l".toList, "A.pm".toList], .file [65] 1),
    (["o".toList], .directory 0), (["o".toList, "src".toList], .directory 0),
    (["o".toList, "src".toList, "b.png".toList], .file [7] 3), (["p".toList], .directory 0),
    (["p".toList, "b.png".toList], .file [7] 1)], 5⟩

def pendingSets : List GroupDocuments := (discover pendingTree smallConfig).toOption.getD []

theorem status_predicts_pending :
    ∃ list final r, status pendingTree smallConfig = .ok list ∧
      build pendingTree smallConfig = (final, .ok r) ∧ list.map (·.stale) = [true, false] ∧
      Predicts smallConfig list r := by
  have sound : pendingTree.Sound := sound_of_entries (by decide) (by decide)
  have linkFree : pendingTree.LinkFree := linkFree_of_entries (by decide)
  have named : pendingTree.Named := named_of_entries (by decide)
  have found : discover pendingTree smallConfig = .ok pendingSets :=
    ok_of_isOk [] (by decide +kernel)
  have listed := status_eq found
  have done : build pendingTree smallConfig = (_, .ok _) :=
    Prod.ext rfl (ok_of_isOk ⟨[], 0, [], []⟩ (by decide +kernel))
  have read : ∀ task ∈ tasksOf pendingSets,
      (pendingTree.read [] task.document.source).isOk = true := by decide +kernel
  have readable : ∀ task ∈ tasksOf pendingSets,
      ∃ content, pendingTree.read [] task.document.source = .ok content :=
    fun task member => ⟨_, ok_of_isOk [] (read task member)⟩
  have apart : (tasksOf pendingSets).Pairwise Unrelated := by decide +kernel
  obtain ⟨precise, root⟩ :=
    status_predicts sound linkFree named found readable apart listed done
  refine ⟨_, _, _, listed, done, by decide +kernel, precise.mpr fun task member revealed => ?_⟩
  exact (root task member revealed).2 ["o".toList] rfl

def veiledTree : FileTree :=
  ⟨[ (["l".toList], .directory 0), (["l".toList, "A.pm".toList], .file [65] 1),
    (["o".toList], .directory 0), (["o".toList, "A.pm.html".toList], .file [66] 3)], 5⟩

def veiledSettings : Settings :=
  { smallSettings with output := "/n/../o".toList, libraries := ["/l".toList] }

def veiledConfig : Config :=
  { smallConfig with
    outputRoot := [.root, .name "n".toList, .parent, .name "o".toList]
    outputSpelling := "/n/../o".toList
    libraryRoots := [["l".toList]] }

theorem status_misses_page :
    veiledTree.Sound ∧ veiledTree.LinkFree ∧ veiledTree.Named ∧
      Config.resolve veiledTree [] none veiledSettings = .ok veiledConfig ∧
      ∃ sets list final r, discover veiledTree veiledConfig = .ok sets ∧
        (∀ task ∈ tasksOf sets, ∃ content,
          veiledTree.read [] task.document.source = .ok content) ∧
        (tasksOf sets).Pairwise Unrelated ∧ status veiledTree veiledConfig = .ok list ∧
        build veiledTree veiledConfig = (final, .ok r) ∧
        list.map (·.stale) = [true] ∧ r.published = [] ∧ r.fresh = 1 ∧
        ¬ Predicts veiledConfig list r := by
  have found : discover veiledTree veiledConfig = .ok _ := ok_of_isOk [] (by decide +kernel)
  have done : build veiledTree veiledConfig = (_, .ok _) :=
    Prod.ext rfl (ok_of_isOk ⟨[], 0, [], []⟩ (by decide +kernel))
  have read : ∀ task ∈ tasksOf ((discover veiledTree veiledConfig).toOption.getD []),
      (veiledTree.read [] task.document.source).isOk = true := by decide +kernel
  have none : ((build veiledTree veiledConfig).2.toOption.getD ⟨[], 0, [], []⟩).published = [] := by
    decide +kernel
  refine ⟨sound_of_entries (by decide) (by decide), linkFree_of_entries (by decide),
    named_of_entries (by decide), rfl, _, _, _, _, found,
    fun task member => ⟨_, ok_of_isOk [] (read task member)⟩, by decide +kernel, status_eq found,
    done, by decide +kernel, none, by decide +kernel, ?_⟩
  rintro ⟨published, _⟩
  rw [none] at published
  exact absurd published (by decide +kernel)

end Site
end PodSite
