import PodSite.Proofs.Files.Recast
import PodSite.Proofs.Site.Links

/-!
What a build reports. Every document is counted once, and the index lists those that were processed,
group by group, each as its source says when its turn comes. As long as no document is written over
a source, that is what the sources said from the start, whatever was stale.
-/
namespace PodSite

namespace Navigation

def addAll (nav : Navigation) (added : List (Nat × Document)) : Navigation :=
  added.foldl (fun (nav : Navigation) x => nav.add x.1 x.2) nav

theorem addAll_eq (added : List (Nat × Document)) (nav : Navigation) :
    nav.addAll added = nav.zipIdx.map fun (s, i) =>
      { s with entries := s.entries ++
        (added.filter fun x => x.1 = i).map fun x => entryOf s.description x.2 } := by
  induction added generalizing nav with
  | nil => simp [addAll]
  | cons x added ih =>
    rw [addAll, List.foldl_cons, ← addAll, ih]
    refine List.ext_getElem? fun i => ?_
    simp only [List.getElem?_map, List.getElem?_zipIdx, add, List.getElem?_modify]
    cases nav[i]? with
    | none => simp
    | some s =>
      by_cases here : x.1 = i
      · simp [here]
      · simp [here]

end Navigation

theorem Document.ofSource?_untitled {out root source : Path} {g : Group} {m : Nat} {d : Document}
    (made : ofSource? out g root source m = some d) : d.title = none := by
  simp only [ofSource?, bind, Option.bind_eq_some_iff, pure, Option.some.injEq] at made
  obtain ⟨_, _, names, _, rfl⟩ := made
  rfl

namespace Site
open FileTree

/-- The title that the index shows for a document, by what the tree holds: the name of a binary one,
else that of its source; none if the source cannot be read. -/
def title? (t : FileTree) (task : Task) : Option Text :=
  if task.document.kind.isBinary then some task.document.name
  else
    match t.read [] task.document.source with
    | .error _ => none
    | .ok content =>
      some (Page.title task.group task.document (Text.Utf8.decodeLossy content))

/-- How the index lists a document, if at all. -/
def entryFor? (t : FileTree) (task : Task) : Option NavigationEntry :=
  (title? t task).map fun title =>
    ⟨task.group.description, task.document.outputRelative, task.document.name, title⟩

/-- The documents of a build, each with the tree that it is built in. -/
def turns (c : Config) (references : References) : FileTree → List Task → List (FileTree × Task)
  | _, [] => []
  | t, task :: rest =>
    (t, task) ::
      turns c references (buildDocument t c references task.group task.document).1 rest

def entriesOf (turns : List (FileTree × Task)) : List (Nat × NavigationEntry) :=
  turns.filterMap fun x => (entryFor? x.1 x.2).map fun e => (x.2.index, e)

def unreadableOf (turns : List (FileTree × Task)) : List Path :=
  (turns.filter fun x => (entryFor? x.1 x.2).isNone).map (·.2.document.source)

/-- The index of numbered entries: the groups in their order, but for those without entries. -/
def indexOf (groups : List Group) (entries : List (Nat × NavigationEntry)) : Navigation :=
  (groups.zipIdx.map fun (g, i) => (⟨g.description, (entries.filter fun x => x.1 = i).map (·.2)⟩ :
    NavigationSection)).filter fun s => !s.entries.isEmpty

def listedOf (turns : List (FileTree × Task)) : List (Nat × Document) :=
  turns.filterMap fun x => (listed? x.1 x.2).map fun d => (x.2.index, d)

section Reports
variable {c : Config} {references : References} {t t' : FileTree}

theorem entryFor?_isNone (t : FileTree) (task : Task) :
    (entryFor? t task).isNone = (listed? t task).isNone := by
  unfold entryFor? title? listed?
  split
  · rfl
  · cases t.read [] task.document.source <;> rfl

theorem entryFor?_eq {task : Task} (untitled : task.document.title = none) :
    entryFor? t task = (listed? t task).map (Navigation.entryOf task.group.description) := by
  unfold entryFor? title? listed?
  split
  · simp [Navigation.entryOf, Document.shownTitle, untitled]
  · cases t.read [] task.document.source <;> rfl

theorem turns_tasks (tasks : List Task) (t : FileTree) :
    (turns c references t tasks).map (·.2) = tasks := by
  induction tasks generalizing t with
  | nil => rfl
  | cons task rest ih => simp [turns, ih]

theorem add_reports {task : Task} {outcome : Outcome} (r : Report)
    (now : buildDocument t c references task.group task.document = (t', outcome))
    (notFailed : ∀ e, outcome ≠ .failed e) :
    let r' := r.add task.index task.document outcome
    r'.published.length + r'.fresh + r'.unreadable.length =
        r.published.length + r.fresh + r.unreadable.length + 1 ∧
      r'.unreadable = r.unreadable ++ unreadableOf [(t, task)] ∧
      r'.index = r.index.addAll (listedOf [(t, task)]) := by
  have none := entryFor?_isNone t task
  rcases buildDocument_done now notFailed with
    ⟨missing, rfl, rfl⟩ | ⟨d, listed, _, rfl, rfl⟩ | ⟨d, listed, _, _, rfl⟩
  · refine ⟨by simp only [Report.add, List.length_append, List.length_singleton]; omega, ?_, ?_⟩
    · simp [unreadableOf, none, missing, Report.add]
    · simp [listedOf, missing, Report.add, Navigation.addAll]
  · refine ⟨by simp only [Report.add]; omega, ?_, ?_⟩
    · simp [unreadableOf, none, listed, Report.add]
    · simp [listedOf, listed, Report.add, Navigation.addAll]
  · refine ⟨by simp only [Report.add, List.length_append, List.length_singleton]; omega, ?_, ?_⟩
    · simp [unreadableOf, none, listed, Report.add]
    · simp [listedOf, listed, Report.add, Navigation.addAll]

theorem buildTasks_reports (tasks : List Task) {r r' : Report}
    (worked : buildTasks c references t r tasks = (t', .ok r')) :
    r'.published.length + r'.fresh + r'.unreadable.length =
        r.published.length + r.fresh + r.unreadable.length + tasks.length ∧
      r'.unreadable = r.unreadable ++ unreadableOf (turns c references t tasks) ∧
      r'.index = r.index.addAll (listedOf (turns c references t tasks)) := by
  induction tasks generalizing t r with
  | nil =>
    cases worked
    simp [turns, unreadableOf, listedOf, Navigation.addAll]
  | cons task rest ih =>
    obtain ⟨t₁, outcome, now, notFailed, further⟩ := buildTasks_step worked
    obtain ⟨count₁, unreadable₁, index₁⟩ := add_reports r now notFailed
    obtain ⟨count, unreadable, index⟩ := ih further
    have first : turns c references t (task :: rest) =
        [(t, task)] ++ turns c references t₁ rest := by simp [turns, now]
    refine ⟨by simp only [List.length_cons]; omega, ?_, ?_⟩
    · rw [unreadable, unreadable₁, first]
      simp only [unreadableOf, List.filter_append, List.map_append, List.append_assoc]
    · rw [index, index₁, first]
      simp only [Navigation.addAll, listedOf, List.filterMap_append, List.foldl_append]

theorem entries_listed {groups : List Group} {index : Nat} {g : Group}
    (numbered : groups[index]? = some g) (turns : List (FileTree × Task))
    (fit : ∀ x ∈ turns, x.2.document.title = none ∧ groups[x.2.index]? = some x.2.group) :
    ((listedOf turns).filter fun x => x.1 = index).map
        (fun x => Navigation.entryOf g.description x.2) =
      ((entriesOf turns).filter fun x => x.1 = index).map (·.2) := by
  induction turns with
  | nil => rfl
  | cons x turns ih =>
    obtain ⟨⟨untitled, of_group⟩, later⟩ := List.forall_mem_cons.mp fit
    have rest := ih later
    have entry := entryFor?_eq (t := x.1) untitled
    unfold listedOf entriesOf at rest ⊢
    rw [List.filterMap_cons, List.filterMap_cons, entry]
    cases listed? x.1 x.2 with
    | none => exact rest
    | some d =>
      simp only [Option.map_some, List.filter_cons]
      by_cases here : x.2.index = index
      · rw [here, numbered] at of_group
        cases of_group
        simpa [here] using rest
      · simpa [here] using rest

theorem finish_listed {groups : List Group} (turns : List (FileTree × Task))
    (fit : ∀ x ∈ turns, x.2.document.title = none ∧ groups[x.2.index]? = some x.2.group) :
    ((Navigation.initial groups).addAll (listedOf turns)).finish =
      indexOf groups (entriesOf turns) := by
  rw [Navigation.addAll_eq, Navigation.initial, List.zipIdx_map, List.map_map, indexOf,
    Navigation.finish]
  refine congrArg (List.filter _) (List.map_congr_left fun x member => ?_)
  obtain ⟨g, i⟩ := x
  have numbered : groups[i]? = some g := List.mem_zipIdx_iff_getElem?.mp member
  simp only [Function.comp_apply, Prod.map, List.nil_append, id,
    entries_listed numbered turns fit]

end Reports

section Sources
variable {c : Config} {references : References} {t final : FileTree}

/-- The paths at which documents are written. -/
def writtenPaths (tasks : List Task) : List Path := tasks.flatMap (·.document.written)

/-- No path at which a document is written leads to the source of a document. -/
def SparesSources (t : FileTree) (tasks : List Task) : Prop :=
  ∀ p ∈ writtenPaths tasks, (t.locate [] p).isOk = true →
    ∀ task ∈ tasks, t.locate [] task.document.source ≠ t.locate [] p

theorem SparesSources.away {tasks : List Task} (spares : SparesSources t tasks) {task : Task}
    (member : task ∈ tasks) {loc : Location}
    (place : t.locate [] task.document.source = .ok loc) :
    ¬ ReachedBy t (writtenPaths tasks) loc := by
  rintro ⟨p, listed, leads⟩
  exact spares p listed (by rw [leads]; rfl) task member (place.trans leads.symm)

theorem spared_buildDocument (sound : t.Sound) {t' : FileTree} {task : Task} {outcome : Outcome}
    (now : buildDocument t c references task.group task.document = (t', outcome))
    (notFailed : ∀ e, outcome ≠ .failed e) : Spared (ReachedBy t' task.document.written) t t' := by
  rcases buildDocument_done now notFailed with
    ⟨_, rfl, _⟩ | ⟨_, _, _, rfl, _⟩ | ⟨_, _, _, publishes, _⟩
  · exact .refl sound _
  · exact .refl sound _
  · exact (publishes_linked sound publishes).1

theorem turns_spared (tasks : List Task) (sound : t.Sound) {r r' : Report}
    (worked : buildTasks c references t r tasks = (final, .ok r')) :
    ∀ x ∈ turns c references t tasks, Spared (ReachedBy final (writtenPaths tasks)) t x.1 := by
  induction tasks generalizing t r with
  | nil => simp [turns]
  | cons task rest ih =>
    obtain ⟨t₁, outcome, now, notFailed, further⟩ := buildTasks_step worked
    have spared := spared_buildDocument sound now notFailed
    obtain ⟨keeps, _⟩ := buildTasks_accounted rest spared.sound further
    -- what a path leads to once its document is written, it leads to at the end
    have first : ∀ loc, ReachedBy t₁ task.document.written loc →
        ReachedBy final (writtenPaths (task :: rest)) loc := by
      rintro loc ⟨p, listed, leads⟩
      exact ⟨p, by simp [writtenPaths, listed], locate_keeps keeps leads⟩
    have others : ∀ loc, ReachedBy final (writtenPaths rest) loc →
        ReachedBy final (writtenPaths (task :: rest)) loc := by
      rintro loc ⟨p, listed, leads⟩
      exact ⟨p, by simp [writtenPaths] at listed ⊢; exact Or.inr listed, leads⟩
    rw [turns, now]
    refine List.forall_mem_cons.mpr ⟨.refl sound _, fun x member => ?_⟩
    exact (spared.mono first).trans ((ih spared.sound further x member).mono others)

theorem entryFor?_congr {t t' : FileTree} {task : Task}
    (same : ∀ content, t'.read [] task.document.source = .ok content ↔
      t.read [] task.document.source = .ok content) : entryFor? t' task = entryFor? t task := by
  unfold entryFor? title?
  cases here : t.read [] task.document.source with
  | ok content => rw [(same content).mpr here]
  | error cause =>
    cases there : t'.read [] task.document.source with
    | ok content => simp [(same content).mp there] at here
    | error cause' => rfl

theorem task_fits {sets : List GroupDocuments} (found : discover t c = .ok sets) {task : Task}
    (member : task ∈ tasksOf sets) :
    task.document.title = none ∧ c.groups[task.index]? = some task.group := by
  obtain ⟨set, listed, member⟩ := List.mem_flatMap.mp member
  obtain ⟨d, of_set, rfl⟩ := List.mem_map.mp member
  obtain ⟨root, _, _, f, _, made⟩ := mem_discover found listed of_set
  obtain ⟨j, numbered, number, _⟩ := (mem_discoverFrom_iff c.groups 0 sets found set).mp listed
  rw [← show set.index = j by omega] at numbered
  exact ⟨Document.ofSource?_untitled (documentOf?_made made).2, numbered⟩

theorem source_settled (sound : t.Sound) {sets : List GroupDocuments}
    (found : discover t c = .ok sets) {task : Task} (member : task ∈ tasksOf sets) :
    t.locate [] task.document.source ≠ .error .notFound := by
  obtain ⟨set, listed, member⟩ := List.mem_flatMap.mp member
  obtain ⟨d, of_set, rfl⟩ := List.mem_map.mp member
  obtain ⟨root, _, _, f, walked, made⟩ := mem_discover found listed of_set
  obtain ⟨_, source, _⟩ := documentOf?_laid made
  simp only [source]
  exact walk_settled sound walked

theorem entriesOf_turns (sound : t.Sound) {sets : List GroupDocuments}
    (found : discover t c = .ok sets) {r r' : Report}
    (worked : buildTasks c references t r (tasksOf sets) = (final, .ok r'))
    (spares : SparesSources final (tasksOf sets)) :
    entriesOf (turns c references t (tasksOf sets)) =
      entriesOf ((tasksOf sets).map fun task => (t, task)) := by
  have members : (turns c references t (tasksOf sets)).map (·.2) = tasksOf sets :=
    turns_tasks (tasksOf sets) t
  have spared := turns_spared (tasksOf sets) sound worked
  obtain ⟨keeps, _⟩ := buildTasks_accounted (tasksOf sets) sound worked
  have same : ∀ x ∈ turns c references t (tasksOf sets), entryFor? x.1 x.2 = entryFor? t x.2 := by
    intro x turn
    have member : x.2 ∈ tasksOf sets := by
      rw [← members]
      exact List.mem_map_of_mem turn
    refine entryFor?_congr (read_spared (spared x turn) sound (source_settled sound found member) ?_)
    intro loc place
    exact spares.away member (locate_keeps keeps place)
  have pairs : (tasksOf sets).map (fun task => (t, task)) =
      (turns c references t (tasksOf sets)).map fun x => (t, x.2) := by
    rw [← Function.comp_def (fun task => (t, task)) Prod.snd, ← List.map_map, members]
  rw [pairs, entriesOf, entriesOf, List.filterMap_map]
  exact List.filterMap_congr fun x turn => by simp [same x turn]

end Sources

/-- The same documents are found in both trees, once the output root is made, and their sources
read the same. -/
def SourcesAgree (c : Config) (t t' : FileTree) (sets : List GroupDocuments) : Prop :=
  ∃ sets', discoveredBy t' c = .ok sets' ∧ List.Forall₂ SameDocuments sets sets' ∧
    ∀ task ∈ tasksOf sets, ∀ content,
      (t'.makeDirectories c.outputRoot).1.read [] task.document.source = .ok content ↔
        (t.makeDirectories c.outputRoot).1.read [] task.document.source = .ok content

section Undated
variable (t : FileTree) (tasks : List Task)

theorem entriesOf_undated :
    entriesOf ((tasks.map Task.undated).map fun task => (t, task)) =
      entriesOf (tasks.map fun task => (t, task)) := by
  rw [List.map_map, entriesOf, entriesOf, List.filterMap_map, List.filterMap_map]
  rfl

theorem sparesSources_undated :
    SparesSources t (tasks.map Task.undated) ↔ SparesSources t tasks := by
  have written : writtenPaths (tasks.map Task.undated) = writtenPaths tasks := by
    rw [writtenPaths, List.flatMap_map]
    rfl
  unfold SparesSources
  rw [written]
  simp only [List.forall_mem_map]
  rfl

end Undated

section Builds
variable {t final : FileTree} {c : Config} {r : Report} {sets : List GroupDocuments}

theorem build_reports (done : build t c = (final, .ok r)) (found : discoveredBy t c = .ok sets) :
    let turns := turns c (referencesOf sets) (t.makeDirectories c.outputRoot).1 (tasksOf sets)
    r.published.length + r.fresh + r.unreadable.length = (sets.flatMap (·.documents)).length ∧
      r.unreadable = unreadableOf turns ∧ r.index = indexOf c.groups (entriesOf turns) := by
  obtain ⟨t₀, sets', r₀, made, found', worked, rfl⟩ := build_ok done
  rw [discoveredBy, made] at found
  cases found'.symm.trans found
  obtain ⟨count, unreadable, index⟩ := buildTasks_reports (tasksOf sets) worked
  have fit : ∀ x ∈ turns c (referencesOf sets) t₀ (tasksOf sets),
      x.2.document.title = none ∧ c.groups[x.2.index]? = some x.2.group := by
    intro x turn
    refine task_fits found ?_
    rw [← turns_tasks (tasksOf sets) t₀]
    exact List.mem_map_of_mem turn
  have all : (tasksOf sets).length = (sets.flatMap (·.documents)).length := by
    simp [tasksOf, List.length_flatMap]
  rw [made]
  refine ⟨?_, by simpa using unreadable, ?_⟩
  · rw [← all]
    simpa using count
  · rw [index]
    exact finish_listed _ fit

variable (sound : t.Sound)
include sound

theorem keeps_build (done : build t c = (final, .ok r)) :
    Keeps (t.makeDirectories c.outputRoot).1 final := by
  obtain ⟨t₀, sets, r₀, made, _, worked, _⟩ := build_ok done
  have root := spared_makeDirectories sound (fun _ => False) c.outputRoot
  rw [made] at root ⊢
  exact (buildTasks_accounted (tasksOf sets) root.sound worked).1

theorem index_of_sources (done : build t c = (final, .ok r))
    (found : discoveredBy t c = .ok sets) (spares : SparesSources final (tasksOf sets)) :
    r.index = indexOf c.groups (entriesOf
      ((tasksOf sets).map fun task => ((t.makeDirectories c.outputRoot).1, task))) := by
  obtain ⟨_, _, index⟩ := build_reports done found
  obtain ⟨t₀, sets', r₀, made, found', worked, _⟩ := build_ok done
  have root := spared_makeDirectories sound (fun _ => False) c.outputRoot
  rw [discoveredBy] at found
  rw [made] at found root index ⊢
  cases found'.symm.trans found
  rw [index, entriesOf_turns root.sound found worked spares]

theorem index_agrees {t' final' : FileTree} {r' : Report} {force : Bool} (sound' : t'.Sound)
    (done : build t c = (final, .ok r)) (found : discoveredBy t c = .ok sets)
    (agree : SourcesAgree c t t' sets) (spares : SparesSources final (tasksOf sets))
    (done' : build t' { c with force := force } = (final', .ok r'))
    (spares' : SparesSources final' (tasksOf sets)) : r'.index = r.index := by
  obtain ⟨sets', found', documents, reads⟩ := agree
  have same := tasksOf_same documents
  have forced : discoveredBy t' { c with force := force } = .ok sets' :=
    (discover_force _ c force).trans found'
  have later : SparesSources final' (tasksOf sets') := by
    rw [← sparesSources_undated, ← same, sparesSources_undated]
    exact spares'
  have entries : ∀ task ∈ tasksOf sets, entryFor? (t'.makeDirectories c.outputRoot).1 task =
      entryFor? (t.makeDirectories c.outputRoot).1 task :=
    fun task member => entryFor?_congr (reads task member)
  rw [index_of_sources sound done found spares, index_of_sources sound' done' forced later,
    ← entriesOf_undated, ← same, entriesOf_undated]
  refine congrArg (indexOf c.groups) ?_
  rw [entriesOf, entriesOf, List.filterMap_map, List.filterMap_map]
  exact List.filterMap_congr fun task member => by simp [entries task member]

theorem agree_of_recast {t' : FileTree} (done : build t c = (final, .ok r))
    (found : discoveredBy t c = .ok sets) (spares : SparesSources final (tasksOf sets))
    (recast : Recast (ReachedBy t (writtenPaths (tasksOf sets))) t t') :
    SourcesAgree c t t' sets := by
  obtain ⟨_, made⟩ := recast.makeDirectories c.outputRoot
  have root := spared_makeDirectories sound (fun _ => False) c.outputRoot
  have keeps := keeps_build sound done
  have below : SameBelow c (t.makeDirectories c.outputRoot).1
      (t'.makeDirectories c.outputRoot).1 := by
    refine ⟨fun _ _ there => (made.isDirectory_eq _).trans there, fun folder _ _ index g => ?_⟩
    rw [documentsBelow_undated, documentsBelow_undated, made.walk_eq]
  obtain ⟨sets', found', documents⟩ := discoverFrom_same below c.groups 0 sets found
  refine ⟨sets', found', documents, fun task member => made.read_iff ?_⟩
  rintro loc place ⟨p, listed, leads⟩
  exact spares.away member (locate_keeps keeps place)
    ⟨p, listed, locate_keeps keeps (locate_keeps root.toKeeps leads)⟩

end Builds

/-- A build that succeeds counts every document found once, as published, fresh or unreadable. Its
index lists the groups in their order and in each the documents that could be processed, in the
order in which they were found; each with the path and the name of its page, and the title that its
source has when its turn comes. If no document is written over a source, two builds give the same
index, with everything to be built or not, if the trees that they start from have the same sources,
or differ only in files at which documents are written. -/
theorem build_accounts {t final : FileTree} {c : Config} {r : Report} (sound : t.Sound)
    (done : build t c = (final, .ok r)) :
    ∃ sets, discoveredBy t c = .ok sets ∧
      (let turns := turns c (referencesOf sets) (t.makeDirectories c.outputRoot).1 (tasksOf sets)
      r.published.length + r.fresh + r.unreadable.length = (sets.flatMap (·.documents)).length ∧
        r.unreadable = unreadableOf turns ∧ r.index = indexOf c.groups (entriesOf turns)) ∧
      (SparesSources final (tasksOf sets) →
        r.index = indexOf c.groups (entriesOf
          ((tasksOf sets).map fun task => ((t.makeDirectories c.outputRoot).1, task))) ∧
        ∀ (t' : FileTree), t'.Sound →
          SourcesAgree c t t' sets ∨ Recast (ReachedBy t (writtenPaths (tasksOf sets))) t t' →
          ∀ force final' r', build t' { c with force := force } = (final', .ok r') →
            SparesSources final' (tasksOf sets) → r'.index = r.index) := by
  obtain ⟨t₀, sets, r₀, made, found, _, _⟩ := build_ok done
  replace found : discoveredBy t c = .ok sets := by rw [discoveredBy, made, found]
  refine ⟨sets, found, build_reports done found, fun spares => ⟨?_, ?_⟩⟩
  · exact index_of_sources sound done found spares
  · intro t' sound' start force final' r' done' spares'
    have agree : SourcesAgree c t t' sets := by
      rcases start with agree | recast
      · exact agree
      · exact agree_of_recast sound done found spares recast
    exact index_agrees sound sound' done found agree spares done' spares'

def borrowedTree : FileTree :=
  ⟨[ (["l".toList], .directory 0), (["l".toList, "A.pm".toList], .link "/m/C.pm".toList),
    (["m".toList], .directory 0), (["m".toList, "C.pm".toList], .file [66] 1),
    (["o".toList], .directory 0), (["o".toList, "A.pm.html".toList], .file [7] 3)], 5⟩

def outdatedTree : FileTree :=
  borrowedTree.put ["o".toList, "A.pm.html".toList] (.file [] 0)

def borrowedConfig : Config := { smallConfig with libraryRoots := [["l".toList]] }

def borrowedSets : List GroupDocuments :=
  (discoveredBy borrowedTree borrowedConfig).toOption.getD []

theorem build_accounts_borrowed :
    ∃ final r final' r', build borrowedTree borrowedConfig = (final, .ok r) ∧
      build outdatedTree borrowedConfig = (final', .ok r') ∧
      r.published = [] ∧ r'.published = [Path.absolute ["o".toList, "A.pm.html".toList]] ∧
      r'.index = r.index := by
  have sound : borrowedTree.Sound := sound_of_entries (by decide) (by decide)
  have done : build borrowedTree borrowedConfig = (_, .ok _) :=
    Prod.ext rfl (ok_of_isOk ⟨[], 0, [], []⟩ (by decide +kernel))
  have done' : build outdatedTree { borrowedConfig with force := false } = (_, .ok _) :=
    Prod.ext rfl (ok_of_isOk ⟨[], 0, [], []⟩ (by decide +kernel))
  have found : discoveredBy borrowedTree borrowedConfig = .ok borrowedSets :=
    ok_of_isOk [] (by decide +kernel)
  obtain ⟨sets, found', _, two⟩ := build_accounts sound done
  cases found.symm.trans found'
  have page : ReachedBy borrowedTree (writtenPaths (tasksOf borrowedSets))
      ["o".toList, "A.pm.html".toList] := by
    unfold ReachedBy
    decide +kernel
  have here : borrowedTree.get? ["o".toList, "A.pm.html".toList] = some (.file [7] 3) := by decide
  have recast : Recast (ReachedBy borrowedTree (writtenPaths (tasksOf borrowedSets))) borrowedTree
      outdatedTree := recast_put (by simp) here rfl rfl page
  have spares : SparesSources (build borrowedTree borrowedConfig).1 (tasksOf borrowedSets) := by
    unfold SparesSources
    decide +kernel
  have spares' : SparesSources (build outdatedTree borrowedConfig).1 (tasksOf borrowedSets) := by
    unfold SparesSources
    decide +kernel
  refine ⟨_, _, _, _, done, done', by decide +kernel, by decide +kernel, ?_⟩
  exact (two spares).2 _ (recast.sound sound) (Or.inr recast) false _ _ done' spares'

end Site
end PodSite
