import PodSite.Proofs.Files.Change
import PodSite.Proofs.Site.Discovery
import PodSite.Site.Build

/-!
A build works its documents off one by one. What one of them can do to the tree and to the report
is said once here; what a whole build does follows by induction.
-/
namespace PodSite.Site
open FileTree

structure Task where
  index : Nat
  group : Group
  document : Document

def tasksOf (sets : List GroupDocuments) : List Task :=
  sets.flatMap fun set => set.documents.map fun d => ⟨set.index, set.group, d⟩

def buildTasks (c : Config) (references : References) :
    FileTree → Report → List Task → FileTree × Except BuildError Report
  | t, r, [] => (t, .ok r)
  | t, r, task :: rest =>
    match buildDocument t c references task.group task.document with
    | (t, .failed e) => (t, .error e)
    | (t, outcome) => buildTasks c references t (r.add task.index task.document outcome) rest

theorem buildTasks_append (c : Config) (references : References) (t : FileTree) (r : Report)
    (first later : List Task) :
    buildTasks c references t r (first ++ later) =
      match buildTasks c references t r first with
      | (t, .error e) => (t, .error e)
      | (t, .ok r) => buildTasks c references t r later := by
  induction first generalizing t r with
  | nil => rfl
  | cons task rest ih =>
    rw [List.cons_append, buildTasks, buildTasks]
    split
    · rfl
    · rw [ih]

theorem buildDocuments_eq (c : Config) (references : References) (index : Nat) (g : Group)
    (t : FileTree) (r : Report) (ds : List Document) :
    buildDocuments c references index g t r ds =
      buildTasks c references t r (ds.map fun d => ⟨index, g, d⟩) := by
  induction ds generalizing t r with
  | nil => rfl
  | cons d rest ih =>
    rw [buildDocuments, List.map_cons, buildTasks]
    generalize buildDocument t c references g d = step
    obtain ⟨t₁, outcome⟩ := step
    cases outcome with
    | failed e => rfl
    | unreadable => exact ih t₁ _
    | fresh listed => exact ih t₁ _
    | published listed => exact ih t₁ _

theorem buildSets_eq (c : Config) (references : References) (t : FileTree) (r : Report)
    (sets : List GroupDocuments) :
    buildSets c references t r sets = buildTasks c references t r (tasksOf sets) := by
  induction sets generalizing t r with
  | nil => rfl
  | cons set rest ih =>
    rw [buildSets, tasksOf, List.flatMap_cons, buildTasks_append, buildDocuments_eq]
    generalize buildTasks c references t r _ = step
    obtain ⟨t₁, result⟩ := step
    cases result with
    | error e => rfl
    | ok r₁ => exact ih t₁ r₁

def Task.undated (task : Task) : Task := { task with document := task.document.undated }

theorem tasksOf_same {sets sets' : List GroupDocuments}
    (same : List.Forall₂ SameDocuments sets sets') :
    (tasksOf sets).map Task.undated = (tasksOf sets').map Task.undated := by
  have one : ∀ s : GroupDocuments, (s.documents.map fun d => (⟨s.index, s.group, d⟩ : Task)).map
      Task.undated = (s.documents.map Document.undated).map fun d => ⟨s.index, s.group, d⟩ := by
    intro s
    simp [Task.undated]
  induction same with
  | nil => rfl
  | cons first _ ih =>
    unfold tasksOf at ih ⊢
    rw [List.flatMap_cons, List.flatMap_cons, List.map_append, List.map_append, one, one,
      first.index, first.group, first.documents, ih]

theorem referencesOf_same {sets sets' : List GroupDocuments}
    (same : List.Forall₂ SameDocuments sets sets') : referencesOf sets = referencesOf sets' := by
  have one : ∀ s : GroupDocuments, (s.documents.map fun d => (d.name, d.output)) =
      (s.documents.map Document.undated).map fun d => (d.name, d.output) := by
    intro s
    simp [Document.undated]
  simp only [referencesOf, References.mk.injEq]
  induction same with
  | nil => rfl
  | cons first _ ih =>
    rw [List.filter_cons, List.filter_cons, first.group]
    split
    · rw [List.flatMap_cons, List.flatMap_cons, one, one, first.documents, ih]
    · exact ih

theorem tasks_discovered {t : FileTree} (sound : t.Sound) (linkFree : t.LinkFree) {c : Config}
    {out : Location} (output : c.outputRoot = Path.absolute out) {sets : List GroupDocuments}
    (found : discover t c = .ok sets) {task : Task} (member : task ∈ tasksOf sets) :
    ∃ p, Discovered c out t task.document p := by
  obtain ⟨set, listed, member⟩ := List.mem_flatMap.mp member
  obtain ⟨d, of_set, rfl⟩ := List.mem_map.mp member
  exact discovered sound linkFree output found listed of_set

theorem tasks_placed {t : FileTree} (sound : t.Sound) (linkFree : t.LinkFree) {c : Config}
    {out : Location} (output : c.outputRoot = Path.absolute out) {sets : List GroupDocuments}
    (found : discover t c = .ok sets) : ∀ task ∈ tasksOf sets, task.document.Placed out := by
  intro task member
  obtain ⟨p, source⟩ := tasks_discovered sound linkFree output found member
  exact source.placed

theorem eq_of_undated {x y : Task} (same : x.undated = y.undated)
    (time : x.document.modified = y.document.modified) : x = y := by
  have dated : ∀ d : Document, d = { d.undated with modified := d.modified } := fun _ => rfl
  obtain ⟨i, g, d⟩ := x
  obtain ⟨i', g', d'⟩ := y
  obtain ⟨rfl, rfl, documents⟩ := Task.mk.inj same
  rw [dated d, dated d', documents, time]

theorem tasks_eq {tasks tasks' : List Task}
    (same : tasks.map Task.undated = tasks'.map Task.undated)
    (dated : ∀ x ∈ tasks, ∀ y ∈ tasks', x.undated = y.undated →
      x.document.modified = y.document.modified) : tasks = tasks' := by
  induction tasks generalizing tasks' with
  | nil => exact (List.map_eq_nil_iff.mp same.symm).symm
  | cons x tasks ih =>
    cases tasks' with
    | nil => cases same
    | cons y tasks' =>
      obtain ⟨first, later⟩ := List.cons.inj same
      have time := dated x (by simp) y (by simp) first
      rw [ih later fun x hx y hy => dated x (by simp [hx]) y (by simp [hy]),
        eq_of_undated first time]

theorem discover_kept {c : Config} {out : Location} (output : c.outputRoot = Path.absolute out)
    {t t' : FileTree} (sound : t.Sound) (linkFree : t.LinkFree) (sound' : t'.Sound)
    (linkFree' : t'.LinkFree) (kept : SourcesKept c t t') {sets : List GroupDocuments}
    (found : discover t c = .ok sets) :
    ∃ sets', discover t' c = .ok sets' ∧ tasksOf sets' = tasksOf sets ∧
      referencesOf sets' = referencesOf sets := by
  obtain ⟨sets', found', documents⟩ :=
    discover_same sound linkFree sound' linkFree' kept.sameSources found
  refine ⟨sets', found', ?_, (referencesOf_same documents).symm⟩
  refine (tasks_eq (tasksOf_same documents) fun x hx y hy same => ?_).symm
  obtain ⟨p, place⟩ := tasks_discovered sound linkFree output found hx
  obtain ⟨q, place'⟩ := tasks_discovered sound' linkFree' output found' hy
  have same_source : x.document.source = y.document.source := congrArg (·.document.source) same
  cases Path.absolute_injective (place.source.symm.trans (same_source.trans place'.source))
  obtain ⟨root, listed, view⟩ := place.shown
  obtain ⟨e, here, file, time⟩ := place.file
  obtain ⟨e', there, _, time'⟩ := place'.file
  rw [(kept.files root listed p view place.owned e file).mp here] at there
  cases there
  rw [time] at time'
  exact Option.some.inj time'

theorem build_ok {t t' : FileTree} {c : Config} {r : Report} (done : build t c = (t', .ok r)) :
    ∃ t₀ sets r₀, t.makeDirectories c.outputRoot = (t₀, .ok ()) ∧ discover t₀ c = .ok sets ∧
      buildTasks c (referencesOf sets) t₀ ⟨[], 0, [], .initial c.groups⟩ (tasksOf sets) =
        (t', .ok r₀) ∧ r = { r₀ with index := r₀.index.finish } := by
  unfold build at done
  match made : t.makeDirectories c.outputRoot with
  | (t₀, .error cause) => simp [made] at done
  | (t₀, .ok _) =>
    cases found : discover t₀ c with
    | error e => simp [made, found] at done
    | ok sets =>
      simp only [made, found, buildSets_eq] at done
      split at done
      · simp at done
      · rename_i r₀ worked
        simp only [Prod.mk.injEq, Except.ok.injEq] at done
        obtain ⟨rfl, rfl⟩ := done
        exact ⟨t₀, sets, r₀, rfl, found, worked, rfl⟩

/-- The page of a document as it is written, for a source with the given content. -/
def pageBytes (c : Config) (references : References) (task : Task) (content : Bytes) : Bytes :=
  Text.Utf8.encode
    (Page.render task.group task.document references c.project (Text.Utf8.decodeLossy content)).2

/-- The document as it is listed in the index, with its title; none if its source is needed and
cannot be read. -/
def listed? (t : FileTree) (task : Task) : Option Document :=
  if task.document.kind.isBinary then some task.document
  else
    match t.read [] task.document.source with
    | .error _ => none
    | .ok content =>
      some { task.document with
        title := some (Page.title task.group task.document (Text.Utf8.decodeLossy content)) }

/-- The files of a document are written: its copy, and its page unless the copy is the page. -/
def Publishes (c : Config) (references : References) (task : Task) (t t' : FileTree) : Prop :=
  if task.document.kind.isBinary then publishCopy t task.document = (t', .ok ())
  else
    ∃ content middle, t.read [] task.document.source = .ok content ∧
      publishCopy t task.document = (middle, .ok ()) ∧
      writeFile middle task.document.output (pageBytes c references task content) = (t', .ok ())

/-- What can become of a document. -/
theorem buildDocument_cases (c : Config) (references : References) (t : FileTree) (task : Task) :
    (listed? t task = none ∧
        buildDocument t c references task.group task.document = (t, .unreadable)) ∨
      (∃ d, listed? t task = some d ∧ isStale t c.force task.document = false ∧
        buildDocument t c references task.group task.document = (t, .fresh d)) ∨
      (∃ d t', listed? t task = some d ∧ isStale t c.force task.document = true ∧
        Publishes c references task t t' ∧
        buildDocument t c references task.group task.document = (t', .published d)) ∨
      ((listed? t task).isSome ∧ isStale t c.force task.document = true ∧
        ∃ e, (buildDocument t c references task.group task.document).2 = .failed e) := by
  unfold listed? Publishes buildDocument
  by_cases binary : task.document.kind.isBinary = true
  · simp only [binary, ↓reduceIte, buildBinary]
    cases stale : isStale t c.force task.document with
    | false => exact Or.inr (Or.inl ⟨_, rfl, rfl, rfl⟩)
    | true =>
      simp only [↓reduceIte]
      rcases publishCopy t task.document with ⟨t', e | _⟩
      · exact Or.inr (Or.inr (Or.inr ⟨rfl, trivial, e, rfl⟩))
      · exact Or.inr (Or.inr (Or.inl ⟨_, t', rfl, trivial, rfl, rfl⟩))
  · simp only [binary, Bool.false_eq_true, ↓reduceIte, buildPage]
    cases source : t.read [] task.document.source with
    | error cause => exact Or.inl ⟨rfl, rfl⟩
    | ok content =>
      cases stale : isStale t c.force task.document with
      | false => exact Or.inr (Or.inl ⟨_, rfl, rfl, rfl⟩)
      | true =>
        simp only [↓reduceIte]
        rcases copied : publishCopy t task.document with ⟨middle, e | _⟩
        · exact Or.inr (Or.inr (Or.inr ⟨rfl, trivial, e, rfl⟩))
        · simp only
          rcases written : writeFile middle task.document.output
              (pageBytes c references task content) with ⟨t', e | _⟩
          · rw [pageBytes] at written
            exact Or.inr (Or.inr (Or.inr ⟨rfl, trivial, e, by rw [written]⟩))
          · refine Or.inr (Or.inr (Or.inl ⟨_, t', rfl, trivial, ?_, ?_⟩))
            · exact ⟨content, middle, rfl, rfl, written⟩
            · rw [pageBytes] at written
              rw [written]
              rfl

section Steps
variable {c : Config} {references : References} {t t' : FileTree} {task : Task}

theorem buildDocument_done {outcome : Outcome}
    (now : buildDocument t c references task.group task.document = (t', outcome))
    (notFailed : ∀ e, outcome ≠ .failed e) :
    (listed? t task = none ∧ t' = t ∧ outcome = .unreadable) ∨
      (∃ d, listed? t task = some d ∧ isStale t c.force task.document = false ∧ t' = t ∧
        outcome = .fresh d) ∨
      (∃ d, listed? t task = some d ∧ isStale t c.force task.document = true ∧
        Publishes c references task t t' ∧ outcome = .published d) := by
  rcases buildDocument_cases c references t task with
    ⟨missing, here⟩ | ⟨d, found, fresh, here⟩ | ⟨d, t₁, found, stale, published, here⟩ |
      ⟨_, _, e, failed⟩
  · cases now.symm.trans here
    exact Or.inl ⟨missing, rfl, rfl⟩
  · cases now.symm.trans here
    exact Or.inr (Or.inl ⟨d, found, fresh, rfl, rfl⟩)
  · cases now.symm.trans here
    exact Or.inr (Or.inr ⟨d, found, stale, published, rfl⟩)
  · rw [now] at failed
    exact absurd failed (notFailed e)

theorem buildTasks_step {rest : List Task} {r r' : Report}
    (done : buildTasks c references t r (task :: rest) = (t', .ok r')) :
    ∃ t₁ outcome, buildDocument t c references task.group task.document = (t₁, outcome) ∧
      (∀ e, outcome ≠ .failed e) ∧
      buildTasks c references t₁ (r.add task.index task.document outcome) rest = (t', .ok r') := by
  rw [buildTasks] at done
  split at done
  · cases done
  · rename_i notFailed now
    exact ⟨_, _, now, notFailed, done⟩

theorem buildTasks_cons_ok {rest : List Task} {r r' : Report}
    (done : buildTasks c references t r (task :: rest) = (t', .ok r')) :
    (listed? t task = none ∧
        buildTasks c references t (r.add task.index task.document .unreadable) rest =
          (t', .ok r')) ∨
      (∃ d, listed? t task = some d ∧ isStale t c.force task.document = false ∧
        buildTasks c references t (r.add task.index task.document (.fresh d)) rest =
          (t', .ok r')) ∨
      (∃ d t₁, listed? t task = some d ∧ isStale t c.force task.document = true ∧
        Publishes c references task t t₁ ∧
        buildTasks c references t₁ (r.add task.index task.document (.published d)) rest =
          (t', .ok r')) := by
  obtain ⟨t₁, outcome, now, notFailed, further⟩ := buildTasks_step done
  rcases buildDocument_done now notFailed with
    ⟨missing, rfl, rfl⟩ | ⟨d, found, fresh, rfl, rfl⟩ | ⟨d, found, stale, published, rfl⟩
  · exact Or.inl ⟨missing, further⟩
  · exact Or.inr (Or.inl ⟨d, found, fresh, further⟩)
  · exact Or.inr (Or.inr ⟨d, t₁, found, stale, published, further⟩)

end Steps

section Frame
variable {t : FileTree} (sound : t.Sound) (linkFree : t.LinkFree)
include sound linkFree

theorem grown_writeFile (loc : Location) (content : Bytes) :
    Grown (· = loc) t (writeFile t (Path.absolute loc) content).1 := by
  have made := grown_makeDirectories (· = loc) (Path.absolute loc).dropLast sound linkFree
  unfold writeFile
  match t.makeDirectories (Path.absolute loc).dropLast, made with
  | (t₁, .error cause), made => exact made
  | (t₁, .ok _), made =>
    have written := grown_write made.sound made.linkFree loc content
    simp only
    match t₁.write (Path.absolute loc) content, written with
    | (t₂, .error cause), written => exact made.trans written
    | (t₂, .ok _), written => exact made.trans written

theorem writeFile_ok {t' : FileTree} {loc : Location} {content : Bytes} {u : Unit}
    (done : writeFile t (Path.absolute loc) content = (t', .ok u)) :
    Addressable loc ∧ t'.Holds loc content ∧
      (t'.get? loc = some (.file content t.now) ∨
        ∃ m, t.get? loc = some (.unreadable m)) := by
  have made := grown_makeDirectories (· = loc) (Path.absolute loc).dropLast sound linkFree
  unfold writeFile at done
  match dirs : t.makeDirectories (Path.absolute loc).dropLast, made with
  | (t₁, .error cause), _ => simp [dirs] at done
  | (t₁, .ok _), made =>
    rw [dirs] at done
    simp only at done
    match written : t₁.write (Path.absolute loc) content with
    | (t₂, .error cause) => simp [written] at done
    | (t₂, .ok _) =>
      simp only [written, Prod.mk.injEq] at done
      obtain ⟨rfl, _⟩ := done
      obtain ⟨addressable, holds, now | ⟨m, unreadable, _⟩⟩ :=
        write_ok made.sound made.linkFree written
      · exact ⟨addressable, holds, Or.inl (made.now ▸ now)⟩
      · exact ⟨addressable, holds, Or.inr ⟨m, made.unreadable_iff.mp unreadable⟩⟩

theorem grown_publishCopy {out : Location} {d : Document} (placed : d.Placed out) :
    Grown (· ∈ d.targets) t (publishCopy t d).1 := by
  unfold publishCopy
  split
  · rename_i shared
    split
    · exact .refl sound linkFree _
    · rw [placed.copy_absolute]
      refine (grown_writeFile sound linkFree _ _).mono ?_
      rintro loc rfl
      exact Document.copy_mem_targets shared
  · exact .refl sound linkFree _

theorem publishCopy_ok {out : Location} {d : Document} (placed : d.Placed out)
    (shared : d.sharesSource = true) {t' : FileTree} {u : Unit}
    (done : publishCopy t d = (t', .ok u)) :
    ∃ content, t.read [] d.source = .ok content ∧ Addressable d.copy.names ∧
      t'.Holds d.copy.names content ∧
      (t'.get? d.copy.names = some (.file content t.now) ∨
        ∃ m, t.get? d.copy.names = some (.unreadable m)) := by
  unfold publishCopy at done
  rw [if_pos shared] at done
  cases source : t.read [] d.source with
  | error cause => simp [source] at done
  | ok content =>
    rw [source, placed.copy_absolute] at done
    exact ⟨content, rfl, writeFile_ok sound linkFree done⟩

theorem grown_writePage {out : Location} {d : Document} (placed : d.Placed out) (page : Bytes) :
    Grown (· ∈ d.targets) t (writeFile t d.output page).1 := by
  rw [placed.output_absolute]
  refine (grown_writeFile sound linkFree _ _).mono ?_
  rintro loc rfl
  exact d.output_mem_targets

theorem grown_publishes {c : Config} {references : References} {out : Location} {task : Task}
    (placed : task.document.Placed out) {t' : FileTree} (done : Publishes c references task t t') :
    Grown (· ∈ task.document.targets) t t' := by
  have copied := grown_publishCopy sound linkFree placed
  unfold Publishes at done
  split at done
  · rwa [done] at copied
  · obtain ⟨content, middle, _, copy, page⟩ := done
    rw [copy] at copied
    have written := grown_writePage copied.sound copied.linkFree placed
      (pageBytes c references task content)
    rw [page] at written
    exact copied.trans written

/-- Building a document changes no file but its own, whatever becomes of it. -/
theorem grown_buildDocument {out : Location} {d : Document} (placed : d.Placed out) (c : Config)
    (references : References) (g : Group) :
    Grown (· ∈ d.targets) t (buildDocument t c references g d).1 := by
  have copied := grown_publishCopy sound linkFree placed
  unfold buildDocument
  split
  · unfold buildBinary
    split
    · match publishCopy t d, copied with
      | (t₁, .error e), copied => exact copied
      | (t₁, .ok _), copied => exact copied
    · exact .refl sound linkFree _
  · unfold buildPage
    cases t.read [] d.source with
    | error cause => exact .refl sound linkFree _
    | ok content =>
      simp only
      split
      · match publishCopy t d, copied with
        | (t₁, .error e), copied => exact copied
        | (t₁, .ok _), copied =>
          have written := grown_writePage copied.sound copied.linkFree placed
            (Text.Utf8.encode
              (Page.render g d references c.project (Text.Utf8.decodeLossy content)).2)
          simp only at written ⊢
          split
          · rename_i failed
            rw [failed] at written
            exact copied.trans written
          · rename_i done
            rw [done] at written
            exact copied.trans written
      · exact .refl sound linkFree _

end Frame

/-- Some document writes at the location. -/
def WrittenBy (tasks : List Task) (loc : Location) : Prop :=
  ∃ task ∈ tasks, loc ∈ task.document.targets

def SourceUnwritten (tasks : List Task) (task : Task) : Prop :=
  ∃ loc, task.document.source = Path.absolute loc ∧ ¬ WrittenBy tasks loc

theorem source_unwritten_later {task : Task} {rest : List Task} {x : Task}
    (unwritten : SourceUnwritten (task :: rest) x) : SourceUnwritten rest x := by
  obtain ⟨loc, source, away⟩ := unwritten
  refine ⟨loc, source, ?_⟩
  rintro ⟨other, member, written⟩
  exact away ⟨other, List.mem_cons_of_mem task member, written⟩

theorem grown_buildTasks {out : Location} (c : Config) (references : References)
    (tasks : List Task) (placed : ∀ task ∈ tasks, task.document.Placed out) {t : FileTree}
    (sound : t.Sound) (linkFree : t.LinkFree) (r : Report) :
    Grown (WrittenBy tasks) t (buildTasks c references t r tasks).1 := by
  induction tasks generalizing t r with
  | nil => exact .refl sound linkFree _
  | cons task rest ih =>
    have step := (grown_buildDocument sound linkFree (placed task (by simp)) c references
      task.group).mono (fun loc h => (⟨task, by simp, h⟩ : WrittenBy (task :: rest) loc))
    have later : ∀ loc, WrittenBy rest loc → WrittenBy (task :: rest) loc := by
      rintro loc ⟨other, member, h⟩
      exact ⟨other, List.mem_cons_of_mem task member, h⟩
    have run : ∀ t₁ r₁, Grown (WrittenBy (task :: rest)) t t₁ →
        Grown (WrittenBy (task :: rest)) t (buildTasks c references t₁ r₁ rest).1 := by
      intro t₁ r₁ step
      have placed' := fun x (h : x ∈ rest) => placed x (List.mem_cons_of_mem task h)
      exact step.trans ((ih placed' step.sound step.linkFree r₁).mono later)
    rw [buildTasks]
    match buildDocument t c references task.group task.document, step with
    | (t₁, .failed e), step => exact step
    | (t₁, .unreadable), step => exact run t₁ _ step
    | (t₁, .fresh d), step => exact run t₁ _ step
    | (t₁, .published d), step => exact run t₁ _ step

section Reports

def settledReport (t : FileTree) : Report → List Task → Report
  | r, [] => r
  | r, task :: rest =>
    let outcome := match listed? t task with
      | some d => Outcome.fresh d
      | none => .unreadable
    settledReport t (r.add task.index task.document outcome) rest

structure Report.Agrees (r s : Report) : Prop where
  index : r.index = s.index
  unreadable : r.unreadable = s.unreadable
  count : r.published.length + r.fresh = s.published.length + s.fresh

theorem read_outside {files : Location → Prop} {t t' : FileTree} (sound : t.Sound)
    (linkFree : t.LinkFree) (grown : Grown files t t') {loc : Location} (away : ¬ files loc)
    (content : Bytes) :
    t'.read [] (Path.absolute loc) = .ok content ↔ t.read [] (Path.absolute loc) = .ok content := by
  rw [read_absolute sound linkFree, read_absolute grown.sound grown.linkFree]
  simp only [grown.file_iff away (rfl : (Entry.file content _).isFile = true)]

theorem listed?_congr {t t' : FileTree} {task : Task}
    (same : ∀ content, t'.read [] task.document.source = .ok content ↔
      t.read [] task.document.source = .ok content) : listed? t' task = listed? t task := by
  unfold listed?
  cases here : t.read [] task.document.source with
  | ok content => rw [(same content).mpr here]
  | error cause =>
    cases there : t'.read [] task.document.source with
    | ok content => simp [(same content).mp there] at here
    | error cause' => rfl

theorem listed?_outside {t t' : FileTree} (sound : t.Sound) (linkFree : t.LinkFree) {task x : Task}
    {rest : List Task} (grown : Grown (· ∈ task.document.targets) t t')
    (unwritten : SourceUnwritten (task :: rest) x) : listed? t' x = listed? t x := by
  obtain ⟨loc, source, away⟩ := unwritten
  refine listed?_congr fun content => ?_
  rw [source]
  exact read_outside sound linkFree grown (fun here => away ⟨task, by simp, here⟩) content

theorem settledReport_congr {t t' : FileTree} (tasks : List Task)
    (same : ∀ task ∈ tasks, listed? t' task = listed? t task) (r : Report) :
    settledReport t' r tasks = settledReport t r tasks := by
  induction tasks generalizing r with
  | nil => rfl
  | cons task rest ih =>
    rw [settledReport, settledReport, same task (by simp)]
    exact ih (fun other h => same other (by simp [h])) _

/-- A build with nothing stale leaves the tree as it is. -/
theorem buildTasks_settled (c : Config) (references : References) {t : FileTree}
    (tasks : List Task)
    (fresh : ∀ task ∈ tasks, (listed? t task).isSome → isStale t c.force task.document = false)
    (r : Report) :
    buildTasks c references t r tasks = (t, .ok (settledReport t r tasks)) := by
  induction tasks generalizing r with
  | nil => rfl
  | cons task rest ih =>
    have first := fresh task (by simp)
    have later := ih fun other h => fresh other (by simp [h])
    rcases buildDocument_cases c references t task with
      ⟨missing, done⟩ | ⟨d, found, _, done⟩ | ⟨d, t', found, stale, _⟩ | ⟨found, stale, _⟩
    · simp only [buildTasks, done, settledReport, missing, later]
    · simp only [buildTasks, done, settledReport, found, later]
    · simp [first (by simp [found])] at stale
    · simp [first found] at stale

/-- What a build reports does not depend on which documents it had to write, as long as it writes
over no source. -/
theorem buildTasks_agrees {out : Location} (c : Config) (references : References)
    (tasks : List Task) (placed : ∀ task ∈ tasks, task.document.Placed out)
    {t t' : FileTree} (sound : t.Sound) (linkFree : t.LinkFree)
    (sources : ∀ task ∈ tasks, SourceUnwritten tasks task) {r s r' : Report}
    (agree : r.Agrees s) (done : buildTasks c references t r tasks = (t', .ok r')) :
    r'.Agrees (settledReport t s tasks) := by
  induction tasks generalizing t r s with
  | nil =>
    simp only [buildTasks, Prod.mk.injEq, Except.ok.injEq] at done
    exact done.2 ▸ agree
  | cons task rest ih =>
    have placed' := fun x (h : x ∈ rest) => placed x (List.mem_cons_of_mem task h)
    have sources' := fun x (h : x ∈ rest) =>
      source_unwritten_later (sources x (List.mem_cons_of_mem task h))
    rcases buildTasks_cons_ok done with
      ⟨missing, later⟩ | ⟨d, found, _, later⟩ | ⟨d, t₁, found, _, published, later⟩
    · simp only [settledReport, missing]
      refine ih placed' sound linkFree sources' ?_ later
      exact ⟨agree.index, by simp [Report.add, agree.unreadable], agree.count⟩
    · simp only [settledReport, found]
      refine ih placed' sound linkFree sources' ?_ later
      refine ⟨by simp [Report.add, agree.index], agree.unreadable, ?_⟩
      simp only [Report.add]
      have := agree.count
      omega
    · have frame := grown_publishes sound linkFree (placed task (by simp)) published
      have same : ∀ x ∈ rest, listed? t₁ x = listed? t x := fun x h =>
        listed?_outside sound linkFree frame (sources x (List.mem_cons_of_mem task h))
      simp only [settledReport, found]
      rw [← settledReport_congr rest same]
      refine ih placed' frame.sound frame.linkFree sources' ?_ later
      refine ⟨by simp [Report.add, agree.index], agree.unreadable, ?_⟩
      have := agree.count
      simp only [Report.add, List.length_append, List.length_singleton]
      omega

end Reports

section Small

def smallTree : FileTree :=
  ⟨[ (["l".toList], .directory 0), (["l".toList, "A.pm".toList], .file [65] 1),
    (["p".toList], .directory 0), (["p".toList, "b.png".toList], .file [7] 1)], 5⟩

def smallSettings : Settings :=
  ⟨⟨[], [], []⟩, "/o".toList, ["/l".toList, "/p".toList], [], false,
    some [⟨"Modules".toList, .modules, ["pm".toList], .lines, none, none⟩,
      ⟨"Pictures".toList, .binaries, ["png".toList], .lines, none, none⟩]⟩

def smallConfig : Config :=
  ⟨Path.absolute ["o".toList], "/o".toList, [["l".toList], ["p".toList]], [], false, ⟨[], [], []⟩,
    [⟨"Modules".toList, .modules, ["pm".toList], .lines, true, none⟩,
      ⟨"Pictures".toList, .binaries, ["png".toList], .lines, true, none⟩]⟩

theorem smallTree_sound : smallTree.Sound := sound_of_entries (by decide) (by decide)

theorem smallTree_linkFree : smallTree.LinkFree := linkFree_of_entries (by decide)

theorem small_resolved : Config.resolve smallTree [] none smallSettings = .ok smallConfig := rfl

theorem ok_of_isOk {ε α : Type} {e : Except ε α} (other : α) (ok : e.isOk = true) :
    e = .ok (e.toOption.getD other) := by
  cases e with
  | error cause => cases ok
  | ok a => rfl

end Small
end PodSite.Site
