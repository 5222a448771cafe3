import PodSite.Proofs.Site.Build

/-!
Documents whose copy and page hold what their source asks for. A build leaves every document in that
state, if those it takes for fresh were in it already and no two documents share a place.
-/
namespace PodSite.Site
open FileTree

/-- The copy and the page of a document are those of its source as it is. -/
def Current (c : Config) (references : References) (t : FileTree) (task : Task) : Prop :=
  ∀ content, t.read [] task.document.source = .ok content →
    (task.document.sharesSource = true → t.Holds task.document.copy.names content) ∧
      (task.document.kind.isBinary = false →
        t.Holds task.document.output.names (pageBytes c references task content))

/-- When a source was modified does not show in its page. -/
theorem current_same {c : Config} {references : References} {t : FileTree} {x y : Task}
    (same : x.undated = y.undated) (current : Current c references t x) :
    Current c references t y := by
  have undated : Current c references t x.undated := current
  rw [same] at undated
  exact undated

/-- Two documents write to different places. -/
def Apart (x y : Task) : Prop := ∀ loc ∈ x.document.targets, loc ∉ y.document.targets

theorem apart_same {tasks tasks' : List Task}
    (same : tasks.map Task.undated = tasks'.map Task.undated) (apart : tasks.Pairwise Apart) :
    tasks'.Pairwise Apart := by
  have undated : (tasks.map Task.undated).Pairwise Apart := List.pairwise_map.mpr apart
  rw [same, List.pairwise_map] at undated
  exact undated

theorem copy_ne_page {out : Location} {d : Document} (placed : d.Placed out)
    (page : d.kind.isBinary = false) : d.copy.names ≠ d.output.names := by
  intro same
  rw [placed.output, placed.copy, page] at same
  simp only [Path.names_absolute, Bool.false_eq_true, ↓reduceIte] at same
  have lengths := congrArg List.length same
  obtain ⟨last, found⟩ := Option.isSome_iff_exists.mp
    (List.getLast?_isSome.mpr placed.named)
  have := List.length_pos_iff.mpr placed.named
  simp [Document.pageNames, found] at lengths
  omega

theorem targets_held {out : Location} (c : Config) (references : References) {task : Task}
    (placed : task.document.Placed out) {loc : Location} (target : loc ∈ task.document.targets)
    (content : Bytes) :
    ∃ bytes, ∀ t : FileTree, Current c references t task →
      t.read [] task.document.source = .ok content → t.Holds loc bytes := by
  have page : ∃ bytes, ∀ t : FileTree, Current c references t task →
      t.read [] task.document.source = .ok content →
        t.Holds task.document.output.names bytes := by
    cases binary : task.document.kind.isBinary with
    | true =>
      rw [placed.output_of_binary binary]
      exact ⟨content, fun t current read => (current content read).1 (placed.shared binary)⟩
    | false => exact ⟨_, fun t current read => (current content read).2 binary⟩
  unfold Document.targets at target
  split at target
  · rename_i shared
    rcases List.mem_pair.mp target with rfl | rfl
    · exact ⟨content, fun t current read => (current content read).1 shared⟩
    · exact page
  · rw [List.mem_singleton.mp target]
    exact page

theorem output_there {c : Config} {out : Location} {t : FileTree} {references : References}
    {task : Task} (placed : task.document.Placed out) (current : Current c references t task)
    {content : Bytes} (read : t.read [] task.document.source = .ok content) :
    FileAt t task.document.output.names := by
  obtain ⟨bytes, held⟩ :=
    targets_held c references placed (Document.output_mem_targets _) content
  rcases held t current read with ⟨m, file⟩ | ⟨_, m, unreadable⟩
  · exact ⟨_, file, rfl⟩
  · exact ⟨_, unreadable, rfl⟩

theorem current_outside {c : Config} {references : References} {files : Location → Prop}
    {t t' : FileTree} (sound : t.Sound) (linkFree : t.LinkFree) (grown : Grown files t t')
    {task : Task} {source : Location} (from_source : task.document.source = Path.absolute source)
    (unwritten : ¬ files source) (kept : ∀ loc ∈ task.document.targets, ¬ files loc)
    (current : Current c references t task) : Current c references t' task := by
  intro content read
  rw [from_source, read_outside sound linkFree grown unwritten, ← from_source] at read
  obtain ⟨copy, page⟩ := current content read
  constructor
  · intro shared
    exact holds_outside grown (kept _ (Document.copy_mem_targets shared)) (copy shared)
  · intro paged
    exact holds_outside grown (kept _ (Document.output_mem_targets _)) (page paged)

theorem publishes_current {c : Config} {references : References} {out : Location} {t t' : FileTree}
    (sound : t.Sound) (linkFree : t.LinkFree) {task : Task} (placed : task.document.Placed out)
    {source : Location} (from_source : task.document.source = Path.absolute source)
    (unwritten : source ∉ task.document.targets) (done : Publishes c references task t t') :
    Current c references t' task := by
  have copied := grown_publishCopy sound linkFree placed
  unfold Publishes at done
  by_cases binary : task.document.kind.isBinary = true
  · rw [if_pos binary] at done
    rw [done] at copied
    obtain ⟨content, read, _, holds, _⟩ :=
      publishCopy_ok sound linkFree placed (placed.shared binary) done
    intro content' read'
    rw [from_source, read_outside sound linkFree copied unwritten, ← from_source, read] at read'
    cases read'
    exact ⟨fun _ => holds, fun paged => by simp [binary] at paged⟩
  · rw [if_neg binary] at done
    obtain ⟨content, middle, read, copy, page⟩ := done
    rw [copy] at copied
    have paged : task.document.kind.isBinary = false := by simpa using binary
    have written := grown_writeFile copied.sound copied.linkFree task.document.output.names
      (pageBytes c references task content)
    rw [← placed.output_absolute, page] at written
    have both : Grown (· ∈ task.document.targets) t t' := by
      refine copied.trans (written.mono ?_)
      rintro loc rfl
      exact Document.output_mem_targets _
    intro content' read'
    rw [from_source, read_outside sound linkFree both unwritten, ← from_source, read] at read'
    cases read'
    rw [placed.output_absolute] at page
    refine ⟨fun shared => ?_, fun _ => (writeFile_ok copied.sound copied.linkFree page).2.1⟩
    obtain ⟨same, again, _, holds, _⟩ := publishCopy_ok sound linkFree placed shared copy
    rw [read] at again
    cases again
    exact holds_outside written (copy_ne_page placed paged) holds

theorem isStale_outside {files : Location → Prop} {t t' : FileTree} (sound : t.Sound)
    (linkFree : t.LinkFree) (grown : Grown files t t') {out : Location} {d : Document}
    (placed : d.Placed out) (kept : ¬ files d.output.names) (there : FileAt t d.output.names)
    (force : Bool) : isStale t' force d = isStale t force d := by
  obtain ⟨e, here, file⟩ := there
  have same := modified?_congr sound linkFree grown.sound grown.linkFree
    (((grown.file_iff kept file).mpr here).trans here.symm)
  unfold isStale
  rw [placed.output_absolute, same]

theorem fresh_written {t : FileTree} {d : Document} (fresh : isStale t false d = false) :
    ∃ written, t.modified? d.output = some written ∧ d.modified ≤ written := by
  unfold isStale at fresh
  cases there : t.modified? d.output with
  | none => simp [there] at fresh
  | some written => exact ⟨written, rfl, by simpa [there] using fresh⟩

def Ready (c : Config) (references : References) (t : FileTree) (task : Task) : Prop :=
  c.force = true ∨ (FileAt t task.document.output.names ∧
    (isStale t c.force task.document = false → Current c references t task))

theorem ready_outside {c : Config} {references : References} {files : Location → Prop}
    {t t' : FileTree} (sound : t.Sound) (linkFree : t.LinkFree) (grown : Grown files t t')
    {out : Location} {task : Task} (placed : task.document.Placed out) {source : Location}
    (from_source : task.document.source = Path.absolute source) (unwritten : ¬ files source)
    (kept : ∀ loc ∈ task.document.targets, ¬ files loc) (ready : Ready c references t task) :
    Ready c references t' task := by
  refine ready.imp_right ?_
  rintro ⟨⟨e, here, file⟩, settled⟩
  have output := kept _ (Document.output_mem_targets task.document)
  refine ⟨⟨e, (grown.file_iff output file).mpr here, file⟩, fun fresh => ?_⟩
  rw [isStale_outside sound linkFree grown placed output ⟨e, here, file⟩] at fresh
  exact current_outside sound linkFree grown from_source unwritten kept (settled fresh)

theorem buildTasks_cons_current {out : Location} {c : Config} {references : References}
    {t t' : FileTree} (sound : t.Sound) (linkFree : t.LinkFree) {task : Task} {rest : List Task}
    (placed : task.document.Placed out) {source : Location}
    (from_source : task.document.source = Path.absolute source)
    (unwritten : source ∉ task.document.targets) (ready : Ready c references t task)
    {r r' : Report} (done : buildTasks c references t r (task :: rest) = (t', .ok r')) :
    ∃ t₁ r₁, Grown (· ∈ task.document.targets) t t₁ ∧ Current c references t₁ task ∧
      buildTasks c references t₁ r₁ rest = (t', .ok r') := by
  rcases buildTasks_cons_ok done with
    ⟨missing, later⟩ | ⟨d, _, fresh, later⟩ | ⟨d, t₁, _, _, published, later⟩
  · refine ⟨t, _, .refl sound linkFree _, ?_, later⟩
    intro content read
    simp only [listed?, read] at missing
    split at missing <;> cases missing
  · refine ⟨t, _, .refl sound linkFree _, ?_, later⟩
    rcases ready with forced | ⟨_, settled⟩
    · simp [isStale, forced] at fresh
    · exact settled fresh
  · exact ⟨t₁, _, grown_publishes sound linkFree placed published,
      publishes_current sound linkFree placed from_source unwritten published, later⟩

theorem buildTasks_current {out : Location} (c : Config) (references : References)
    (tasks : List Task) (placed : ∀ task ∈ tasks, task.document.Placed out)
    (apart : tasks.Pairwise Apart) (sources : ∀ task ∈ tasks, SourceUnwritten tasks task)
    {t t' : FileTree} (sound : t.Sound) (linkFree : t.LinkFree)
    (ready : ∀ task ∈ tasks, Ready c references t task) {r r' : Report}
    (done : buildTasks c references t r tasks = (t', .ok r')) :
    ∀ task ∈ tasks, Current c references t' task := by
  induction tasks generalizing t r with
  | nil => simp
  | cons task rest ih =>
    obtain ⟨alone, apart'⟩ := List.pairwise_cons.mp apart
    have placed' := fun x (h : x ∈ rest) => placed x (List.mem_cons_of_mem task h)
    have sources' := fun x (h : x ∈ rest) =>
      source_unwritten_later (sources x (List.mem_cons_of_mem task h))
    obtain ⟨source, from_source, unwritten⟩ := sources task (by simp)
    obtain ⟨t₁, r₁, grown, current, later⟩ :=
      buildTasks_cons_current sound linkFree (placed task (by simp)) from_source
        (fun own => unwritten ⟨task, by simp, own⟩) (ready task (by simp)) done
    intro x member
    rcases List.mem_cons.mp member with rfl | member
    · have rest_frame := grown_buildTasks c references rest placed' grown.sound grown.linkFree r₁
      rw [later] at rest_frame
      refine current_outside grown.sound grown.linkFree rest_frame from_source ?_ ?_ current
      · rintro ⟨other, h, written⟩
        exact unwritten ⟨other, List.mem_cons_of_mem x h, written⟩
      · rintro loc here ⟨other, h, written⟩
        exact alone other h loc here written
    · refine ih placed' apart' sources' grown.sound grown.linkFree (fun y h => ?_) later x member
      -- the step writes nothing that a later document reads or writes
      obtain ⟨loc, at_loc, away⟩ := sources y (List.mem_cons_of_mem task h)
      refine ready_outside sound linkFree grown (placed' y h) at_loc
        (fun own => away ⟨task, by simp, own⟩) ?_ (ready y (List.mem_cons_of_mem task h))
      exact fun place there here => alone y h place here there

end PodSite.Site
