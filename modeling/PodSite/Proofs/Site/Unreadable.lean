import PodSite.Proofs.Site.Accounts

/-!
Sources that cannot be read. A document whose page needs such a source is skipped: it is reported,
and the build goes on as if the document was not there. Only a binary document that has to be copied
and cannot be read ends the build.
-/
namespace PodSite

namespace FileTree

def Unspoilt (t t' : FileTree) : Prop :=
  ∀ loc m, t'.get? loc = some (.unreadable m) → t.get? loc = some (.unreadable m)

section Unspoilt
variable {t t' t'' : FileTree}

theorem Unspoilt.refl (t : FileTree) : Unspoilt t t := fun _ _ found => found

theorem Unspoilt.trans (first : Unspoilt t t') (second : Unspoilt t' t'') : Unspoilt t t'' :=
  fun loc m found => first loc m (second loc m found)

theorem unspoilt_add {loc : Location} {e : Entry} (below : loc ≠ [])
    (other : ∀ m, e ≠ .unreadable m) : Unspoilt t (t.add loc e) := by
  intro x m found
  by_cases here : x = loc
  · rw [here, get?_add_self t e below] at found
    exact absurd (Option.some.inj found) (other m)
  · rcases get?_add_of_ne t e below here with same | ⟨_, _, stamped⟩
    · exact same.symm.trans found
    · cases stamped.symm.trans found

theorem unspoilt_makeDirectoriesFrom (p : Path) (t : FileTree) (loc : Location) :
    Unspoilt t (t.makeDirectoriesFrom loc p).1 := by
  induction p generalizing t loc with
  | nil => exact .refl t
  | cons part rest ih =>
    cases part with
    | root => exact ih t []
    | current => exact ih t loc
    | parent => exact ih t loc.dropLast
    | name n =>
      rw [makeDirectoriesFrom]
      split
      · exact .refl t
      split
      · exact (unspoilt_add (by simp) (by simp)).trans (ih _ _)
      · exact ih t (loc ++ [n])
      · exact .refl t
      · exact .refl t
      · split
        · exact .refl t
        · exact .refl t
        · split
          · exact ih t _
          · exact .refl t

theorem unspoilt_makeDirectories (t : FileTree) (p : Path) :
    Unspoilt t (t.makeDirectories p).1 := by
  unfold makeDirectories
  split
  · exact .refl t
  · exact unspoilt_makeDirectoriesFrom p t []

theorem unspoilt_write (t : FileTree) (p : Path) (content : Bytes) :
    Unspoilt t (t.write p content).1 := by
  unfold write
  split
  · exact .refl t
  split
  · exact .refl t
  · split <;> exact .refl t
  · rename_i loc _ _ noDirectory _
    refine unspoilt_add ?_ (by simp)
    rintro rfl
    exact noDirectory t.now (by simp [get?])

/-- What a build may do to a tree: it grows, and what can be read stays so. -/
structure Advanced (t t' : FileTree) : Prop extends Spared (fun _ => True) t t' where
  unspoilt : Unspoilt t t'

theorem Advanced.refl (sound : t.Sound) : Advanced t t := ⟨.refl sound _, .refl t⟩

theorem Advanced.trans (first : Advanced t t') (second : Advanced t' t'') : Advanced t t'' :=
  ⟨first.toSpared.trans second.toSpared, first.unspoilt.trans second.unspoilt⟩

theorem read_error_advanced (advanced : Advanced t t') (sound : t.Sound) {p : Path}
    (known : t.locate [] p ≠ .error .notFound) (cause : FileError) :
    t'.read [] p = .error cause ↔ t.read [] p = .error cause := by
  have place := locate_settled advanced.toKeeps sound known
  unfold read entryAt
  rw [place]
  cases found : t.locate [] p with
  | error cause => simp [bind, Except.bind]
  | ok loc =>
    obtain ⟨e, here⟩ := Option.isSome_iff_exists.mp (locate_exists sound found)
    obtain ⟨new, there, stays⟩ := advanced.stays here
    simp only [bind, Except.bind, here, there]
    cases e with
    | file old m =>
      have file := stays.file rfl
      cases new with
      | file content m' => simp
      | unreadable m' => cases here.symm.trans (advanced.unspoilt loc m' there)
      | _ => cases file
    | unreadable m =>
      cases (advanced.unreadable here).symm.trans there
      rfl
    | directory m =>
      have directory := stays.directory rfl
      cases new with
      | directory m' => rfl
      | _ => cases directory
    | link target =>
      rw [stays.link]

end Unspoilt
end FileTree

namespace Site
open FileTree

/-- The source of the document is needed for its page and cannot be read. -/
def isSkipped (t : FileTree) (task : Task) : Bool :=
  !task.document.kind.isBinary && !(t.read [] task.document.source).isOk

section Steps
variable {c : Config} {references : References} {t t' : FileTree} {task : Task}

theorem unspoilt_writeFile (t : FileTree) (p : Path) (content : Bytes) :
    Unspoilt t (writeFile t p content).1 := by
  have made := unspoilt_makeDirectories t p.dropLast
  unfold writeFile
  split
  · rename_i dirs
    rwa [dirs] at made
  · rename_i t₁ _ dirs
    rw [dirs] at made
    have written := unspoilt_write t₁ p content
    split
    · rename_i ends
      rw [ends] at written
      exact made.trans written
    · rename_i ends
      rw [ends] at written
      exact made.trans written

theorem unspoilt_publishCopy (t : FileTree) (d : Document) :
    Unspoilt t (publishCopy t d).1 := by
  unfold publishCopy
  split
  · split
    · exact .refl t
    · exact unspoilt_writeFile t _ _
  · exact .refl t

theorem unspoilt_publishes (publishes : Publishes c references task t t') : Unspoilt t t' := by
  have copied := unspoilt_publishCopy t task.document
  unfold Publishes at publishes
  split at publishes
  · rwa [publishes] at copied
  · obtain ⟨content, middle, _, done, written⟩ := publishes
    have page :=
      unspoilt_writeFile middle task.document.output (pageBytes c references task content)
    rw [done] at copied
    rw [written] at page
    exact copied.trans page

theorem advanced_buildDocument (sound : t.Sound) {outcome : Outcome}
    (now : buildDocument t c references task.group task.document = (t', outcome))
    (notFailed : ∀ e, outcome ≠ .failed e) : Advanced t t' := by
  refine ⟨(spared_buildDocument sound now notFailed).mono fun _ _ => trivial, ?_⟩
  rcases buildDocument_done now notFailed with
    ⟨_, rfl, _⟩ | ⟨_, _, _, rfl, _⟩ | ⟨_, _, _, publishes, _⟩
  · exact .refl _
  · exact .refl _
  · exact unspoilt_publishes publishes

theorem advanced_buildTasks (tasks : List Task) (sound : t.Sound) {r r' : Report}
    (worked : buildTasks c references t r tasks = (t', .ok r')) : Advanced t t' := by
  induction tasks generalizing t r with
  | nil =>
    cases worked
    exact .refl sound
  | cons task rest ih =>
    obtain ⟨t₁, outcome, now, notFailed, further⟩ := buildTasks_step worked
    have first := advanced_buildDocument sound now notFailed
    exact first.trans (ih first.sound further)

theorem isSkipped_eq (t : FileTree) (task : Task) :
    isSkipped t task = (listed? t task).isNone := by
  unfold isSkipped listed?
  cases task.document.kind.isBinary with
  | true => rfl
  | false => cases t.read [] task.document.source <;> rfl

theorem isSkipped_advanced (advanced : Advanced t t') (sound : t.Sound)
    (known : t.locate [] task.document.source ≠ .error .notFound) :
    isSkipped t' task = isSkipped t task := by
  have same := read_error_advanced advanced sound known
  unfold isSkipped
  cases here : t.read [] task.document.source with
  | error cause => rw [(same cause).mpr here]
  | ok content =>
    cases there : t'.read [] task.document.source with
    | error cause => cases here.symm.trans ((same cause).mp there)
    | ok content' => rfl

theorem buildDocument_skipped (skipped : isSkipped t task = true) :
    buildDocument t c references task.group task.document = (t, .unreadable) := by
  rw [isSkipped_eq] at skipped
  rcases buildDocument_cases c references t task with
    ⟨_, here⟩ | ⟨d, found, _⟩ | ⟨d, t₁, found, _⟩ | ⟨found, _⟩
  · exact here
  · simp [found] at skipped
  · simp [found] at skipped
  · rw [Option.isNone_iff_eq_none.mp skipped] at found
    cases found

theorem writeFile_write {p : Path} {content : Bytes} {e : BuildError}
    (failed : (writeFile t p content).2 = .error e) : ∃ q cause, e = .write q cause := by
  unfold writeFile at failed
  repeat' split at failed
  all_goals cases failed
  · exact ⟨_, _, rfl⟩
  · exact ⟨_, _, rfl⟩

theorem publishCopy_read {d : Document} {p : Path} {cause : FileError} :
    (publishCopy t d).2 = .error (.read p cause) ↔
      d.sharesSource = true ∧ d.source = p ∧ t.read [] p = .error cause := by
  unfold publishCopy
  split
  · rename_i shared
    cases source : t.read [] d.source with
    | error e =>
      simp only [Except.error.injEq, BuildError.read.injEq, shared, true_and]
      refine and_congr_right ?_
      rintro rfl
      simp [source]
    | ok content =>
      constructor
      · intro failed
        obtain ⟨q, cause', other⟩ := writeFile_write failed
        cases other
      · rintro ⟨_, rfl, unreadable⟩
        cases source.symm.trans unreadable
  · rename_i kept
    simp [kept]

theorem buildBinary_read {force : Bool} {d : Document} {p : Path} {cause : FileError} :
    (buildBinary t force d).2 = .failed (.read p cause) ↔
      isStale t force d = true ∧ d.sharesSource = true ∧ d.source = p ∧
        t.read [] p = .error cause := by
  rw [← publishCopy_read]
  unfold buildBinary
  cases isStale t force d with
  | false => simp
  | true =>
    rcases publishCopy t d with ⟨t₁, e | _⟩
    · simp
    · simp

theorem buildPage_read {g : Group} {d : Document} {p : Path} {cause : FileError} :
    (buildPage t c references g d).2 ≠ .failed (.read p cause) := by
  unfold buildPage
  cases source : t.read [] d.source with
  | error e => simp
  | ok content =>
    dsimp only
    split
    · split
      · rename_i copied
        rintro failed
        cases failed
        obtain ⟨_, rfl, unreadable⟩ := publishCopy_read.mp (congrArg Prod.snd copied)
        cases source.symm.trans unreadable
      · split
        · rename_i written
          rintro failed
          cases failed
          obtain ⟨q, cause', other⟩ := writeFile_write (congrArg Prod.snd written)
          cases other
        · simp
    · simp

theorem buildDocument_read {p : Path} {cause : FileError} :
    (buildDocument t c references task.group task.document).2 = .failed (.read p cause) ↔
      task.document.kind.isBinary = true ∧ isStale t c.force task.document = true ∧
        task.document.sharesSource = true ∧ task.document.source = p ∧
        t.read [] p = .error cause := by
  unfold buildDocument
  cases task.document.kind.isBinary with
  | true => simpa using buildBinary_read
  | false => simpa using buildPage_read

end Steps

section Runs
variable {c : Config} {references : References} {t t' : FileTree}

/-- A build that fails does so at one of its documents, after those before it were built. -/
theorem buildTasks_failed {tasks : List Task} {r : Report} {e : BuildError} :
    (buildTasks c references t r tasks).2 = .error e ↔
      ∃ front task back here r', tasks = front ++ task :: back ∧
        buildTasks c references t r front = (here, .ok r') ∧
        (buildDocument here c references task.group task.document).2 = .failed e := by
  constructor
  · intro failed
    -- the documents in front of the failing one are those that the recursion has passed
    induction tasks generalizing t r with
    | nil => cases failed
    | cons task rest ih =>
      rw [buildTasks] at failed
      split at failed
      · rename_i now
        cases failed
        exact ⟨[], task, rest, t, r, rfl, rfl, congrArg Prod.snd now⟩
      · rename_i t₁ outcome notFailed now
        obtain ⟨front, next, back, here, r', rfl, built, ends⟩ := ih failed
        refine ⟨task :: front, next, back, here, r', rfl, ?_, ends⟩
        rw [buildTasks, now]
        split
        · rename_i same
          cases same
          exact absurd rfl (notFailed _)
        · rename_i same
          cases same
          exact built
  · rintro ⟨front, task, back, here, r', rfl, built, ends⟩
    rw [buildTasks_append, built]
    dsimp only
    rw [buildTasks]
    split
    · rename_i now
      rw [now] at ends
      cases ends
      rfl
    · rename_i notFailed now
      rw [now] at ends
      exact absurd ends (notFailed e)

/-- A report but for the sources that could not be read. -/
def Report.unlisted (r : Report) : Report := { r with unreadable := [] }

theorem unlisted_add {r r' : Report} (same : r'.unlisted = r.unlisted) (index : Nat) (d : Document)
    (outcome : Outcome) : (r'.add index d outcome).unlisted = (r.add index d outcome).unlisted := by
  obtain ⟨published, fresh, unreadable, nav⟩ := r
  obtain ⟨published', fresh', unreadable', nav'⟩ := r'
  cases same
  cases outcome <;> rfl

theorem buildTasks_filter {keep : Task → Bool} (tasks : List Task) (sound : t.Sound)
    (known : ∀ task ∈ tasks, t.locate [] task.document.source ≠ .error .notFound)
    (skipped : ∀ task ∈ tasks, keep task = false → isSkipped t task = true) {r r' : Report}
    (same : r'.unlisted = r.unlisted) :
    (buildTasks c references t r' (tasks.filter keep)).1 = (buildTasks c references t r tasks).1 ∧
      (buildTasks c references t r' (tasks.filter keep)).2.map Report.unlisted =
        (buildTasks c references t r tasks).2.map Report.unlisted := by
  induction tasks generalizing t r r' with
  | nil => exact ⟨rfl, congrArg Except.ok same⟩
  | cons task rest ih =>
    obtain ⟨_, known⟩ := List.forall_mem_cons.mp known
    obtain ⟨here, skipped⟩ := List.forall_mem_cons.mp skipped
    cases kept : keep task with
    | false =>
      rw [List.filter_cons_of_neg (by simp [kept]), buildTasks, buildDocument_skipped (here kept)]
      exact ih sound known skipped (same.trans rfl)
    | true =>
      rw [List.filter_cons_of_pos kept, buildTasks, buildTasks]
      split
      · exact ⟨rfl, rfl⟩
      · rename_i t₁ outcome notFailed now
        have advanced := advanced_buildDocument sound now notFailed
        -- what was to be skipped still is, so that both builds go on in the same tree
        refine ih advanced.sound (fun x member => ?_) (fun x member dropped => ?_)
          (unlisted_add same _ _ outcome)
        · rw [locate_settled advanced.toKeeps sound (known x member)]
          exact known x member
        · rw [isSkipped_advanced advanced sound (known x member)]
          exact skipped x member dropped

theorem isSkipped_turns (tasks : List Task) (sound : t.Sound)
    (known : ∀ task ∈ tasks, t.locate [] task.document.source ≠ .error .notFound) {r r' : Report}
    (worked : buildTasks c references t r tasks = (t', .ok r')) :
    ∀ x ∈ turns c references t tasks, isSkipped x.1 x.2 = isSkipped t x.2 := by
  induction tasks generalizing t r with
  | nil => simp [turns]
  | cons task rest ih =>
    obtain ⟨_, known⟩ := List.forall_mem_cons.mp known
    obtain ⟨t₁, outcome, now, notFailed, further⟩ := buildTasks_step worked
    have advanced := advanced_buildDocument sound now notFailed
    rw [turns, now]
    refine List.forall_mem_cons.mpr ⟨rfl, fun x member => ?_⟩
    have members : (turns c references t₁ rest).map (·.2) = rest := turns_tasks rest t₁
    have listed : x.2 ∈ rest := by
      rw [← members]
      exact List.mem_map_of_mem member
    rw [ih advanced.sound (fun y listed => ?_) further x member,
      isSkipped_advanced advanced sound (known x.2 listed)]
    rw [locate_settled advanced.toKeeps sound (known y listed)]
    exact known y listed

end Runs

section Builds
variable {t : FileTree} {c : Config}

def Starts (t : FileTree) (c : Config) (start : FileTree) (sets : List GroupDocuments) : Prop :=
  t.makeDirectories c.outputRoot = (start, .ok ()) ∧ discover start c = .ok sets

def blankReport (c : Config) : Report := ⟨[], 0, [], .initial c.groups⟩

def Report.finished (r : Report) : Report := { r with index := r.index.finish }

/-- A build of some of the documents that are found. Their pages may refer to all of them. -/
def buildOnly (keep : Task → Bool) (t : FileTree) (c : Config) :
    FileTree × Except BuildError Report :=
  match t.makeDirectories c.outputRoot with
  | (start, .error cause) => (start, .error (.outputRoot c.outputSpelling cause))
  | (start, .ok _) =>
    match discover start c with
    | .error e => (start, .error e)
    | .ok sets =>
      (buildTasks c (referencesOf sets) start (blankReport c)
        ((tasksOf sets).filter keep)).map id (Except.map Report.finished)

theorem buildOnly_all (t : FileTree) (c : Config) : buildOnly (fun _ => true) t c = build t c := by
  unfold buildOnly build
  match t.makeDirectories c.outputRoot with
  | (start, .error cause) => rfl
  | (start, .ok _) =>
    cases found : discover start c with
    | error e => simp [found]
    | ok sets =>
      simp only [found, List.filter_true, buildSets_eq, blankReport]
      rcases buildTasks c (referencesOf sets) start ⟨[], 0, [], .initial c.groups⟩ (tasksOf sets)
        with ⟨final, e | r⟩
      · rfl
      · rfl

theorem buildOnly_starts (keep : Task → Bool) {start : FileTree} {sets : List GroupDocuments}
    (starts : Starts t c start sets) :
    buildOnly keep t c = (buildTasks c (referencesOf sets) start (blankReport c)
      ((tasksOf sets).filter keep)).map id (Except.map Report.finished) := by
  unfold buildOnly
  rw [starts.1]
  simp only [starts.2]

theorem documentsOf_error {index : Nat} {g : Group} {roots : List Location} {known : List Document}
    {e : BuildError} (failed : documentsOf t c index g known roots = .error e) :
    ∃ p, e = .libraryRoot p := by
  induction roots generalizing known with
  | nil => cases failed
  | cons root roots ih =>
    rw [documentsOf] at failed
    split at failed
    · exact ih failed
    · cases failed
      exact ⟨_, rfl⟩

theorem discoverFrom_error {groups : List Group} {index : Nat} {e : BuildError}
    (failed : discoverFrom t c index groups = .error e) : ∃ p, e = .libraryRoot p := by
  induction groups generalizing index with
  | nil => cases failed
  | cons g groups ih =>
    rw [discoverFrom] at failed
    cases first : documentsOf t c index g [] c.libraryRoots with
    | error cause =>
      simp only [first, bind, Except.bind, Except.error.injEq] at failed
      obtain rfl := failed
      exact documentsOf_error first
    | ok ds =>
      cases later : discoverFrom t c (index + 1) groups with
      | error cause =>
        simp only [first, later, bind, Except.bind, Except.error.injEq] at failed
        obtain rfl := failed
        exact ih later
      | ok rest => simp [first, later, bind, Except.bind, pure, Except.pure] at failed

theorem starts_or (t : FileTree) (c : Config) :
    (∃ start sets, Starts t c start sets) ∨
      ((∀ start sets, ¬ Starts t c start sets) ∧
        ∃ start e, (∀ keep, buildOnly keep t c = (start, .error e)) ∧
          ∀ p cause, e ≠ .read p cause) := by
  unfold Starts buildOnly
  match t.makeDirectories c.outputRoot with
  | (start, .error cause) =>
    exact Or.inr ⟨by simp, _, _, fun _ => rfl, by simp⟩
  | (start, .ok _) =>
    cases found : discover start c with
    | ok sets => exact Or.inl ⟨start, sets, rfl, found⟩
    | error e =>
      obtain ⟨root, rfl⟩ := discoverFrom_error found
      refine Or.inr ⟨?_, start, .libraryRoot root, fun _ => by simp [found], by simp⟩
      rintro _ sets ⟨same, found'⟩
      cases same
      cases found.symm.trans found'

theorem starts_unique {start start' : FileTree} {sets sets' : List GroupDocuments}
    (starts : Starts t c start sets) (starts' : Starts t c start' sets') :
    start = start' ∧ sets = sets' := by
  obtain ⟨made, found⟩ := starts
  obtain ⟨made', found'⟩ := starts'
  cases made.symm.trans made'
  cases found.symm.trans found'
  exact ⟨rfl, rfl⟩

theorem starts_known (sound : t.Sound) {start : FileTree} {sets : List GroupDocuments}
    (starts : Starts t c start sets) :
    start.Sound ∧ ∀ task ∈ tasksOf sets,
      start.locate [] task.document.source ≠ .error .notFound := by
  have root := spared_makeDirectories sound (fun _ => False) c.outputRoot
  rw [starts.1] at root
  exact ⟨root.sound, fun task => source_settled root.sound starts.2⟩

theorem build_read {p : Path} {cause : FileError} :
    (build t c).2 = .error (.read p cause) ↔
      ∃ start sets, Starts t c start sets ∧
        (buildTasks c (referencesOf sets) start (blankReport c) (tasksOf sets)).2 =
          .error (.read p cause) := by
  rw [← buildOnly_all]
  rcases starts_or t c with ⟨start, sets, starts⟩ | ⟨never, start, e, ends, other⟩
  · rw [buildOnly_starts _ starts, List.filter_true, Prod.map_snd]
    constructor
    · intro failed
      refine ⟨start, sets, starts, ?_⟩
      cases result : (buildTasks c (referencesOf sets) start (blankReport c) (tasksOf sets)).2 with
      | error e => simpa [result, Except.map] using failed
      | ok r => simp [result, Except.map] at failed
    · rintro ⟨start', sets', starts', failed⟩
      obtain ⟨rfl, rfl⟩ := starts_unique starts starts'
      rw [failed]
      rfl
  · rw [ends]
    constructor
    · intro failed
      exact absurd (Except.error.inj failed) (other p cause)
    · rintro ⟨start', sets', starts', _⟩
      exact absurd starts' (never start' sets')

theorem buildOnly_unlisted (sound : t.Sound) {keep : Task → Bool}
    (skipped : ∀ task, keep task = false →
      isSkipped (t.makeDirectories c.outputRoot).1 task = true) :
    (buildOnly keep t c).1 = (build t c).1 ∧
      (buildOnly keep t c).2.map Report.unlisted = (build t c).2.map Report.unlisted := by
  rw [← buildOnly_all]
  rcases starts_or t c with ⟨start, sets, starts⟩ | ⟨_, start, e, ends, _⟩
  · obtain ⟨sound, known⟩ := starts_known sound starts
    rw [starts.1] at skipped
    have order : ∀ x : Except BuildError Report, (x.map Report.finished).map Report.unlisted =
        (x.map Report.unlisted).map Report.finished := by
      rintro (e | r) <;> rfl
    rw [buildOnly_starts _ starts, buildOnly_starts _ starts, List.filter_true]
    constructor
    · exact (buildTasks_filter (tasksOf sets) sound known (fun task _ => skipped task) rfl).1
    · rw [Prod.map_snd, Prod.map_snd, order, order, (buildTasks_filter (tasksOf sets) sound known
        (fun task _ => skipped task) rfl).2]
  · rw [ends, ends]
    exact ⟨rfl, rfl⟩

theorem unreadableOf_turns {turns : List (FileTree × Task)} {start : FileTree}
    (same : ∀ x ∈ turns, isSkipped x.1 x.2 = isSkipped start x.2) :
    unreadableOf turns =
      ((turns.map (·.2)).filter (isSkipped start)).map (·.document.source) := by
  have skipped : ∀ x ∈ turns, (entryFor? x.1 x.2).isNone = isSkipped start x.2 := by
    intro x member
    rw [entryFor?_isNone, ← isSkipped_eq, same x member]
  rw [unreadableOf, List.filter_congr skipped, List.filter_map, List.map_map]
  rfl

theorem mem_indexOf {groups : List Group} {turns : List (FileTree × Task)}
    {part : NavigationSection} (member : part ∈ indexOf groups (entriesOf turns))
    {e : NavigationEntry} (listed : e ∈ part.entries) :
    ∃ x ∈ turns, entryFor? x.1 x.2 = some e := by
  obtain ⟨⟨g, i⟩, _, rfl⟩ := List.mem_map.mp (List.mem_of_mem_filter member)
  obtain ⟨⟨index, e⟩, inside, rfl⟩ := List.mem_map.mp listed
  obtain ⟨x, turn, entry⟩ := List.mem_filterMap.mp (List.mem_of_mem_filter inside)
  obtain ⟨e', found, same⟩ := Option.map_eq_some_iff.mp entry
  cases same
  exact ⟨x, turn, found⟩

theorem build_lists (sound : t.Sound) {final : FileTree} {r : Report}
    (done : build t c = (final, .ok r)) :
    ∃ start sets, Starts t c start sets ∧
      r.unreadable = ((tasksOf sets).filter (isSkipped start)).map (·.document.source) ∧
      ∀ part ∈ r.index, ∀ e ∈ part.entries, ∃ task ∈ tasksOf sets, isSkipped start task = false ∧
        ∃ title, e = ⟨task.group.description, task.document.outputRelative, task.document.name,
          title⟩ := by
  obtain ⟨start, sets, r₀, made, found, worked, _⟩ := build_ok done
  have discovered : discoveredBy t c = .ok sets := by rw [discoveredBy, made, found]
  obtain ⟨_, unreadable, index⟩ := build_reports done discovered
  obtain ⟨sound, known⟩ := starts_known sound ⟨made, found⟩
  have same := isSkipped_turns (tasksOf sets) sound known worked
  have members : (turns c (referencesOf sets) start (tasksOf sets)).map (·.2) = tasksOf sets :=
    turns_tasks (tasksOf sets) start
  rw [made] at unreadable index
  refine ⟨start, sets, ⟨made, found⟩, ?_, fun part shown e listed => ?_⟩
  · rw [unreadable, unreadableOf_turns same, members]
  · rw [index] at shown
    obtain ⟨x, turn, entry⟩ := mem_indexOf shown listed
    refine ⟨x.2, members ▸ List.mem_map_of_mem turn, ?_, ?_⟩
    · rw [← same x turn, isSkipped_eq, ← entryFor?_isNone, entry]
      rfl
    · obtain ⟨title, _, rfl⟩ := Option.map_eq_some_iff.mp entry
      exact ⟨title, rfl⟩

end Builds

/-- A build fails because of a source only at a binary document that it has to copy. Whatever other
sources cannot be read, it reports them, lists none of their documents, and ends as if these were
not there. -/
theorem build_skips_unreadable {t : FileTree} (sound : t.Sound) (c : Config) :
    (∀ p cause, (build t c).2 = .error (.read p cause) ↔
      ∃ start sets, Starts t c start sets ∧ ∃ front task back here r,
        tasksOf sets = front ++ task :: back ∧
        buildTasks c (referencesOf sets) start (blankReport c) front = (here, .ok r) ∧
        task.document.kind.isBinary = true ∧ isStale here c.force task.document = true ∧
        task.document.sharesSource = true ∧ task.document.source = p ∧
        start.read [] p = .error cause) ∧
      (∀ final r, build t c = (final, .ok r) → ∃ start sets, Starts t c start sets ∧
        r.unreadable = ((tasksOf sets).filter (isSkipped start)).map (·.document.source) ∧
        ∀ part ∈ r.index, ∀ e ∈ part.entries, ∃ task ∈ tasksOf sets, isSkipped start task = false ∧
          ∃ title, e = ⟨task.group.description, task.document.outputRelative, task.document.name,
            title⟩) ∧
      ∀ keep : Task → Bool,
        (∀ task, keep task = false → isSkipped (t.makeDirectories c.outputRoot).1 task = true) →
        (buildOnly keep t c).1 = (build t c).1 ∧
          (buildOnly keep t c).2.map Report.unlisted = (build t c).2.map Report.unlisted := by
  refine ⟨fun p cause => ?_, fun final r done => build_lists sound done,
    fun keep skipped => buildOnly_unlisted sound skipped⟩
  rw [build_read]
  refine exists_congr fun start => exists_congr fun sets => and_congr_right fun starts => ?_
  obtain ⟨sound, known⟩ := starts_known sound starts
  rw [buildTasks_failed]
  refine exists_congr fun front => exists_congr fun task => exists_congr fun back =>
    exists_congr fun here => exists_congr fun r => and_congr_right fun split =>
    and_congr_right fun built => ?_
  have advanced := advanced_buildTasks front sound built
  have listed : task ∈ tasksOf sets := by simp [split]
  rw [buildDocument_read]
  refine and_congr_right fun _ => and_congr_right fun _ => and_congr_right fun _ =>
    and_congr_right ?_
  rintro rfl
  exact read_error_advanced advanced sound (known task listed) cause

def spottedTree : FileTree :=
  ⟨[ (["l".toList], .directory 0), (["l".toList, "A.pm".toList], .file [65] 1),
    (["m".toList], .directory 0), (["m".toList, "B.pm".toList], .unreadable 1),
    (["o".toList], .directory 0),
    (["o".toList, "src".toList], .directory 0),
    (["o".toList, "src".toList, "b.png".toList], .file [7] 3), (["p".toList], .directory 0),
    (["p".toList, "b.png".toList], .unreadable 1)], 5⟩

def spottedConfig : Config :=
  { smallConfig with libraryRoots := [["l".toList], ["m".toList], ["p".toList]] }

theorem build_skips_unreadable_spotted :
    ∃ final r, build spottedTree spottedConfig = (final, .ok r) ∧
      r.unreadable = [Path.absolute ["m".toList, "B.pm".toList]] ∧
      r.published = [Path.absolute ["o".toList, "A.pm.html".toList]] ∧ r.fresh = 1 ∧
      (∃ start sets, Starts spottedTree spottedConfig start sets ∧
        r.unreadable = ((tasksOf sets).filter (isSkipped start)).map (·.document.source)) ∧
      (buildOnly (fun task => !isSkipped spottedTree task) spottedTree spottedConfig).1 =
        final := by
  have sound : spottedTree.Sound := sound_of_entries (by decide) (by decide)
  have done : build spottedTree spottedConfig = (_, .ok _) :=
    Prod.ext rfl (ok_of_isOk ⟨[], 0, [], []⟩ (by decide +kernel))
  have there : (spottedTree.makeDirectories spottedConfig.outputRoot).1 = spottedTree := rfl
  obtain ⟨_, reports, alike⟩ := build_skips_unreadable sound spottedConfig
  obtain ⟨start, sets, starts, unreadable, _⟩ := reports _ _ done
  obtain ⟨same, _⟩ := alike (fun task => !isSkipped spottedTree task) fun task dropped => by
    rw [there]
    simpa using dropped
  exact ⟨_, _, done, by decide +kernel, by decide +kernel, by decide +kernel,
    ⟨start, sets, starts, unreadable⟩, same⟩

def blockedTree : FileTree :=
  ⟨[ (["l".toList], .directory 0), (["l".toList, "A.pm".toList], .file [65] 1),
    (["p".toList], .directory 0), (["p".toList, "b.png".toList], .unreadable 1)], 5⟩

theorem build_stops_at_unreadable :
    blockedTree.Sound ∧ Config.resolve blockedTree [] none smallSettings = .ok smallConfig ∧
      (build blockedTree smallConfig).2 =
        .error (.read (Path.absolute ["p".toList, "b.png".toList]) .inputOutput) := by
  refine ⟨sound_of_entries (by decide) (by decide), rfl, ?_⟩
  have failed : (build blockedTree smallConfig).2.map (fun _ => ()) =
      .error (.read (Path.absolute ["p".toList, "b.png".toList]) .inputOutput) := by
    decide +kernel
  cases result : (build blockedTree smallConfig).2 with
  | error e => simpa [result, Except.map] using failed
  | ok r => simp [result, Except.map] at failed

end Site
end PodSite
