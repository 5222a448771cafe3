import PodSite.Proofs.OutputRoot
import PodSite.Proofs.Site.Current
import PodSite.Proofs.Site.Hidden

/-!
A build that leaves fresh documents alone ends with the same files as one that builds everything,
if the output of an earlier build is there and only sources were edited since.
-/
namespace PodSite.Site
open FileTree

def bytesAt? (t : FileTree) (loc : Location) : Option Bytes :=
  match t.get? loc with
  | some (.file content _) => some content
  | _ => none

/-- Some sources have got new bytes and a new time, later than what their documents were written at.
Nothing else has changed, but for the time it is now. -/
structure Edited (tasks : List Task) (t t' : FileTree) : Prop where
  sound : t'.Sound
  entries : ∀ loc, loc ≠ [] → t'.get? loc = t.get? loc ∨
    ∃ old before content after, t.get? loc = some (.file old before) ∧
      t'.get? loc = some (.file content after) ∧
      (∃ task ∈ tasks, task.document.source = Path.absolute loc) ∧
      ∀ task ∈ tasks, task.document.source = Path.absolute loc →
        ∀ written, t.modified? task.document.output = some written → written < after

theorem edited_put {tasks : List Task} {t : FileTree} (sound : t.Sound) {loc : Location}
    {old content : Bytes} {before after : Nat} (now : Nat)
    (here : t.get? loc = some (.file old before))
    (source : ∃ task ∈ tasks, task.document.source = Path.absolute loc)
    (newer : ∀ task ∈ tasks, (t.modified? task.document.output).all (· < after) = true) :
    Edited tasks t { t.put loc (.file content after) with now := now } := by
  have inside : loc ≠ [] := FileAt.inside ⟨_, here, rfl⟩
  constructor
  · refine Sound.later now (sound.put inside ?_ ?_)
    · rw [← List.dropLast_concat_getLast inside] at here
      exact sound.housed here
    · intro ⟨m, directory⟩
      simp [here] at directory
  · intro other below
    rw [get?_now _ now below, get?_put t loc other _ inside]
    split
    · rename_i same
      subst same
      refine Or.inr ⟨old, before, content, after, here, rfl, source, ?_⟩
      intro task member _ written known
      simpa [known] using newer task member
    · exact Or.inl rfl

section Edits
variable {tasks : List Task} {t t' : FileTree} (edited : Edited tasks t t')
include edited

theorem Edited.linkFree (linkFree : t.LinkFree) : t'.LinkFree := by
  intro loc target found
  by_cases top : loc = []
  · simp [top, get?] at found
  · rcases edited.entries loc top with same | ⟨_, _, _, _, _, there, _⟩
    · exact linkFree loc target (same ▸ found)
    · simp [there] at found

theorem Edited.fileAt_iff (loc : Location) : FileAt t loc ↔ FileAt t' loc := by
  unfold FileAt
  by_cases top : loc = []
  · simp [top, get?, Entry.isFile]
  · rcases edited.entries loc top with same | ⟨_, _, _, _, here, there, _⟩
    · rw [same]
    · simp [here, there, Entry.isFile]

theorem Edited.directory {loc : Location} (there : t.DirectoryAt loc) : t'.DirectoryAt loc := by
  by_cases top : loc = []
  · exact top ▸ t'.root_directory
  · obtain ⟨m, there⟩ := there
    rcases edited.entries loc top with same | ⟨_, _, _, _, here, _⟩
    · exact ⟨m, same.trans there⟩
    · simp [here] at there

theorem Edited.sameSources (sound : t.Sound) (linkFree : t.LinkFree) (c : Config) :
    SameSources c t t' where
  roots root _ there := by
    obtain ⟨addressable, directory⟩ := (isDirectory_absolute sound linkFree root).mp there
    exact (isDirectory_absolute edited.sound (edited.linkFree linkFree) root).mpr
      ⟨addressable, edited.directory directory⟩
  files _ _ p _ _ := edited.fileAt_iff p

end Edits

section Separate
variable {c : Config} {out : Location} (output : c.outputRoot = Path.absolute out)
  (outside : ∀ root ∈ c.libraryRoots, ¬ out <+: root)

include output outside

theorem hides_outside : HidesOutput c where
  above root listed inside := by
    rw [output, Path.absolute_prefix] at inside
    exact absurd inside (outside root listed)
  plain root listed same := by
    rw [output] at same
    exact absurd (Path.absolute_injective same ▸ List.prefix_refl root) (outside root listed)

theorem forced_current {start first : FileTree} (sound : start.Sound) (linkFree : start.LinkFree)
    {r : Report} (forced : build start { c with force := true } = (first, .ok r))
    {sets : List GroupDocuments} (found : discover first c = .ok sets)
    (apart : (tasksOf sets).Pairwise Apart) :
    first.Sound ∧ first.LinkFree ∧
      ∀ task ∈ tasksOf sets, Current c (referencesOf sets) first task := by
  obtain ⟨t₀, sets₀, r₀, made, found₀, worked, _⟩ := build_ok forced
  rw [discover_force] at found₀
  have grown := grown_makeDirectories (fun _ => False) c.outputRoot sound linkFree
  rw [made] at grown
  have hides := hides_outside output outside
  have placed := tasks_placed grown.sound grown.linkFree output found₀
  have frame := grown_buildTasks { c with force := true } (referencesOf sets₀) (tasksOf sets₀)
    placed grown.sound grown.linkFree ⟨[], 0, [], .initial c.groups⟩
  rw [worked] at frame
  have sources : SourcesKept c t₀ first := by
    refine .of_grown grown.sound grown.linkFree frame ?_
    intro root listed p view owned written
    exact generated_hidden output hides listed view owned (written_generated placed written)
  obtain ⟨sets', found', documents⟩ :=
    discover_same grown.sound grown.linkFree frame.sound frame.linkFree
      sources.sameSources found₀
  cases found.symm.trans found'
  have tasks := tasksOf_same documents
  have apart₀ := apart_same tasks.symm apart
  have current := buildTasks_current { c with force := true } (referencesOf sets₀) (tasksOf sets₀)
    placed apart₀ (sources_unwritten output hides grown.sound grown.linkFree found₀) grown.sound
    grown.linkFree (fun _ _ => Or.inl rfl) worked
  refine ⟨frame.sound, frame.linkFree, fun task member => ?_⟩
  obtain ⟨task₀, member₀, same⟩ := List.mem_map.mp (tasks ▸ List.mem_map_of_mem member)
  rw [← referencesOf_same documents]
  exact current_same same (current task₀ member₀)

theorem edited_below {first edited : FileTree} (sound : first.Sound) (linkFree : first.LinkFree)
    {sets : List GroupDocuments} (found : discover first c = .ok sets)
    (edit : Edited (tasksOf sets) first edited) {loc : Location} (below : out <+: loc)
    (inside : loc ≠ []) : edited.get? loc = first.get? loc := by
  rcases edit.entries loc inside with same | ⟨_, _, _, _, _, _, ⟨task, member, source⟩, _⟩
  · exact same
  · obtain ⟨p, place⟩ := tasks_discovered sound linkFree output found member
    obtain ⟨root, listed, view⟩ := place.shown
    cases Path.absolute_injective (source.symm.trans place.source)
    exact absurd below (output_hidden output (outside root listed) view)

theorem edited_holds {first edited : FileTree} (sound : first.Sound) (linkFree : first.LinkFree)
    {sets : List GroupDocuments} (found : discover first c = .ok sets)
    (edit : Edited (tasksOf sets) first edited) {loc : Location} (below : out <+: loc)
    {content : Bytes} (holds : first.Holds loc content) : edited.Holds loc content := by
  have inside : loc ≠ [] := by
    rintro rfl
    simp [Holds, get?] at holds
  unfold Holds
  rw [edited_below output outside sound linkFree found edit below inside]
  exact holds

theorem page_kept {first edited t : FileTree} (sound : first.Sound) (linkFree : first.LinkFree)
    {sets : List GroupDocuments} (found : discover first c = .ok sets)
    (edit : Edited (tasksOf sets) first edited) (grown : Grown (fun _ => False) edited t)
    {d : Document} (placed : d.Placed out) (there : FileAt first d.output.names) :
    t.get? d.output.names = first.get? d.output.names := by
  have below : out <+: d.output.names := placed.targets_below (Document.output_mem_targets d)
  have kept : edited.get? d.output.names = first.get? d.output.names :=
    edited_below output outside sound linkFree found edit below there.inside
  obtain ⟨e, here, file⟩ := there
  rw [here, grown.file_iff not_false file, kept, here]

omit output outside in
theorem fresh_unedited {first edited t : FileTree} (sound : first.Sound)
    (linkFree : first.LinkFree) {sets : List GroupDocuments}
    (edit : Edited (tasksOf sets) first edited) (grown : Grown (fun _ => False) edited t)
    {task : Task} (member : task ∈ tasksOf sets) {p : Location}
    (source : task.document.source = Path.absolute p) {d : Document}
    (place : Discovered c out t d p) (same : task.document.output = d.output)
    (page : t.get? d.output.names = first.get? d.output.names)
    (fresh : isStale t false d = false) : edited.get? p = first.get? p := by
  obtain ⟨e, there, file, dated⟩ := place.file
  rw [grown.file_iff not_false file] at there
  have inside : p ≠ [] := FileAt.inside ⟨e, there, file⟩
  rcases edit.entries p inside with kept | ⟨_, _, _, time, _, replaced, _, later⟩
  · exact kept
  · exfalso
    obtain ⟨written, at_time, in_time⟩ := fresh_written fresh
    have page_time : first.modified? task.document.output = some written := by
      rw [same, ← at_time, place.placed.output_absolute]
      apply modified?_congr grown.sound grown.linkFree sound linkFree
      exact page.symm
    have after : written < time := later task member source written page_time
    rw [there] at replaced
    cases replaced
    have source_time : time = d.modified := Option.some.inj dated
    omega

theorem edited_ready {first edited t : FileTree} (sound : first.Sound) (linkFree : first.LinkFree)
    {sets sets' : List GroupDocuments} (found : discover first c = .ok sets)
    (readable : ∀ task ∈ tasksOf sets, ∃ content, first.read [] task.document.source = .ok content)
    (current : ∀ task ∈ tasksOf sets, Current c (referencesOf sets) first task)
    (edit : Edited (tasksOf sets) first edited) (grown : Grown (fun _ => False) edited t)
    (found' : discover t c = .ok sets') (documents : List.Forall₂ SameDocuments sets sets') :
    ∀ task ∈ tasksOf sets', FileAt t task.document.output.names ∧
      (isStale t false task.document = false → Current c (referencesOf sets') t task) := by
  intro task' member'
  obtain ⟨task, member, same⟩ :=
    List.mem_map.mp (tasksOf_same documents ▸ List.mem_map_of_mem member')
  have same_output : task.document.output = task'.document.output :=
    congrArg (·.document.output) same
  have same_source : task.document.source = task'.document.source :=
    congrArg (·.document.source) same
  obtain ⟨p, place⟩ := tasks_discovered sound linkFree output found member
  obtain ⟨p', place'⟩ := tasks_discovered grown.sound grown.linkFree output found' member'
  cases Path.absolute_injective (place.source.symm.trans (same_source.trans place'.source))
  obtain ⟨content, read⟩ := readable task member
  have there : FileAt first task'.document.output.names :=
    same_output ▸ output_there place.placed (current task member) read
  have page := page_kept output outside sound linkFree found edit grown place'.placed there
  refine ⟨there.imp fun e here => ⟨page.trans here.1, here.2⟩, fun fresh => ?_⟩
  -- a fresh page tells that its source was not replaced, so its page is what the first run wrote
  have unedited :=
    fresh_unedited sound linkFree edit grown member place.source place' same_output page fresh
  refine current_same same (fun content' read' => ?_)
  rw [place.source, read_absolute grown.sound grown.linkFree] at read'
  obtain ⟨addressable, m, source⟩ := read'
  rw [grown.file_iff not_false rfl, unedited] at source
  have source_read := (read_absolute sound linkFree p content').mpr ⟨addressable, m, source⟩
  rw [← place.source] at source_read
  obtain ⟨copy, paged⟩ := current task member content' source_read
  rw [← referencesOf_same documents]
  have keep : ∀ loc ∈ task.document.targets, ∀ x, first.Holds loc x → t.Holds loc x := by
    intro loc target x holds
    exact holds_outside grown not_false (edited_holds output outside sound linkFree found edit
      (place.placed.targets_below target) holds)
  exact ⟨fun shared => keep _ (Document.copy_mem_targets shared) _ (copy shared),
    fun shown => keep _ (Document.output_mem_targets _) _ (paged shown)⟩

end Separate

theorem edited_readable {first edited t : FileTree} (sound : first.Sound)
    (linkFree : first.LinkFree) {sets sets' : List GroupDocuments}
    (edit : Edited (tasksOf sets) first edited) (grown : Grown (fun _ => False) edited t)
    (documents : List.Forall₂ SameDocuments sets sets')
    (sources : ∀ task ∈ tasksOf sets', ∃ p, task.document.source = Path.absolute p)
    (readable : ∀ task ∈ tasksOf sets,
      ∃ content, first.read [] task.document.source = .ok content) :
    ∀ task ∈ tasksOf sets', ∃ content, t.read [] task.document.source = .ok content := by
  intro task' member'
  obtain ⟨task, member, same⟩ :=
    List.mem_map.mp (tasksOf_same documents ▸ List.mem_map_of_mem member')
  have same_source : task.document.source = task'.document.source :=
    congrArg (·.document.source) same
  obtain ⟨p, source⟩ := sources task' member'
  obtain ⟨content, read⟩ := readable task member
  rw [same_source, source] at read
  rw [source]
  obtain ⟨addressable, m, here⟩ := (read_absolute sound linkFree p content).mp read
  have inside : p ≠ [] := FileAt.inside ⟨_, here, rfl⟩
  rcases edit.entries p inside with kept | ⟨_, _, content', m', _, replaced, _⟩
  · refine ⟨content, (read_absolute grown.sound grown.linkFree p content).mpr ⟨addressable, m, ?_⟩⟩
    rw [grown.file_iff not_false rfl, kept, here]
  · refine ⟨content', (read_absolute grown.sound grown.linkFree p content').mpr
      ⟨addressable, m', ?_⟩⟩
    rw [grown.file_iff not_false rfl, replaced]

theorem bytesAt?_eq_some {t : FileTree} {loc : Location} {content : Bytes} :
    bytesAt? t loc = some content ↔ ∃ m, t.get? loc = some (.file content m) := by
  unfold bytesAt?
  cases t.get? loc with
  | none => simp
  | some e => cases e <;> simp

theorem current_bytes {c : Config} {references : References} {out : Location} {tasks : List Task}
    (placed : ∀ task ∈ tasks, task.document.Placed out)
    (sources : ∀ task ∈ tasks, SourceUnwritten tasks task) {t quick full : FileTree}
    (sound : t.Sound) (linkFree : t.LinkFree)
    (readable : ∀ task ∈ tasks, ∃ content, t.read [] task.document.source = .ok content)
    (to_quick : Grown (WrittenBy tasks) t quick) (to_full : Grown (WrittenBy tasks) t full)
    (quick_current : ∀ task ∈ tasks, Current c references quick task)
    (full_current : ∀ task ∈ tasks, Current c references full task) (loc : Location) :
    bytesAt? quick loc = bytesAt? full loc := by
  apply Option.ext
  intro content
  rw [bytesAt?_eq_some, bytesAt?_eq_some]
  -- a place that is written holds what its document says, and any other one what it held before
  by_cases written : WrittenBy tasks loc
  · obtain ⟨task, member, target⟩ := written
    obtain ⟨source, from_source, unwritten⟩ := sources task member
    obtain ⟨old, read⟩ := readable task member
    obtain ⟨bytes, held⟩ := targets_held c references (placed task member) target old
    have quick_read : quick.read [] task.document.source = .ok old := by
      rw [from_source] at read ⊢
      exact (read_outside sound linkFree to_quick unwritten old).mpr read
    have full_read : full.read [] task.document.source = .ok old := by
      rw [from_source] at read ⊢
      exact (read_outside sound linkFree to_full unwritten old).mpr read
    have unreadable : ∀ m, quick.get? loc = some (.unreadable m) ↔
        full.get? loc = some (.unreadable m) := by
      intro m
      rw [to_quick.unreadable_iff, to_full.unreadable_iff]
    rcases held quick (quick_current task member) quick_read with ⟨m, here⟩ | ⟨_, m, here⟩
    · rcases held full (full_current task member) full_read with ⟨m', there⟩ | ⟨_, m', there⟩
      · simp [here, there]
      · simp [(unreadable m').mpr there] at here
    · simp [here, (unreadable m).mp here]
  · simp only [to_quick.file_iff written (rfl : (Entry.file content _).isFile = true),
      to_full.file_iff written (rfl : (Entry.file content _).isFile = true)]

theorem ready_build {c : Config} {references : References} {out : Location} {tasks : List Task}
    (placed : ∀ task ∈ tasks, task.document.Placed out) (apart : tasks.Pairwise Apart)
    (sources : ∀ task ∈ tasks, SourceUnwritten tasks task) {t t' : FileTree} (sound : t.Sound)
    (linkFree : t.LinkFree)
    (ready : ∀ task ∈ tasks, FileAt t task.document.output.names ∧
      (isStale t false task.document = false → Current c references t task))
    (force : Bool) {r r' : Report}
    (worked : buildTasks { c with force := force } references t r tasks = (t', .ok r')) :
    Grown (WrittenBy tasks) t t' ∧ (∀ task ∈ tasks, Current c references t' task) ∧
      r'.Agrees (settledReport t r tasks) := by
  have frame := grown_buildTasks { c with force := force } references tasks placed sound linkFree r
  rw [worked] at frame
  have ready' : ∀ task ∈ tasks, Ready { c with force := force } references t task := by
    cases force with
    | true => exact fun _ _ => Or.inl rfl
    | false => exact fun task member => Or.inr (ready task member)
  refine ⟨frame, ?_, ?_⟩
  · exact buildTasks_current { c with force := force } references tasks placed apart sources sound
      linkFree ready' worked
  · exact buildTasks_agrees { c with force := force } references tasks placed sound linkFree sources
      ⟨rfl, rfl, rfl⟩ worked

/-- A build that leaves fresh documents alone ends with the same files and the same index as a build
of everything, after a first build of everything and an edit of sources. -/
theorem incremental_eq_full {files start first edited quick full : FileTree} {cwd : Location}
    {file : Option Text} {settings : Settings} {c : Config} {sets : List GroupDocuments}
    {report quick_report full_report : Report}
    (resolved : Config.resolve files cwd file settings = .ok c)
    (down : Component.parent ∉ c.outputRoot)
    (outside : ∀ root ∈ c.libraryRoots, ¬ c.outputRoot <+: Path.absolute root)
    (sound : start.Sound) (linkFree : start.LinkFree)
    (forced : build start { c with force := true } = (first, .ok report))
    (found : discover first c = .ok sets)
    (readable : ∀ task ∈ tasksOf sets, ∃ content, first.read [] task.document.source = .ok content)
    (apart : (tasksOf sets).Pairwise Apart) (edit : Edited (tasksOf sets) first edited)
    (quickly : build edited { c with force := false } = (quick, .ok quick_report))
    (fully : build edited { c with force := true } = (full, .ok full_report)) :
    (∀ loc, bytesAt? quick loc = bytesAt? full loc) ∧ quick_report.index = full_report.index := by
  obtain ⟨_, loc, missing, _, output, _, _⟩ :=
    Config.outputRootOf_spec (Config.resolve_output resolved) down
  simp only [output, Path.absolute_prefix] at outside
  obtain ⟨first_sound, first_linkFree, current⟩ :=
    forced_current output outside sound linkFree forced found apart
  have edited_linkFree := edit.linkFree first_linkFree
  -- both builds begin alike: they make the output root and find the same documents
  obtain ⟨t, sets', quick_r, made, found', quick_worked, rfl⟩ := build_ok quickly
  obtain ⟨t_full, sets_full, full_r, made_full, found_full, full_worked, rfl⟩ := build_ok fully
  rw [discover_force] at found' found_full
  cases made.symm.trans made_full
  cases found'.symm.trans found_full
  have grown := grown_makeDirectories (fun _ => False) c.outputRoot edit.sound edited_linkFree
  rw [made] at grown
  have kept := (edit.sameSources first_sound first_linkFree c).trans
    (SourcesKept.of_grown edit.sound edited_linkFree grown fun _ _ _ _ _ => not_false).sameSources
  obtain ⟨sets'', found'', documents⟩ :=
    discover_same first_sound first_linkFree grown.sound grown.linkFree kept found
  cases found'.symm.trans found''
  have ready := edited_ready output outside first_sound first_linkFree found readable current edit
    grown found' documents
  have placed := tasks_placed grown.sound grown.linkFree output found'
  have sources := sources_unwritten output (hides_outside output outside) grown.sound
    grown.linkFree found'
  have apart' := apart_same (tasksOf_same documents) apart
  obtain ⟨to_quick, quick_current, quick_agrees⟩ := ready_build placed apart' sources grown.sound
    grown.linkFree ready false quick_worked
  obtain ⟨to_full, full_current, full_agrees⟩ := ready_build placed apart' sources grown.sound
    grown.linkFree ready true full_worked
  have readable' := edited_readable first_sound first_linkFree edit grown documents
    (fun task member => (sources task member).imp fun _ source => source.1) readable
  refine ⟨current_bytes placed sources grown.sound grown.linkFree readable' to_quick to_full
    quick_current full_current, ?_⟩
  simp only [quick_agrees.index, full_agrees.index]

def smallBuilt : FileTree := (build smallTree { smallConfig with force := true }).1

def smallSets : List GroupDocuments := (discover smallBuilt smallConfig).toOption.getD []

def smallEdited : FileTree :=
  { smallBuilt.put ["l".toList, "A.pm".toList] (.file [66] 8) with now := 9 }

instance : DecidableRel Apart := fun x y =>
  inferInstanceAs (Decidable (∀ loc ∈ x.document.targets, loc ∉ y.document.targets))

theorem incremental_eq_full_small :
    ∃ quick full quick_report full_report,
      build smallEdited { smallConfig with force := false } = (quick, .ok quick_report) ∧
      build smallEdited { smallConfig with force := true } = (full, .ok full_report) ∧
      (∀ loc, bytesAt? quick loc = bytesAt? full loc) ∧
      quick_report.index = full_report.index := by
  have forced : build smallTree { smallConfig with force := true } = (smallBuilt, .ok _) :=
    Prod.ext rfl (ok_of_isOk ⟨[], 0, [], []⟩ (by decide +kernel))
  have quickly : build smallEdited { smallConfig with force := false } = (_, .ok _) :=
    Prod.ext rfl (ok_of_isOk ⟨[], 0, [], []⟩ (by decide +kernel))
  have fully : build smallEdited { smallConfig with force := true } = (_, .ok _) :=
    Prod.ext rfl (ok_of_isOk ⟨[], 0, [], []⟩ (by decide +kernel))
  have outside : ∀ root ∈ smallConfig.libraryRoots,
      ¬ smallConfig.outputRoot <+: Path.absolute root := by decide
  have found : discover smallBuilt smallConfig = .ok smallSets :=
    ok_of_isOk [] (by decide +kernel)
  have apart : (tasksOf smallSets).Pairwise Apart := by decide +kernel
  have read : ∀ task ∈ tasksOf smallSets,
      (smallBuilt.read [] task.document.source).isOk = true := by decide +kernel
  have readable : ∀ task ∈ tasksOf smallSets,
      ∃ content, smallBuilt.read [] task.document.source = .ok content :=
    fun task member => ⟨_, ok_of_isOk [] (read task member)⟩
  have built_sound : smallBuilt.Sound := sound_of_entries (by decide +kernel) (by decide +kernel)
  have edit : Edited (tasksOf smallSets) smallBuilt smallEdited :=
    edited_put built_sound 9
      (show smallBuilt.get? ["l".toList, "A.pm".toList] = some (.file [65] 1) by decide +kernel)
      (by decide +kernel) (by decide +kernel)
  exact ⟨_, _, _, _, quickly, fully,
    incremental_eq_full small_resolved (by decide) outside smallTree_sound smallTree_linkFree forced
      found readable apart edit quickly fully⟩

end PodSite.Site
