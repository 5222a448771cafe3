import PodSite.Proofs.OutputRoot
import PodSite.Proofs.Site.Hidden
import PodSite.Proofs.Site.Publish

/-!
A second run writes nothing. What the first run writes is no source, and it is not older than the
sources; the files beside the pages hold what they should already.
-/
namespace PodSite.Site
open FileTree

def Dated (t : FileTree) (d : Document) : Prop :=
  Addressable d.output.names ∧
    ∃ e written, t.get? d.output.names = some e ∧ e.modified? = some written ∧ d.modified ≤ written

/-- What a run writes for the document is not older than its source: it carries the present time,
or the time of an unreadable file, which takes only nothing. -/
structure InTime (t : FileTree) (d : Document) : Prop where
  now : d.modified ≤ t.now
  unreadable : ∀ m, t.get? d.output.names = some (.unreadable m) → d.modified ≤ m

section Dating
variable {t t' : FileTree} {d : Document}

theorem not_stale_iff {out : Location} (sound : t.Sound) (linkFree : t.LinkFree)
    (placed : d.Placed out) : isStale t false d = false ↔ Dated t d := by
  have time := modified?_absolute sound linkFree d.output.names
  rw [← placed.output_absolute] at time
  unfold isStale Dated
  cases found : t.modified? d.output with
  | none =>
    simp only [Bool.or_true, Bool.true_eq_false, false_iff]
    rintro ⟨addressable, e, written, here, dated, _⟩
    rw [(time written).mpr ⟨addressable, e, here, dated⟩] at found
    cases found
  | some written =>
    obtain ⟨addressable, e, here, dated⟩ := (time written).mp found
    simp [addressable, here, dated]

theorem inTime_grown {files : Location → Prop} (grown : Grown files t t') :
    InTime t' d ↔ InTime t d := by
  constructor
  · rintro ⟨now, unreadable⟩
    exact ⟨grown.now ▸ now, fun m there => unreadable m (grown.unreadable_iff.mpr there)⟩
  · rintro ⟨now, unreadable⟩
    exact ⟨grown.now ▸ now, fun m there => unreadable m (grown.unreadable_iff.mp there)⟩

theorem Dated.grown {files : Location → Prop} (dated : Dated t d) (in_time : InTime t d)
    (grown : Grown files t t') : Dated t' d := by
  obtain ⟨addressable, e, written, here, time, order⟩ := dated
  refine ⟨addressable, ?_⟩
  rcases grown.kept here with same | ⟨_, stamped⟩ | ⟨_, _, content, replaced⟩
  · exact ⟨e, written, same, time, order⟩
  · exact ⟨_, t.now, stamped, rfl, in_time.now⟩
  · exact ⟨_, t.now, replaced, rfl, in_time.now⟩

theorem dated_of_written {files : Location → Prop} (in_time : InTime t d) (grown : Grown files t t')
    (addressable : Addressable d.output.names) {content : Bytes}
    (written : t'.get? d.output.names = some (.file content t.now) ∨
      ∃ m, t.get? d.output.names = some (.unreadable m)) : Dated t' d := by
  refine ⟨addressable, ?_⟩
  rcases written with now | ⟨m, here⟩
  · exact ⟨_, t.now, now, rfl, in_time.now⟩
  · exact ⟨_, m, grown.unreadable_iff.mpr here, rfl, in_time.unreadable m here⟩

end Dating

theorem publishes_dated {c : Config} {references : References} {out : Location} {t t' : FileTree}
    (sound : t.Sound) (linkFree : t.LinkFree) {task : Task} (placed : task.document.Placed out)
    (in_time : InTime t task.document) (done : Publishes c references task t t') :
    Dated t' task.document := by
  have copied := grown_publishCopy sound linkFree placed
  unfold Publishes at done
  by_cases binary : task.document.kind.isBinary = true
  · rw [if_pos binary] at done
    rw [done] at copied
    obtain ⟨content, _, addressable, _, written⟩ :=
      publishCopy_ok sound linkFree placed (placed.shared binary) done
    rw [← placed.output_of_binary binary] at addressable written
    exact dated_of_written in_time copied addressable written
  · rw [if_neg binary] at done
    obtain ⟨content, middle, _, copy, page⟩ := done
    rw [copy] at copied
    have wrote := grown_writePage copied.sound copied.linkFree placed
      (pageBytes c references task content)
    rw [page] at wrote
    rw [placed.output_absolute] at page
    obtain ⟨addressable, _, written⟩ := writeFile_ok copied.sound copied.linkFree page
    exact dated_of_written ((inTime_grown copied).mpr in_time) wrote addressable written

/-- After a build every document that could be read is dated. -/
theorem buildTasks_dated {out : Location} (c : Config) (relaxed : c.force = false)
    (references : References) (tasks : List Task)
    (placed : ∀ task ∈ tasks, task.document.Placed out)
    (sources : ∀ task ∈ tasks, SourceUnwritten tasks task) {t t' : FileTree} (sound : t.Sound)
    (linkFree : t.LinkFree) (in_time : ∀ task ∈ tasks, InTime t task.document) {r r' : Report}
    (done : buildTasks c references t r tasks = (t', .ok r')) :
    ∀ task ∈ tasks, (listed? t task).isSome → Dated t' task.document := by
  induction tasks generalizing t r with
  | nil => simp
  | cons task rest ih =>
    have placed' := fun x (h : x ∈ rest) => placed x (List.mem_cons_of_mem task h)
    have sources' := fun x (h : x ∈ rest) =>
      source_unwritten_later (sources x (List.mem_cons_of_mem task h))
    have first := placed task (by simp)
    -- left out, fresh or written, the first document is dated if it could be read
    have step : ∃ t₁ r₁, Grown (· ∈ task.document.targets) t t₁ ∧
        ((listed? t task).isSome → Dated t₁ task.document) ∧
        buildTasks c references t₁ r₁ rest = (t', .ok r') := by
      rcases buildTasks_cons_ok done with
        ⟨missing, later⟩ | ⟨d, _, fresh, later⟩ | ⟨d, t₁, _, _, published, later⟩
      · exact ⟨t, _, .refl sound linkFree _, by simp [missing], later⟩
      · rw [relaxed, not_stale_iff sound linkFree first] at fresh
        exact ⟨t, _, .refl sound linkFree _, fun _ => fresh, later⟩
      · refine ⟨t₁, _, grown_publishes sound linkFree first published, fun _ => ?_, later⟩
        exact publishes_dated sound linkFree first (in_time task (by simp)) published
    obtain ⟨t₁, r₁, grown, dated, later⟩ := step
    intro x member known
    rcases List.mem_cons.mp member with rfl | member
    · have rest_frame := grown_buildTasks c references rest placed' grown.sound grown.linkFree r₁
      rw [later] at rest_frame
      exact (dated known).grown ((inTime_grown grown).mpr (in_time x (by simp))) rest_frame
    · have source := sources x (List.mem_cons_of_mem task member)
      have same := listed?_outside sound linkFree grown source
      have in_time' : ∀ y ∈ rest, InTime t₁ y.document := fun y h =>
        (inTime_grown grown).mpr (in_time y (List.mem_cons_of_mem task h))
      exact ih placed' sources' grown.sound grown.linkFree in_time' later x member (same ▸ known)

section Later
variable {t : FileTree} (now : Nat)

theorem Dated.later {out : Location} {d : Document} (placed : d.Placed out) (dated : Dated t d) :
    Dated { t with now := now } d := by
  obtain ⟨addressable, e, written, here, rest⟩ := dated
  exact ⟨addressable, e, written, (get?_now t now placed.output_inside).trans here, rest⟩

theorem holds_later {loc : Location} (valid : ∀ n ∈ loc, n.IsFileName) (inside : loc ≠ [])
    (sound : t.Sound) (linkFree : t.LinkFree) {content : Bytes}
    (held : holds t (Path.absolute loc).spell content = true) :
    holds { t with now := now } (Path.absolute loc).spell content = true := by
  rw [holds_spell valid inside sound linkFree] at held
  rw [holds_spell valid inside (sound.later now) (linkFree.later now), get?_now t now inside]
  exact held

end Later

theorem listed?_kept {c : Config} {out : Location} {t t' : FileTree} (sound : t.Sound)
    (linkFree : t.LinkFree) (sound' : t'.Sound) (linkFree' : t'.LinkFree)
    (kept : SourcesKept c t t') {task : Task} {p : Location}
    (place : Discovered c out t task.document p) : listed? t' task = listed? t task := by
  obtain ⟨root, listed, view⟩ := place.shown
  refine listed?_congr fun content => ?_
  rw [place.source, read_absolute sound linkFree, read_absolute sound' linkFree']
  simp only [kept.files root listed p view place.owned (.file content _) rfl]

theorem settledReport_published (t : FileTree) (r : Report) (tasks : List Task) :
    (settledReport t r tasks).published = r.published := by
  induction tasks generalizing r with
  | nil => rfl
  | cons task rest ih =>
    rw [settledReport, ih]
    cases listed? t task <;> rfl

theorem siteFile_generated (out : Location) (project : Project) (nav : Navigation) {f : Text × Text}
    (member : f ∈ assetFiles ++ indexFiles project nav) : Generated out (out ++ [f.1]) := by
  refine Or.inr ⟨List.prefix_append out _, fun s extension => ?_⟩
  have suffixes : ∀ n ∈ (assetFiles ++ indexFiles project nav).map (·.1),
      ((Path.splitExtension n).2.all generatedSuffixes.contains) = true := by
    rw [siteFiles_names]
    decide
  have suffix := suffixes f.1 (List.mem_map_of_mem member)
  rw [Path.extension?, Path.fileName?_concat, Option.bind_some] at extension
  rw [extension] at suffix
  exact List.contains_iff_mem.mp suffix

theorem build_settled {t : FileTree} {c : Config} {sets : List GroupDocuments}
    (made : t.makeDirectories c.outputRoot = (t, .ok ())) (found : discover t c = .ok sets)
    (fresh : ∀ task ∈ tasksOf sets, (listed? t task).isSome →
      isStale t c.force task.document = false) :
    build t c =
      let report := settledReport t ⟨[], 0, [], .initial c.groups⟩ (tasksOf sets)
      (t, .ok { report with index := report.index.finish }) := by
  have worked := buildTasks_settled c (referencesOf sets) (tasksOf sets) fresh
    ⟨[], 0, [], .initial c.groups⟩
  simp only [build, made, found, buildSets_eq, worked]

theorem Report.Agrees.settled {r s : Report} (agrees : r.Agrees s) (none : s.published = []) :
    s = ⟨[], r.published.length + r.fresh, r.unreadable, r.index⟩ := by
  obtain ⟨published, fresh, unreadable, index⟩ := s
  obtain ⟨same_index, same_unreadable, count⟩ := agrees
  simp only at none same_index same_unreadable count
  subst none
  rw [List.length_nil, Nat.zero_add] at count
  rw [count, same_index, same_unreadable]

section Again
variable {c : Config} {out : Location} (output : c.outputRoot = Path.absolute out)
  (hides : HidesOutput c) {t₀ : FileTree} (sound : t₀.Sound) (linkFree : t₀.LinkFree)
  {sets : List GroupDocuments} (found : discover t₀ c = .ok sets)

include output hides sound linkFree found

omit hides in
theorem grown_run {t₁ : FileTree} {r r' : Report}
    (worked : buildTasks c (referencesOf sets) t₀ r (tasksOf sets) = (t₁, .ok r')) :
    Grown (Generated out) t₀ t₁ := by
  have placed := tasks_placed sound linkFree output found
  have pages := grown_buildTasks c (referencesOf sets) (tasksOf sets) placed sound linkFree r
  rw [worked] at pages
  exact pages.mono fun loc => written_generated placed

omit found in
theorem generated_kept {t₁ : FileTree} (grown : Grown (Generated out) t₀ t₁) :
    SourcesKept c t₀ t₁ :=
  .of_grown sound linkFree grown fun _ listed _ view owned =>
    generated_hidden output hides listed view owned

/-- A build of what a build has left finds every document fresh, if all that was written since is
generated too. -/
theorem second_build (relaxed : c.force = false) {t₁ t₃ : FileTree} {r : Report}
    (worked : buildTasks c (referencesOf sets) t₀ ⟨[], 0, [], .initial c.groups⟩ (tasksOf sets) =
      (t₁, .ok r))
    (in_time : ∀ task ∈ tasksOf sets, InTime t₁ task.document)
    (site : Grown (Generated out) t₁ t₃) (later : Nat)
    (made : { t₃ with now := later }.makeDirectories c.outputRoot =
      ({ t₃ with now := later }, .ok ())) :
    build { t₃ with now := later } c = ({ t₃ with now := later },
      .ok ⟨[], r.published.length + r.fresh, r.unreadable, r.index.finish⟩) := by
  have placed := tasks_placed sound linkFree output found
  have sources := sources_unwritten output hides sound linkFree found
  have pages := grown_run output sound linkFree found worked
  have run := pages.trans site
  have sound' : { t₃ with now := later }.Sound := run.sound.later later
  have linkFree' : { t₃ with now := later }.LinkFree := run.linkFree.later later
  have kept : SourcesKept c t₀ { t₃ with now := later } :=
    (generated_kept output hides sound linkFree run).trans (.later c run.sound run.linkFree later)
  obtain ⟨sets', found', tasks, _⟩ :=
    discover_kept output sound linkFree sound' linkFree' kept found
  have same : ∀ task ∈ tasksOf sets, listed? { t₃ with now := later } task = listed? t₀ task := by
    intro task member
    obtain ⟨p, place⟩ := tasks_discovered sound linkFree output found member
    exact listed?_kept sound linkFree sound' linkFree' kept place
  have dated := buildTasks_dated c relaxed (referencesOf sets) (tasksOf sets) placed sources sound
    linkFree (fun task member => (inTime_grown pages).mp (in_time task member)) worked
  have fresh : ∀ task ∈ tasksOf sets', (listed? { t₃ with now := later } task).isSome →
      isStale { t₃ with now := later } c.force task.document = false := by
    rw [tasks]
    intro task member known
    rw [same task member] at known
    rw [relaxed, not_stale_iff sound' linkFree' (placed task member)]
    exact ((dated task member known).grown (in_time task member) site).later later
      (placed task member)
  have agrees := buildTasks_agrees c (referencesOf sets) (tasksOf sets) placed sound linkFree
    sources ⟨rfl, rfl, rfl⟩ worked
  rw [build_settled made found' fresh, tasks, settledReport_congr _ same,
    agrees.settled (settledReport_published t₀ _ _)]

end Again

/-- A run on what a run has left writes nothing: every document is fresh, the files beside the pages
are not written, and the report is the same but for what was written. -/
theorem second_run_writes_nothing {t t₁ t₂ t₃ : FileTree} {cwd : Location} {file : Option Text}
    {settings : Settings} {c : Config} {sets : List GroupDocuments} {report : Report}
    {assets_written index_written : Nat} (later : Nat)
    (resolved : Config.resolve t cwd file settings = .ok c)
    (sound : t.Sound) (linkFree : t.LinkFree) (named : t.Named) (there : t.DirectoryAt cwd)
    (relaxed : c.force = false) (down : Component.parent ∉ c.outputRoot) (hides : HidesOutput c)
    (built : build t c = (t₁, .ok report)) (found : discover t₁ c = .ok sets)
    (in_time : ∀ task ∈ tasksOf sets, InTime t₁ task.document)
    (assets : publishAssets t₁ c.outputSpelling = (t₂, .ok assets_written))
    (index : publishIndex t₂ c.outputSpelling c.project report.index = (t₃, .ok index_written)) :
    let again : FileTree := { t₃ with now := later }
    build again c = (again,
        .ok ⟨[], report.published.length + report.fresh, report.unreadable, report.index⟩) ∧
      publishAssets again c.outputSpelling = (again, .ok 0) ∧
      publishIndex again c.outputSpelling c.project report.index = (again, .ok 0) := by
  intro again
  obtain ⟨out, output, spelling, valid⟩ := Config.resolve_named resolved down sound named there
  rw [spelling] at assets index ⊢
  obtain ⟨t₀, sets₀, r₀, made, found₀, worked, rfl⟩ := build_ok built
  have grown := grown_makeDirectories (fun _ => False) c.outputRoot sound linkFree
  rw [made] at grown
  -- the first run writes generated files only, so that the same documents are found after it
  have pages := grown_run output grown.sound grown.linkFree found₀ worked
  obtain ⟨sets', found', tasks, _⟩ :=
    discover_kept output grown.sound grown.linkFree pages.sound pages.linkFree
      (generated_kept output hides grown.sound grown.linkFree pages) found₀
  cases found.symm.trans found'
  rw [tasks] at in_time
  obtain ⟨site, held⟩ := publish_spec valid pages.sound pages.linkFree assets index
  have beside : Grown (Generated out) t₁ t₃ := by
    refine site.mono ?_
    rintro loc ⟨f, member, rfl⟩
    exact siteFile_generated out c.project _ member
  have made' : again.makeDirectories c.outputRoot = (again, .ok ()) := by
    rw [output] at made ⊢
    obtain ⟨addressable, directory⟩ := makeDirectories_ok sound linkFree made
    exact makeDirectories_existing (beside.sound.later later) addressable
      (((pages.trans beside).directory directory).later later)
  -- the files beside the pages hold their contents, whatever time it is now
  have held' : ∀ f ∈ assetFiles ++ indexFiles c.project r₀.index.finish,
      holds again (Path.absolute (out ++ [f.1])).spell (Text.Utf8.encode f.2) = true := by
    intro f member
    exact holds_later later (valid_concat valid (siteFiles_named _ _ f member)) (by simp)
      beside.sound beside.linkFree (held f member)
  have file_named := siteFiles_named c.project r₀.index.finish
  refine ⟨?_, ?_, ?_⟩
  · exact second_build output hides grown.sound grown.linkFree found₀ relaxed worked in_time beside
      later made'
  · exact writeAll_held valid assetFiles (fun f h => file_named f (List.mem_append_left _ h))
      (fun f h => held' f (List.mem_append_left _ h)) 0
  · exact writeAll_held valid (indexFiles c.project r₀.index.finish)
      (fun f h => file_named f (List.mem_append_right _ h))
      (fun f h => held' f (List.mem_append_right _ h)) 0

def smallFirst : FileTree := (build smallTree smallConfig).1

def smallReport : Report := (build smallTree smallConfig).2.toOption.getD ⟨[], 0, [], []⟩

def smallSecond : FileTree := (publishAssets smallFirst smallConfig.outputSpelling).1

def smallThird : FileTree :=
  (publishIndex smallSecond smallConfig.outputSpelling smallConfig.project smallReport.index).1

theorem second_run_writes_nothing_small :
    build { smallThird with now := 9 } smallConfig =
      ({ smallThird with now := 9 }, .ok ⟨[], 2, [], smallReport.index⟩) := by
  have built : build smallTree smallConfig = (smallFirst, .ok smallReport) :=
    Prod.ext rfl (ok_of_isOk _ (by decide +kernel))
  have assets : publishAssets smallFirst smallConfig.outputSpelling = (smallSecond, .ok _) :=
    Prod.ext rfl (ok_of_isOk 0 (by decide +kernel))
  have index : publishIndex smallSecond smallConfig.outputSpelling smallConfig.project
      smallReport.index = (smallThird, .ok _) :=
    Prod.ext rfl (ok_of_isOk 0 (by decide +kernel))
  have hides : HidesOutput smallConfig := ⟨by decide, by decide⟩
  have named : smallTree.Named := named_of_entries (by decide)
  have found : discover smallFirst smallConfig = .ok _ := ok_of_isOk [] (by decide +kernel)
  have times : ∀ task ∈ tasksOf ((discover smallFirst smallConfig).toOption.getD []),
      task.document.modified ≤ smallFirst.now := by decide +kernel
  have written : ∀ task ∈ tasksOf ((discover smallFirst smallConfig).toOption.getD []),
      (smallFirst.get? task.document.output.names).bind Entry.modified? = some smallFirst.now := by
    decide +kernel
  have in_time : ∀ task ∈ tasksOf ((discover smallFirst smallConfig).toOption.getD []),
      InTime smallFirst task.document := by
    intro task member
    refine ⟨times task member, fun m here => ?_⟩
    have same := written task member
    rw [here] at same
    cases same
    exact times task member
  have counts : smallReport.published.length + smallReport.fresh = 2 := by decide +kernel
  have unreadable : smallReport.unreadable = [] := by decide +kernel
  have again := (second_run_writes_nothing 9 small_resolved smallTree_sound smallTree_linkFree named
    smallTree.root_directory rfl (by decide) hides built found in_time assets index).1
  rw [counts, unreadable] at again
  exact again

end PodSite.Site
