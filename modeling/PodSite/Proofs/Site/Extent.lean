import PodSite.Proofs.Site.Status

/-!
How far a build reaches, whether it succeeds or fails. It writes the places of documents only, and
makes directories above them only. A document that was up to date at the start is left alone; but if
a directory stands in the place of its page, and its source is newer than the present time, then a
new name in that directory makes the document stale. The build fails at it, after its copy is
written.
-/
namespace PodSite

namespace FileTree

theorem Grown.keeps {files : Location → Prop} {t t' : FileTree} (grown : Grown files t t') :
    Keeps t t' := by
  refine ⟨grown.sound, fun {loc old} found => ?_⟩
  rcases grown.kept found with same | ⟨directory, there⟩ | ⟨_, ⟨content, m, rfl⟩, new, there⟩
  · exact ⟨old, same, Or.inl rfl⟩
  · exact ⟨_, there, Or.inr (Or.inl ⟨directory, rfl⟩)⟩
  · exact ⟨_, there, Or.inr (Or.inr ⟨rfl, rfl⟩)⟩

/-- A tree grows by files at some of the given places, and by directories above them. -/
structure Extended (places : Location → Prop) (t t' : FileTree) : Prop extends
    Grown places t t' where
  around : ∀ {x : Location}, t'.DirectoryAt x →
    t.DirectoryAt x ∨ ∃ y, places y ∧ x <+: y ∧ x ≠ y

namespace Extended
variable {places more : Location → Prop} {t t' t'' : FileTree}

theorem refl (sound : t.Sound) (linkFree : t.LinkFree) (places : Location → Prop) :
    Extended places t t :=
  ⟨.refl sound linkFree places, Or.inl⟩

theorem trans (first : Extended places t t') (second : Extended places t' t'') :
    Extended places t t'' := by
  refine ⟨first.toGrown.trans second.toGrown, fun there => ?_⟩
  rcases second.around there with before | above
  · exact first.around before
  · exact Or.inr above

theorem mono (extended : Extended places t t') (wider : ∀ x, places x → more x) :
    Extended more t t' := by
  refine ⟨extended.toGrown.mono wider, fun there => ?_⟩
  refine (extended.around there).imp_right ?_
  rintro ⟨y, place, above⟩
  exact ⟨y, wider y place, above⟩

end Extended

section Writing
variable {t : FileTree} (sound : t.Sound) (linkFree : t.LinkFree)
include sound linkFree

theorem extended_write (p : Path) (content : Bytes) :
    Extended (· = p.leadFrom []) t (t.write p content).1 := by
  unfold write
  cases place : t.locateNew [] p with
  | error cause => exact .refl sound linkFree _
  | ok loc =>
    obtain rfl := locateNew_lead linkFree place
    obtain ⟨_, _, follows⟩ := locateNew_eq_ok.mp place
    dsimp only
    split
    · exact .refl sound linkFree _
    · split <;> exact .refl sound linkFree _
    · rename_i noDirectory readable
      have below : p.leadFrom [] ≠ [] := by
        intro top
        rw [top] at noDirectory
        exact noDirectory t.now (by simp [get?])
      have old : t.DirectoryAt (p.leadFrom []).dropLast ∧ (t.get? (p.leadFrom []) = none ∨
          ∃ old m, t.get? (p.leadFrom []) = some (.file old m)) := by
        rcases follow_ends sound t.root_directory follows with ⟨e, here, plain⟩ | ⟨_, none, house⟩
        · refine ⟨?_, Or.inr ?_⟩
          · have there := here
            rw [← List.dropLast_concat_getLast below] at there
            exact sound.housed there
          · cases e with
            | file content m => exact ⟨content, m, here⟩
            | directory m => exact absurd here (noDirectory m)
            | unreadable m => exact absurd here (readable m)
            | link target => cases plain
        · exact ⟨house, Or.inl none⟩
      refine ⟨grown_add sound linkFree below old.1 (Or.inr ⟨rfl, ⟨content, rfl⟩, old.2⟩), ?_⟩
      rintro x ⟨m, there⟩
      refine Or.inl ?_
      by_cases here : x = p.leadFrom []
      · rw [here, get?_add_self t _ below] at there
        cases there
      · rcases get?_add_of_ne t (.file content t.now) below here with same | ⟨_, directory, _⟩
        · exact ⟨m, same.symm.trans there⟩
        · exact directory

variable {root : Path} (opens : t.Opens [] root) {names : List Text}
include opens

theorem extended_makeDirectories (some : names ≠ []) :
    Extended (· = root.leadFrom [] ++ names) t
      (t.makeDirectories (root ++ Path.ofNames names.dropLast)).1 := by
  refine ⟨grown_makeDirectories _ _ sound linkFree, fun {x} there => ?_⟩
  rcases (furnished_through linkFree opens names.dropLast).entries x with same | ⟨above, _⟩
  · obtain ⟨m, there⟩ := there
    exact Or.inl ⟨m, same.symm.trans there⟩
  · refine Or.inr ⟨_, rfl, above.trans ?_, ?_⟩
    · exact (List.prefix_append_right_inj _).mpr (List.dropLast_prefix names)
    · rintro rfl
      have short := above.length_le
      have more := List.length_pos_iff.mpr some
      simp only [List.length_append, List.length_dropLast] at short
      omega

end Writing
end FileTree

namespace Site
open FileTree

section Steps
variable {t : FileTree} (sound : t.Sound) (linkFree : t.LinkFree)
include sound linkFree

theorem extended_writeFile {root : Path} (opens : t.Opens [] root) {names : List Text}
    (some : names ≠ []) (content : Bytes) :
    Extended (· = root.leadFrom [] ++ names) t
      (writeFile t (root ++ Path.ofNames names) content).1 := by
  have house : (root ++ Path.ofNames names).dropLast = root ++ Path.ofNames names.dropLast := by
    rw [Path.ofNames_concat some, ← List.append_assoc, List.dropLast_concat]
  have made := extended_makeDirectories sound linkFree opens some
  unfold writeFile
  rw [house]
  rcases dirs : t.makeDirectories (root ++ Path.ofNames names.dropLast) with ⟨t₁, cause | u⟩
  · rw [dirs] at made
    exact made
  · rw [dirs] at made
    have written := extended_write made.sound made.linkFree (root ++ Path.ofNames names) content
    rw [Path.leadFrom_append, Path.leadFrom_ofNames] at written
    simp only
    rcases page : t₁.write (root ++ Path.ofNames names) content with ⟨t₂, cause | u⟩
    · rw [page] at written
      exact made.trans written
    · rw [page] at written
      exact made.trans written

variable {c : Config} {task : Task} (opens : t.Opens [] c.outputRoot)
  (laid : task.document.Laid c.outputRoot)
include opens laid

theorem extended_publishCopy :
    Extended (· ∈ task.document.places) t (publishCopy t task.document).1 := by
  unfold publishCopy
  split
  · rename_i shared
    split
    · exact .refl sound linkFree _
    · rename_i content _
      have place := Document.copy_mem_places shared
      rw [laid.copy_lead] at place
      rw [laid.copy]
      refine (extended_writeFile sound linkFree opens (by simp) content).mono ?_
      rintro _ rfl
      exact place
  · exact .refl sound linkFree _

theorem extended_page (content : Bytes) :
    Extended (· ∈ task.document.places) t (writeFile t task.document.output content).1 := by
  have place := task.document.output_mem_places
  rw [laid.output_lead] at place
  rw [laid.page]
  refine (extended_writeFile sound linkFree opens laid.pagePlace_ne_nil content).mono ?_
  rintro _ rfl
  exact place

theorem extended_buildDocument (references : References) :
    Extended (· ∈ task.document.places) t
      (buildDocument t c references task.group task.document).1 := by
  have copied := extended_publishCopy sound linkFree opens laid
  unfold buildDocument
  split
  · unfold buildBinary
    split
    · split
      · rename_i done
        rwa [done] at copied
      · rename_i done
        rwa [done] at copied
    · exact .refl sound linkFree _
  · unfold buildPage
    split
    · exact .refl sound linkFree _
    · rename_i content _
      dsimp only
      split
      · split
        · rename_i done
          rwa [done] at copied
        · rename_i middle _ done
          rw [done] at copied
          have still := opens.later fun x (there : t.DirectoryAt x) => copied.directory there
          have page := extended_page copied.sound copied.linkFree still laid
            (pageBytes c references task content)
          rw [pageBytes] at page
          split
          · rename_i written
            rw [written] at page
            exact copied.trans page
          · rename_i written
            rw [written] at page
            exact copied.trans page
      · exact .refl sound linkFree _

theorem directory_blocks {references : References} {t' : FileTree}
    (there : t.DirectoryAt (task.document.output.leadFrom [])) :
    ¬ Publishes c references task t t' := by
  rw [laid.output_lead] at there
  have free : ∀ {t t' : FileTree} {content : Bytes}, t.LinkFree → t.Opens [] c.outputRoot →
      t.DirectoryAt (c.outputRoot.leadFrom [] ++ task.document.pagePlace) →
      writeFile t task.document.output content ≠ (t', .ok ()) := by
    intro t t' content linkFree opens there done
    rw [laid.page] at done
    exact (wrote_below linkFree opens laid.pagePlace_ne_nil done).free there
  unfold Publishes
  split
  · rename_i binary
    intro done
    unfold publishCopy at done
    rw [if_pos (laid.shared binary)] at done
    split at done
    · cases done
    · rw [← show task.document.output = task.document.copy by rw [laid.output, if_pos binary]]
        at done
      exact free linkFree opens there done
  · rintro ⟨content, middle, _, done, written⟩
    have copied := extended_publishCopy sound linkFree opens laid
    rw [done] at copied
    exact free copied.linkFree (opens.later fun x there => copied.directory there)
      (copied.directory there) written

/-- A document that is not left as it is was stale when its turn came; and it fails if a directory
stands in the place of its page. -/
theorem buildDocument_extends (references : References) :
    ((buildDocument t c references task.group task.document).1 = t ∧
        ∀ e, (buildDocument t c references task.group task.document).2 ≠ .failed e) ∨
      (isStale t c.force task.document = true ∧
        (t.DirectoryAt (task.document.output.leadFrom []) →
          ∃ e, (buildDocument t c references task.group task.document).2 = .failed e)) := by
  rcases buildDocument_cases c references t task with
    ⟨_, here⟩ | ⟨d, _, _, here⟩ | ⟨d, t₁, _, stale, publishes, here⟩ | ⟨_, stale, failed⟩
  · exact Or.inl ⟨by rw [here], by simp [here]⟩
  · exact Or.inl ⟨by rw [here], by simp [here]⟩
  · refine Or.inr ⟨stale, fun there => ?_⟩
    exact absurd publishes (directory_blocks sound linkFree opens laid there)
  · exact Or.inr ⟨stale, fun _ => failed⟩

end Steps

section Overtaking
variable {s t : FileTree} (sound : s.Sound) (linkFree : s.LinkFree) {root : Path}
  (opens : s.Opens [] root) {d : Document} (laid : d.Laid root)
include sound linkFree opens laid

/-- Nobody else writes the page of a document. So if the document gets stale, a directory stands in
its place that has a new name in it. -/
theorem directory_of_stale {prior : Location → Prop} (extended : Extended prior s t)
    (away : ¬ prior (d.output.leadFrom [])) {force : Bool} (fresh : isStale s force d = false)
    (stale : isStale t force d = true) :
    s.DirectoryAt (d.output.leadFrom []) ∧ s.now < d.modified := by
  obtain ⟨e, there, _⟩ := entryAt_of_fresh fresh
  obtain ⟨loc, place, here⟩ := entryAt_eq_ok.mp there
  obtain rfl := locate_lead linkFree place
  have opens' := opens.later fun x (there : s.DirectoryAt x) => extended.directory there
  rcases extended.kept here with same | ⟨directory, stamped⟩ | ⟨written, _⟩
  · rw [laid.output_lead] at same here
    unfold isStale at fresh stale
    rw [laid.page] at fresh stale
    rw [modified?_through laid.pagePlace_ne_nil opens opens' sound linkFree extended.sound
      extended.linkFree (same.trans here.symm), fresh] at stale
    cases stale
  -- the path still leads to the directory, which has the present time now
  · refine ⟨?_, ?_⟩
    · cases e with
      | directory m => exact ⟨m, here⟩
      | _ => cases directory
    · have entry := entryAt_eq_ok.mpr ⟨_, locate_keeps extended.keeps place, stamped⟩
      simp only [isStale, Bool.or_eq_false_iff] at fresh
      simpa [isStale, fresh.1, FileTree.modified?, entry, Entry.modified?] using stale
  · exact absurd written away

end Overtaking

/-- A document that a build may write: one that is stale, or one with a directory in the place of
its page and a source that is newer than the present time, at which the build fails. -/
def Due (t : FileTree) (force failed : Bool) (d : Document) : Prop :=
  isStale t force d = true ∨
    (t.DirectoryAt (d.output.leadFrom []) ∧ t.now < d.modified ∧ failed = true)

def DuePlace (t : FileTree) (force failed : Bool) (tasks : List Task) (loc : Location) : Prop :=
  ∃ task ∈ tasks, loc ∈ task.document.places ∧ Due t force failed task.document

/-- No document is written in the place of another. -/
def Separate (x y : Task) : Prop := ∀ loc ∈ x.document.places, loc ∉ y.document.places

section Runs
variable {s t : FileTree} {c : Config}

/-- From any stage of a build on, only documents are written that were due at the start. -/
theorem buildTasks_extended (sound : s.Sound) (linkFree : s.LinkFree)
    (opens : s.Opens [] c.outputRoot) (tasks : List Task)
    (laid : ∀ x ∈ tasks, x.document.Laid c.outputRoot) (apart : tasks.Pairwise Separate)
    {prior : Location → Prop} (extended : Extended prior s t)
    (away : ∀ x ∈ tasks, ∀ loc ∈ x.document.places, ¬ prior loc) (references : References)
    (r : Report) :
    Extended
      (fun loc => prior loc ∨
        DuePlace s c.force (!(buildTasks c references t r tasks).2.isOk) tasks loc)
      s (buildTasks c references t r tasks).1 := by
  induction tasks generalizing t prior r with
  | nil => exact extended.mono fun _ => Or.inl
  | cons task rest ih =>
    obtain ⟨laid_here, laid_later⟩ := List.forall_mem_cons.mp laid
    obtain ⟨apart_here, apart_later⟩ := List.pairwise_cons.mp apart
    obtain ⟨away_here, away_later⟩ := List.forall_mem_cons.mp away
    have opens' := opens.later fun x (there : s.DirectoryAt x) => extended.directory there
    have step :=
      extended_buildDocument extended.sound extended.linkFree opens' laid_here references
    have why :=
      buildDocument_extends extended.sound extended.linkFree opens' laid_here references
    -- what makes the document stale at its turn, if it was not so at the start
    have overtaken : isStale s c.force task.document = false →
        isStale t c.force task.document = true → _ :=
      directory_of_stale sound linkFree opens laid_here extended
        (away_here _ task.document.output_mem_places)
    rw [buildTasks]
    split
    · rename_i t₁ e now
      rw [now] at step why
      have stale : isStale t c.force task.document = true := by
        rcases why with ⟨_, notFailed⟩ | ⟨stale, _⟩
        · exact absurd rfl (notFailed e)
        · exact stale
      refine (extended.mono fun _ => Or.inl).trans (step.mono fun loc place => Or.inr ?_)
      refine ⟨task, List.mem_cons_self, place, ?_⟩
      cases before : isStale s c.force task.document with
      | true => exact Or.inl before
      | false =>
        obtain ⟨there, future⟩ := overtaken before stale
        exact Or.inr ⟨there, future, rfl⟩
    · rename_i t₁ outcome notFailed now
      rw [now] at step why
      rcases why with ⟨rfl, _⟩ | ⟨stale, blocked⟩
      · refine (ih laid_later apart_later extended away_later _).mono ?_
        rintro loc (before | ⟨x, member, due⟩)
        · exact Or.inl before
        · exact Or.inr ⟨x, List.mem_cons_of_mem task member, due⟩
      · cases before : isStale s c.force task.document with
        | true =>
          have both : Extended (fun loc => prior loc ∨ loc ∈ task.document.places) s t₁ :=
            (extended.mono fun _ => Or.inl).trans (step.mono fun _ => Or.inr)
          refine (ih laid_later apart_later both (fun x member loc place => ?_) _).mono ?_
          · rintro (earlier | own)
            · exact away_later x member loc place earlier
            · exact apart_here x member loc own place
          · rintro loc ((earlier | own) | ⟨x, member, due⟩)
            · exact Or.inl earlier
            · exact Or.inr ⟨task, List.mem_cons_self, own, Or.inl before⟩
            · exact Or.inr ⟨x, List.mem_cons_of_mem task member, due⟩
        | false =>
          -- it got stale on the way, so a directory is in its place and its build would have failed
          obtain ⟨there, _⟩ := overtaken before stale
          obtain ⟨e, failed⟩ := blocked (extended.directory there)
          exact absurd failed (notFailed e)

end Runs

def tasksFound (t : FileTree) (c : Config) : List Task :=
  tasksOf ((discoveredBy t c).toOption.getD [])

section Builds
variable {t start final : FileTree} {c : Config}

theorem places_eq (d : Document) : d.places = d.written.map (Path.leadFrom []) := by
  unfold Document.places Document.written
  split <;> rfl

theorem written_below {root : Path} {d : Document} (laid : d.Laid root) {p : Path}
    (member : p ∈ d.written) : ∃ names, p = root ++ Path.ofNames names := by
  unfold Document.written at member
  split at member
  · rcases List.mem_cons.mp member with rfl | member
    · exact ⟨_, laid.copy⟩
    · exact ⟨_, List.mem_singleton.mp member ▸ laid.page⟩
  · exact ⟨_, List.mem_singleton.mp member ▸ laid.page⟩

theorem separate_of_written {root : Path} {x y : Task} (laid : x.document.Laid root)
    (laid' : y.document.Laid root)
    (apart : ∀ p ∈ x.document.written, p ∉ y.document.written) : Separate x y := by
  intro loc place place'
  rw [places_eq] at place place'
  obtain ⟨p, member, rfl⟩ := List.mem_map.mp place
  obtain ⟨q, member', same⟩ := List.mem_map.mp place'
  obtain ⟨names, rfl⟩ := written_below laid member
  obtain ⟨names', rfl⟩ := written_below laid' member'
  rw [Path.leadFrom_append, Path.leadFrom_append, Path.leadFrom_ofNames, Path.leadFrom_ofNames,
    List.append_cancel_left_eq] at same
  exact apart _ member (same ▸ member')

theorem Due.before (sound : t.Sound) (linkFree : t.LinkFree)
    (made : t.makeDirectories c.outputRoot = (start, .ok ())) {d : Document}
    (laid : d.Laid c.outputRoot) {failed : Bool} (due : Due start c.force failed d) :
    Due t c.force failed d := by
  cases stale : isStale t c.force d with
  | true => exact Or.inl stale
  | false =>
    obtain rfl := made_of_fresh sound linkFree made laid stale
    exact due

/-- How a tree may differ from what it was before a build: files at the places that were due, and
directories on the way to the output root or above those places. -/
structure Reached (c : Config) (due : Location → Prop) (t final : FileTree) : Prop where
  written : ∀ loc e, final.get? loc = some e → e.isFile = true → t.get? loc = some e ∨ due loc
  kept : ∀ loc e, t.get? loc = some e → e.isFile = true →
    ∃ e', final.get? loc = some e' ∧ e'.isFile = true
  made : ∀ loc, final.DirectoryAt loc → t.DirectoryAt loc ∨
    loc ∈ Path.stops [] c.outputRoot ∨ ∃ place, due place ∧ loc <+: place ∧ loc ≠ place

theorem reached_of_stages {due : Location → Prop} (sound : t.Sound) (linkFree : t.LinkFree)
    (extended : Extended due (t.makeDirectories c.outputRoot).1 final) : Reached c due t final := by
  have grown := grown_makeDirectories (fun _ => False) c.outputRoot sound linkFree
  have frame := furnished_makeDirectories linkFree c.outputRoot
  refine ⟨fun loc e here file => ?_, fun loc e here file => ?_, fun loc there => ?_⟩
  · rcases extended.new here with before | rfl | ⟨place, _⟩
    · exact Or.inl ((grown.file_iff not_false file).mp before)
    · cases file
    · exact Or.inr place
  · obtain ⟨new, there, stays⟩ :=
      extended.keeps.stays ((grown.file_iff not_false file).mpr here)
    exact ⟨new, there, stays.file file⟩
  · rcases extended.around there with before | above
    · rcases frame.entries loc with same | ⟨stop, _⟩
      · obtain ⟨m, before⟩ := before
        exact Or.inl ⟨m, same.symm.trans before⟩
      · exact Or.inr (Or.inl stop)
    · exact Or.inr (Or.inr above)

end Builds

/-- If no two documents are written at the same path, a build writes only files of documents that
were stale at the start, removes none, and makes only directories on the way to the output root and
to those files, whether it succeeds or fails. Only a build that fails may have written the copy of a
document that was not stale, if a directory stood in the place of its page and its source was newer
than the present time. -/
theorem build_reaches {t : FileTree} (sound : t.Sound) (linkFree : t.LinkFree) (c : Config)
    (apart : (tasksFound t c).Pairwise fun x y =>
      ∀ p ∈ x.document.written, p ∉ y.document.written) :
    Reached c (DuePlace t c.force (!(build t c).2.isOk) (tasksFound t c)) t (build t c).1 := by
  refine reached_of_stages sound linkFree ?_
  have grown := grown_makeDirectories (fun _ => False) c.outputRoot sound linkFree
  have idle := fun due => Extended.refl grown.sound grown.linkFree due
  unfold tasksFound discoveredBy at apart ⊢
  unfold build
  rcases made : t.makeDirectories c.outputRoot with ⟨start, cause | u⟩
  · rw [made] at idle
    exact idle _
  rw [made] at grown idle apart
  dsimp only at grown idle apart
  cases found : discover start c with
  | error e =>
    simp only [found]
    exact idle _
  | ok sets =>
    have tasks : tasksOf ((discover start c).toOption.getD []) = tasksOf sets := by rw [found]; rfl
    rw [tasks] at apart
    have laid : ∀ x ∈ tasksOf sets, x.document.Laid c.outputRoot := by
      intro x member
      obtain ⟨_, _, laid, _⟩ := tasks_laid grown.sound grown.linkFree found member
      exact laid
    have separate : (tasksOf sets).Pairwise Separate :=
      apart.imp_of_mem fun x y apart => separate_of_written (laid _ x) (laid _ y) apart
    have opens := opens_of_made sound linkFree made
    have worked := buildTasks_extended grown.sound grown.linkFree opens (tasksOf sets) laid separate
      (idle fun _ => False) (by simp) (referencesOf sets) ⟨[], 0, [], .initial c.groups⟩
    have early : ∀ failed loc, False ∨ DuePlace start c.force failed (tasksOf sets) loc →
        DuePlace t c.force failed (tasksOf sets) loc := by
      rintro failed loc (never | ⟨x, member, place, due⟩)
      · exact never.elim
      · exact ⟨x, member, place, due.before sound linkFree made (laid x member)⟩
    simp only [found, buildSets_eq]
    rcases ended : buildTasks c (referencesOf sets) start ⟨[], 0, [], .initial c.groups⟩
      (tasksOf sets) with ⟨final, e | r⟩
    · rw [ended] at worked
      exact worked.mono (early _)
    · rw [ended] at worked
      exact worked.mono (early _)

theorem build_reaches_pending :
    pendingTree.get? ["o".toList, "A.pm.html".toList] = none ∧
      ((build pendingTree smallConfig).1.get? ["o".toList, "A.pm.html".toList]).any Entry.isFile ∧
      Reached smallConfig (DuePlace pendingTree false false (tasksFound pendingTree smallConfig))
        pendingTree (build pendingTree smallConfig).1 := by
  have sound : pendingTree.Sound := sound_of_entries (by decide) (by decide)
  have linkFree : pendingTree.LinkFree := linkFree_of_entries (by decide)
  have apart : (tasksFound pendingTree smallConfig).Pairwise fun x y =>
      ∀ p ∈ x.document.written, p ∉ y.document.written := by decide +kernel
  have ok : (build pendingTree smallConfig).2.isOk = true := by decide +kernel
  have reached := build_reaches sound linkFree smallConfig apart
  rw [ok] at reached
  exact ⟨by decide, by decide +kernel, reached⟩

def shadowedTree : FileTree :=
  ⟨[ (["b".toList], .directory 0), (["b".toList, "A.pm.html".toList], .directory 0),
    (["b".toList, "A.pm.html".toList, "r.pl".toList], .file [65] 1), (["l".toList], .directory 0),
    (["l".toList, "A.pm".toList], .file [65] 8), (["o".toList], .directory 0),
    (["o".toList, "A.pm.html".toList], .directory 9)], 5⟩

def shadowedSettings : Settings :=
  { smallSettings with
    libraries := ["/b".toList, "/l".toList]
    groups := some [⟨"Scripts".toList, .scripts, ["pl".toList], .lines, none, none⟩,
      ⟨"Modules".toList, .modules, ["pm".toList], .lines, none, none⟩] }

def shadowedConfig : Config :=
  { smallConfig with
    libraryRoots := [["b".toList], ["l".toList]]
    groups := [⟨"Scripts".toList, .scripts, ["pl".toList], .lines, true, none⟩,
      ⟨"Modules".toList, .modules, ["pm".toList], .lines, true, none⟩] }

theorem build_writes_fresh_copy :
    shadowedTree.Sound ∧ shadowedTree.LinkFree ∧
      Config.resolve shadowedTree [] none shadowedSettings = .ok shadowedConfig ∧
      ((tasksFound shadowedTree shadowedConfig).Pairwise fun x y =>
        ∀ p ∈ x.document.written, p ∉ y.document.written) ∧
      ∃ loc, shadowedTree.get? loc = none ∧
        ((build shadowedTree shadowedConfig).1.get? loc).any Entry.isFile ∧
        ∀ task ∈ tasksFound shadowedTree shadowedConfig,
          loc ∈ task.document.places →
            isStale shadowedTree shadowedConfig.force task.document = false := by
  refine ⟨sound_of_entries (by decide) (by decide), linkFree_of_entries (by decide), rfl,
    by decide +kernel, ["o".toList, "src".toList, "A.pm".toList], by decide, by decide +kernel, ?_⟩
  decide +kernel

end Site
end PodSite
