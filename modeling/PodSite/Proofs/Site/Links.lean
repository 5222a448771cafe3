import PodSite.Proofs.Files.Linked
import PodSite.Proofs.Href
import PodSite.Proofs.Html.Hrefs
import PodSite.Proofs.Page.Hrefs
import PodSite.Proofs.Site.Membership

/-!
Where the links of a site lead. A link that is made from a module name leads to the place of that
module's page, and after a build a file stands there, unless the source of the module could not be
read or a directory has taken the place.
-/
namespace PodSite

theorem Document.pageNames_valid {names : List Text} (valid : ∀ n ∈ names, n.IsFileName) :
    ∀ n ∈ pageNames names, n.IsFileName := by
  intro n member
  unfold pageNames at member
  cases ends : names.getLast? with
  | none => simp [ends] at member
  | some last =>
    simp only [ends, List.mem_append, List.mem_singleton] at member
    rcases member with early | rfl
    · exact valid n (List.dropLast_subset names early)
    · obtain ⟨_, _, _, whole⟩ := valid last (List.mem_of_getLast? ends)
      have short : ∀ special : Text, special.length < 5 → last ++ ".html".toList ≠ special := by
        rintro special few rfl
        have longer : (last ++ ".html".toList).length = last.length + 5 := by simp
        omega
      refine ⟨short [] (by decide), short ['.'] (by decide), short ['.', '.'] (by decide), ?_⟩
      rw [List.mem_append, not_or]
      exact ⟨whole, by decide⟩

def Document.written (d : Document) : List Path :=
  if d.sharesSource then [d.copy, d.output] else [d.output]

theorem Document.output_mem_written (d : Document) : d.output ∈ d.written := by
  unfold written
  split <;> simp

namespace Site
open FileTree

section Tasks
variable {c : Config} {references : References} {t t' : FileTree} {task : Task}

theorem writeFile_linked (sound : t.Sound) {p : Path} {content : Bytes} {u : Unit}
    (done : writeFile t p content = (t', .ok u)) :
    ∃ loc e, t'.locate [] p = .ok loc ∧ t'.get? loc = some e ∧ e.isFile = true ∧
      Spared (· = loc) t t' := by
  have made := fun places => spared_makeDirectories sound places p.dropLast
  unfold writeFile at done
  match dirs : t.makeDirectories p.dropLast, made with
  | (t₁, .error cause), _ => simp [dirs] at done
  | (t₁, .ok _), made =>
    rw [dirs] at done
    simp only at done
    match written : t₁.write p content with
    | (t₂, .error cause) => simp [written] at done
    | (t₂, .ok _) =>
      simp only [written, Prod.mk.injEq] at done
      obtain ⟨rfl, _⟩ := done
      obtain ⟨loc, e, place, here, file, spared⟩ := write_linked (made (· = p.names)).sound written
      exact ⟨loc, e, place, here, file, (made _).trans spared⟩

def ReachedBy (t : FileTree) (paths : List Path) (loc : Location) : Prop :=
  ∃ p ∈ paths, t.locate [] p = .ok loc

theorem publishCopy_linked (sound : t.Sound) {d : Document} {u : Unit}
    (done : publishCopy t d = (t', .ok u)) : Spared (ReachedBy t' d.written) t t' := by
  unfold publishCopy at done
  split at done
  · rename_i shared
    split at done
    · cases done
    · obtain ⟨loc, _, place, _, _, spared⟩ := writeFile_linked sound done
      refine spared.mono ?_
      rintro _ rfl
      exact ⟨d.copy, by simp [Document.written, shared], place⟩
  · cases done
    exact .refl sound _

theorem publishes_linked (sound : t.Sound) (publishes : Publishes c references task t t') :
    Spared (ReachedBy t' task.document.written) t t' ∧ (task.document.kind.isBinary = false →
      ∃ e, t'.entryAt [] task.document.output = .ok e ∧ e.isFile = true) := by
  unfold Publishes at publishes
  split at publishes
  · rename_i binary
    exact ⟨publishCopy_linked sound publishes, fun page => by simp [binary] at page⟩
  · obtain ⟨source, middle, _, copied, written⟩ := publishes
    have first := publishCopy_linked sound copied
    obtain ⟨loc, e, place, here, file, later⟩ := writeFile_linked first.sound written
    have page : ∀ x, x = loc → ReachedBy t' task.document.written x := by
      rintro _ rfl
      exact ⟨task.document.output, task.document.output_mem_written, place⟩
    refine ⟨(first.mono ?_).trans (later.mono page), fun _ => ⟨e, ?_, file⟩⟩
    · rintro x ⟨p, member, leads⟩
      exact ⟨p, member, locate_keeps later.toKeeps leads⟩
    · exact entryAt_eq_ok.mpr ⟨loc, place, here⟩

theorem entryAt_of_fresh {force : Bool} {d : Document} (fresh : isStale t force d = false) :
    ∃ e, t.entryAt [] d.output = .ok e ∧ e.isLink = false := by
  simp only [isStale, Bool.or_eq_false_iff] at fresh
  obtain ⟨_, fresh⟩ := fresh
  unfold FileTree.modified? at fresh
  cases found : t.entryAt [] d.output with
  | error cause => simp [found] at fresh
  | ok e =>
    cases e with
    | link target => simp [found, Entry.modified?] at fresh
    | _ => exact ⟨_, rfl, rfl⟩

/-- The page of a document is accounted for: its source could not be read, or else a file stands in
the place of the page, or a directory that was there before it. -/
def Accounted (t : FileTree) (r : Report) (d : Document) : Prop :=
  d.source ∈ r.unreadable ∨
    ∃ e, t.entryAt [] d.output = .ok e ∧ (e.isFile = true ∨ e.isDirectory = true)

theorem accounted_of_entry {r : Report} {d : Document} {e : Entry}
    (found : t.entryAt [] d.output = .ok e) (plain : e.isLink = false) : Accounted t r d := by
  refine Or.inr ⟨e, found, ?_⟩
  cases e with
  | link target => cases plain
  | directory m => exact Or.inr rfl
  | _ => exact Or.inl rfl

theorem Accounted.later {r r' : Report} {d : Document} (accounted : Accounted t r d)
    (keeps : Keeps t t') (more : r.unreadable ⊆ r'.unreadable) : Accounted t' r' d := by
  rcases accounted with unreadable | ⟨e, found, kind⟩
  · exact Or.inl (more unreadable)
  · obtain ⟨new, there, stays⟩ := entryAt_keeps keeps found
    exact Or.inr ⟨new, there, kind.imp stays.file stays.directory⟩

theorem unreadable_subset_add (r : Report) (index : Nat) (d : Document) (outcome : Outcome) :
    r.unreadable ⊆ (r.add index d outcome).unreadable := by
  cases outcome with
  | unreadable => exact List.subset_append_left _ _
  | _ => exact List.Subset.refl _

theorem buildTasks_accounted (tasks : List Task) (sound : t.Sound) {r r' : Report}
    (worked : buildTasks c references t r tasks = (t', .ok r')) :
    Keeps t t' ∧ r.unreadable ⊆ r'.unreadable ∧
      ∀ task ∈ tasks, task.document.kind.isBinary = false → Accounted t' r' task.document := by
  induction tasks generalizing t r with
  | nil =>
    cases worked
    exact ⟨.refl sound, List.Subset.refl _, by simp⟩
  | cons task rest ih =>
    -- whatever became of the first document, the others leave it accounted for
    have step : ∀ {t₁ : FileTree} {outcome : Outcome}, Keeps t t₁ →
        (task.document.kind.isBinary = false →
          Accounted t₁ (r.add task.index task.document outcome) task.document) →
        buildTasks c references t₁ (r.add task.index task.document outcome) rest = (t', .ok r') →
        Keeps t t' ∧ r.unreadable ⊆ r'.unreadable ∧ ∀ x ∈ task :: rest,
          x.document.kind.isBinary = false → Accounted t' r' x.document := by
      intro t₁ outcome keeps accounted further
      obtain ⟨later, more, others⟩ := ih keeps.sound further
      refine ⟨keeps.trans later, List.Subset.trans (unreadable_subset_add r _ _ outcome) more, ?_⟩
      exact List.forall_mem_cons.mpr ⟨fun page => (accounted page).later later more, others⟩
    rcases buildTasks_cons_ok worked with
      ⟨_, further⟩ | ⟨d, _, fresh, further⟩ | ⟨d, t₁, _, _, publishes, further⟩
    · exact step (.refl sound) (fun _ => Or.inl (by simp [Report.add])) further
    · obtain ⟨e, found, plain⟩ := entryAt_of_fresh fresh
      exact step (.refl sound) (fun _ => accounted_of_entry found plain) further
    · obtain ⟨spared, written⟩ := publishes_linked sound publishes
      refine step spared.toKeeps (fun page => ?_) further
      obtain ⟨e, found, file⟩ := written page
      exact Or.inr ⟨e, found, Or.inl file⟩

end Tasks

section Pages
variable {t : FileTree} {c : Config} {sets : List GroupDocuments}

theorem tasks_named (named : t.Named) (found : discover t c = .ok sets) {task : Task}
    (member : task ∈ tasksOf sets) :
    task.document.Laid c.outputRoot ∧ task.document.kind = task.group.kind ∧
      ∀ n ∈ task.document.relative, n.IsFileName := by
  obtain ⟨set, listed, member⟩ := List.mem_flatMap.mp member
  obtain ⟨d, of_set, rfl⟩ := List.mem_map.mp member
  obtain ⟨root, _, _, f, walked, made⟩ := mem_discover found listed of_set
  obtain ⟨path, _, kind, _, laid, _⟩ := documentOf?_laid made
  obtain ⟨names, shown, valid⟩ := walk_named named walked
  rw [path] at shown
  exact ⟨laid, kind, List.append_cancel_left shown ▸ valid⟩

theorem follow_page {here target : Document} (laid : here.Laid c.outputRoot)
    (laid' : target.Laid c.outputRoot) (page : target.kind.isBinary = false)
    (valid : ∀ n ∈ target.relative, n.IsFileName) {tail : Text}
    (part : ∀ ch ∈ tail.head?, ch = '#') :
    Href.follow here.output (Href.relative here.output target.output ++ tail) = target.output := by
  have place : target.pagePlace = Document.pageNames target.relative := by
    rw [Document.pagePlace, if_neg (by simp [page])]
  rw [laid.page, laid'.page, place, ← List.dropLast_concat_getLast laid.pagePlace_ne_nil]
  exact Href.follow_relative _ (Document.pageNames_valid valid) part

/-- The references of a build, as the page of a document sees them. -/
def settingOf (sets : List GroupDocuments) (page : Task) : Inline.Setting :=
  ⟨referencesOf sets, page.document.output, page.document.name⟩

theorem module_of_hrefOf? {page : Task} {name href : Text}
    (known : (settingOf sets page).hrefOf? name = some href) :
    ∃ target ∈ tasksOf sets, target.group.kind = .modules ∧ target.document.name = name ∧
      href = Href.relative page.document.output target.document.output := by
  unfold Inline.Setting.hrefOf? at known
  split at known
  · cases known
  · obtain ⟨place, resolved, rfl⟩ := Option.map_eq_some_iff.mp known
    have entry : (referencesOf sets).entries.lookup name = some place := resolved
    obtain ⟨front, back, whole, _⟩ := List.lookup_eq_some_iff.mp entry
    have member : (name, place) ∈ (referencesOf sets).entries := by simp [whole]
    obtain ⟨target, listed, referable, same, rfl⟩ := mem_references.mp member
    have module : target.group.kind = .modules := by
      cases group : target.group.kind <;> simp [group, Kind.isReferable] at referable ⊢
    exact ⟨target, listed, module, same, rfl⟩

end Pages

def bodyOf (sets : List GroupDocuments) (page : Task) (source : Text) : List Html :=
  Page.bodyHtml (settingOf sets page) page.document.rootHref
    (Outline.ofSource page.group.placement source)

theorem write_body (f : Page.Frame) : ∃ front back, f.write = front ++ f.body ++ back :=
  ⟨_, _, List.append_assoc (_ ++ f.body) _ _⟩

/-- A link to a module, with or without a part of its page after it, leads to the place of the page,
and the page is accounted for. -/
def LeadsTo (sets : List GroupDocuments) (t : FileTree) (r : Report) (page : Task)
    (name href : Text) : Prop :=
  ∃ target ∈ tasksOf sets, target.group.kind = .modules ∧ target.document.name = name ∧
    (∀ tail : Text, (∀ c ∈ tail.head?, c = '#') →
      Href.follow page.document.output (href ++ tail) = target.document.output) ∧
    Accounted t r target.document

/-- Every link that a page of a build makes is an address, a part of the page itself or the link to
a module. After the build the link to a module leads to a file, unless the source of the module is
reported as unreadable or a directory has taken the place of its page. -/
theorem links_of_build {t final : FileTree} {c : Config} {sets : List GroupDocuments} {r : Report}
    (sound : t.Sound) (named : t.Named)
    (valid : ∀ n, Component.name n ∈ c.outputRoot → n.IsFileName)
    (found : discoveredBy t c = .ok sets) (done : build t c = (final, .ok r))
    {page : Task} (listed : page ∈ tasksOf sets) (source : Text) :
    (∃ front back, (Page.render page.group page.document (referencesOf sets) c.project source).2 =
        front ++ Html.write (bodyOf sets page source) ++ back) ∧
      (∀ value ∈ Html.hrefsOfAll (bodyOf sets page source), (settingOf sets page).Refers value) ∧
      ∀ name href, (settingOf sets page).hrefOf? name = some href →
        LeadsTo sets final r page name href := by
  refine ⟨write_body _, Page.bodyHtml_refers _ _, fun name href known => ?_⟩
  obtain ⟨t₀, sets', r₀, made, found', worked, rfl⟩ := build_ok done
  have keeps := (spared_makeDirectories sound (fun _ => False) c.outputRoot).toKeeps
  have named₀ : (t.makeDirectories c.outputRoot).1.Named :=
    named_makeDirectories sound named valid
  unfold discoveredBy at found
  rw [made] at found keeps named₀
  cases found'.symm.trans found
  obtain ⟨_, _, accounted⟩ := buildTasks_accounted (tasksOf sets) keeps.sound worked
  obtain ⟨target, listed', module, same, rfl⟩ := module_of_hrefOf? known
  obtain ⟨laid, _, _⟩ := tasks_named named₀ found listed
  obtain ⟨laid', kind, names⟩ := tasks_named named₀ found listed'
  have parsed : target.document.kind.isBinary = false := by
    rw [kind, module]
    rfl
  refine ⟨target, listed', module, same, fun tail part => ?_, accounted target listed' parsed⟩
  exact follow_page laid laid' parsed names part

def linkingSource : Text := "=pod\n\nL<B>".toList

def linkedTree : FileTree :=
  ⟨[ (["l".toList], .directory 0),
    (["l".toList, "A.pm".toList], .file (Text.Utf8.encode linkingSource) 1),
    (["m".toList], .directory 0), (["m".toList, "B.pm".toList], .link "../n/b".toList),
    (["n".toList], .directory 0), (["n".toList, "b".toList], .file [66] 1)], 5⟩

def linkedConfig : Config := { smallConfig with libraryRoots := [["l".toList], ["m".toList]] }

def linkedSets : List GroupDocuments := (discoveredBy linkedTree linkedConfig).toOption.getD []

theorem bodyOf_flat {sets : List GroupDocuments} {page : Task} {source : Text}
    (flat : (Outline.ofSource page.group.placement source).children.isEmpty = true) :
    bodyOf sets page source =
      Page.blocksHtml (settingOf sets page)
        (Outline.ofSource page.group.placement source).blocks := by
  rw [bodyOf, Page.bodyHtml, List.isEmpty_iff.mp flat, Page.headingsHtml, List.append_nil]

theorem links_of_build_linked :
    ∃ final r, build linkedTree linkedConfig = (final, .ok r) ∧
      ∃ page ∈ tasksOf linkedSets,
        (∃ value ∈ Html.hrefsOfAll (bodyOf linkedSets page linkingSource),
          (settingOf linkedSets page).Refers value) ∧
        LeadsTo linkedSets final r page "B".toList "B.pm.html".toList := by
  have done : build linkedTree linkedConfig = (_, .ok _) :=
    Prod.ext rfl (ok_of_isOk ⟨[], 0, [], []⟩ (by decide +kernel))
  have sound : linkedTree.Sound := sound_of_entries (by decide) (by decide)
  have named : linkedTree.Named := named_of_entries (by decide)
  have valid : ∀ n, Component.name n ∈ linkedConfig.outputRoot → n.IsFileName := by
    simp [linkedConfig, smallConfig, Path.absolute, Path.ofNames, Text.IsFileName]
  have found : discoveredBy linkedTree linkedConfig = .ok linkedSets :=
    ok_of_isOk [] (by decide +kernel)
  have linking : ∃ page ∈ tasksOf linkedSets,
      (Outline.ofSource page.group.placement linkingSource).children.isEmpty = true ∧
      (settingOf linkedSets page).hrefOf? "B".toList = some "B.pm.html".toList ∧
      "B.pm.html".toList ∈ Html.hrefsOfAll (Page.blocksHtml (settingOf linkedSets page)
        (Outline.ofSource page.group.placement linkingSource).blocks) := by decide +kernel
  obtain ⟨page, listed, flat, known, link⟩ := linking
  rw [← bodyOf_flat flat] at link
  obtain ⟨_, refers, leads⟩ := links_of_build sound named valid found done listed linkingSource
  exact ⟨_, _, done, page, listed, ⟨_, link, refers _ link⟩, leads _ _ known⟩

def brokenTree : FileTree :=
  ⟨[ (["l".toList], .directory 0),
    (["l".toList, "A.pm".toList], .file (Text.Utf8.encode linkingSource) 1),
    (["m".toList], .directory 0), (["m".toList, "B.pm".toList], .unreadable 1)], 5⟩

def brokenSets : List GroupDocuments := (discoveredBy brokenTree linkedConfig).toOption.getD []

theorem build_leaves_broken_link :
    ∃ final r, build brokenTree linkedConfig = (final, .ok r) ∧
      ∃ page ∈ tasksOf brokenSets, page.document.output ∈ r.published ∧
        "B.pm.html".toList ∈ Html.hrefsOfAll (bodyOf brokenSets page linkingSource) ∧
        final.entryAt [] (Href.follow page.document.output "B.pm.html".toList) =
          .error .notFound := by
  have done : build brokenTree linkedConfig = (_, .ok _) :=
    Prod.ext rfl (ok_of_isOk ⟨[], 0, [], []⟩ (by decide +kernel))
  have linking : ∃ page ∈ tasksOf brokenSets,
      (Outline.ofSource page.group.placement linkingSource).children.isEmpty = true ∧
      page.document.output ∈
        ((build brokenTree linkedConfig).2.toOption.getD ⟨[], 0, [], []⟩).published ∧
      "B.pm.html".toList ∈ Html.hrefsOfAll (Page.blocksHtml (settingOf brokenSets page)
        (Outline.ofSource page.group.placement linkingSource).blocks) ∧
      (build brokenTree linkedConfig).1.entryAt []
        (Href.follow page.document.output "B.pm.html".toList) = .error .notFound := by
    decide +kernel
  obtain ⟨page, listed, flat, published, link, nothing⟩ := linking
  rw [← bodyOf_flat flat] at link
  exact ⟨_, _, done, page, listed, published, link, nothing⟩

end Site
end PodSite
