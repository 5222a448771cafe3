import PodSite.Proofs.Site.Hidden
import PodSite.Proofs.Site.Membership
import PodSite.Site.Asset

/-!
Generated files never collide. Pages and copies have different places below the output root,
because the relative paths of the documents differ and no source has the suffix of a page; none of
them takes the place of the index or of an asset.
-/
namespace PodSite

namespace Path

def Separate (p q : Path) : Prop := p ≠ q ∧ p.leadFrom [] ≠ q.leadFrom []

/-- Below one root, however it is written, different names are different places. -/
theorem separate_below (root : Path) {names names' : List Text} (differ : names ≠ names') :
    Separate (root ++ ofNames names) (root ++ ofNames names') := by
  have places : (root ++ ofNames names).leadFrom [] ≠ (root ++ ofNames names').leadFrom [] := by
    rw [leadFrom_append, leadFrom_append, leadFrom_ofNames, leadFrom_ofNames]
    exact fun same => differ (List.append_cancel_left same)
  exact ⟨fun same => places (congrArg (leadFrom []) same), places⟩

end Path

namespace Document

theorem pageNames_injective {names names' : List Text} (named : names ≠ []) (named' : names' ≠ [])
    (same : pageNames names = pageNames names') : names = names' := by
  obtain ⟨front, last, rfl⟩ := (List.eq_nil_or_concat names).resolve_left named
  obtain ⟨front', last', rfl⟩ := (List.eq_nil_or_concat names').resolve_left named'
  simpa [pageNames] using same

end Document

namespace Site
open Document

/-- The names of the generated files that belong to no document. -/
def siteNames : List Text := assets.map (·.name) ++ ["index.html".toList, "index.json".toList]

/-- No page is at the place of a copy: the source would have the suffix of a page. -/
theorem page_ne_copy {groups : List Group} (plain : ∀ g ∈ groups, "html".toList ∉ g.suffixes)
    {names names' : List Text} (named : names ≠ []) (named' : names' ≠ [])
    (owned : (Group.owner? groups (Path.ofNames names')).isSome) :
    pageNames names ≠ "src".toList :: names' := by
  intro same
  obtain ⟨g, listed, s, suffix, extension⟩ := suffix_of_owned owned
  have copy : Path.extension? ([.name "src".toList] ++ Path.ofNames names') = some s := by
    rw [Path.extension?_names _ named', extension]
  have page : Path.extension? ([] ++ Path.ofNames (pageNames names)) = some s := by
    rw [same]
    exact copy
  exact plain g listed (extension_page [] named page ▸ suffix)

theorem page_ne_siteFile {groups : List Group} {names : List Text} (named : names ≠ [])
    (owned : (Group.owner? groups (Path.ofNames names)).isSome) {n : Text}
    (listed : n ∈ siteNames) : pageNames names ≠ [n] := by
  intro same
  have suffix : ∀ s, Path.extension? (Path.ofNames [n]) = some s → s = "html".toList := by
    intro s extension
    rw [← same] at extension
    exact extension_page [] named extension
  -- of the four names, only that of the index page has the suffix of a page
  have index : n = "index.html".toList := by
    have four : n ∈ ["podstyle.css".toList, "up.svg".toList, "index.html".toList,
      "index.json".toList] := listed
    simp only [List.mem_cons, List.not_mem_nil, or_false] at four
    rcases four with rfl | rfl | rfl | rfl
    · exact absurd (suffix "css".toList (by decide)) (by decide)
    · exact absurd (suffix "svg".toList (by decide)) (by decide)
    · rfl
    · exact absurd (suffix "json".toList (by decide)) (by decide)
  have source : names = ["index".toList] :=
    pageNames_injective named (by simp) (same.trans (by rw [index]; decide))
  obtain ⟨_, _, s, _, extension⟩ := suffix_of_owned owned
  rw [source, show Path.extension? (Path.ofNames ["index".toList]) = none by decide] at extension
  cases extension

section Tasks
variable {t : FileTree} {c : Config} {sets : List GroupDocuments} (found : discover t c = .ok sets)
include found

theorem task_place {task : Task} (member : task ∈ tasksOf sets) :
    task.document.Laid c.outputRoot ∧
      (Group.owner? c.groups (Path.ofNames task.document.relative)).isSome := by
  obtain ⟨set, listed, member⟩ := List.mem_flatMap.mp member
  obtain ⟨d, of_set, rfl⟩ := List.mem_map.mp member
  obtain ⟨root, _, _, f, _, made⟩ := mem_discover found listed of_set
  obtain ⟨_, _, _, _, laid, _⟩ := documentOf?_laid made
  exact ⟨laid, by simp [owner_of_relative found listed of_set]⟩

variable (plain : ∀ g ∈ c.groups, "html".toList ∉ g.suffixes)
include plain

theorem pagePlace_ne_copy {x y : Task} (member : x ∈ tasksOf sets) (member' : y ∈ tasksOf sets)
    (page : x.document.kind.isBinary = false) :
    x.document.pagePlace ≠ "src".toList :: y.document.relative := by
  rw [pagePlace, if_neg (by simp [page])]
  exact page_ne_copy plain (task_place found member).1.named (task_place found member').1.named
    (task_place found member').2

theorem pagePlace_distinct {x y : Task} (member : x ∈ tasksOf sets) (member' : y ∈ tasksOf sets)
    (differ : x.document.relative ≠ y.document.relative) :
    x.document.pagePlace ≠ y.document.pagePlace := by
  have named := (task_place found member).1.named
  have named' := (task_place found member').1.named
  cases first : x.document.kind.isBinary <;> cases second : y.document.kind.isBinary
  · simp only [pagePlace, first, second, Bool.false_eq_true, if_false]
    exact fun same => differ (pageNames_injective named named' same)
  · have copy : y.document.pagePlace = "src".toList :: y.document.relative := by
      simp [pagePlace, second]
    exact copy ▸ pagePlace_ne_copy found plain member member' first
  · have copy : x.document.pagePlace = "src".toList :: x.document.relative := by
      simp [pagePlace, first]
    exact copy ▸ (pagePlace_ne_copy found plain member' member second).symm
  · simp only [pagePlace, first, second, if_true]
    exact fun same => differ (List.cons.inj same).2

omit plain in
theorem pagePlace_ne_siteFile {x : Task} (member : x ∈ tasksOf sets) {n : Text}
    (listed : n ∈ siteNames) : x.document.pagePlace ≠ [n] := by
  obtain ⟨laid, owned⟩ := task_place found member
  unfold pagePlace
  split
  · exact fun same => laid.named (List.cons.inj same).2
  · exact page_ne_siteFile laid.named owned listed

end Tasks

/-- If no group lists the suffix of pages, no two documents have their pages at one place or their
copies at one place, no page is at the place of a copy, and neither is at that of the index or of an
asset. This is said of files whose names are texts. -/
theorem outputs_separate {t : FileTree} {c : Config} {sets : List GroupDocuments}
    (plain : ∀ g ∈ c.groups, "html".toList ∉ g.suffixes) (found : discover t c = .ok sets) :
    (tasksOf sets).Pairwise (fun x y => x.document.relative ≠ y.document.relative ∧
        Path.Separate x.document.output y.document.output ∧
        Path.Separate x.document.copy y.document.copy) ∧
      (∀ x ∈ tasksOf sets, x.document.kind.isBinary = false →
        ∀ y ∈ tasksOf sets, Path.Separate x.document.output y.document.copy) ∧
      ∀ x ∈ tasksOf sets, ∀ n ∈ siteNames,
        Path.Separate x.document.output (c.outputRoot ++ [.name n]) ∧
          Path.Separate x.document.copy (c.outputRoot ++ [.name n]) := by
  have laid : ∀ x ∈ tasksOf sets, x.document.Laid c.outputRoot :=
    fun x member => (task_place found member).1
  refine ⟨(tasks_apart found).imp_of_mem ?_, ?_, ?_⟩
  · intro x y member member' differ
    rw [(laid x member).page, (laid y member').page, (laid x member).copy, (laid y member').copy]
    exact ⟨differ, Path.separate_below _ (pagePlace_distinct found plain member member' differ),
      Path.separate_below _ fun same => differ (List.cons.inj same).2⟩
  · intro x member page y member'
    rw [(laid x member).page, (laid y member').copy]
    exact Path.separate_below _ (pagePlace_ne_copy found plain member member' page)
  · intro x member n listed
    have deeper : "src".toList :: x.document.relative ≠ [n] :=
      fun same => (laid x member).named (List.cons.inj same).2
    rw [(laid x member).page, (laid x member).copy]
    exact ⟨Path.separate_below _ (pagePlace_ne_siteFile found member listed),
      Path.separate_below _ deeper⟩

def namesakeTree : FileTree :=
  ⟨[ (["l".toList], .directory 0), (["l".toList, "src".toList], .directory 0),
    (["l".toList, "src".toList, "index.pm".toList], .file [65] 1),
    (["m".toList], .directory 0), (["m".toList, "index.pm".toList], .file [66] 1),
    (["p".toList], .directory 0), (["p".toList, "index.png".toList], .file [7] 1)], 5⟩

def namesakeConfig : Config :=
  { smallConfig with libraryRoots := [["l".toList], ["m".toList], ["p".toList]] }

def namesakeSets : List GroupDocuments :=
  (discover namesakeTree namesakeConfig).toOption.getD []

theorem outputs_separate_namesakes :
    (tasksOf namesakeSets).map (fun x => (x.document.output.names, x.document.copy.names)) =
        [ (["o".toList, "src".toList, "index.pm.html".toList],
            ["o".toList, "src".toList, "src".toList, "index.pm".toList]),
          (["o".toList, "index.pm.html".toList], ["o".toList, "src".toList, "index.pm".toList]),
          (["o".toList, "src".toList, "index.png".toList],
            ["o".toList, "src".toList, "index.png".toList])] ∧
      (tasksOf namesakeSets).Pairwise (fun x y => x.document.relative ≠ y.document.relative ∧
        Path.Separate x.document.output y.document.output ∧
        Path.Separate x.document.copy y.document.copy) := by
  have plain : ∀ g ∈ namesakeConfig.groups, "html".toList ∉ g.suffixes := by decide
  have found : discover namesakeTree namesakeConfig = .ok namesakeSets :=
    ok_of_isOk [] (by decide +kernel)
  exact ⟨by decide +kernel, (outputs_separate plain found).1⟩

/-- Two names that are not valid UTF-8 may be read as one text, and then have one page between them,
though each has a copy of its own. -/
theorem one_page_for_two_names :
    let first : Bytes := 0xFF :: Text.Utf8.encode ".pm".toList
    let second : Bytes := 0xFE :: Text.Utf8.encode ".pm".toList
    first ≠ second ∧
      pageNames [Text.Utf8.decodeLossy first] = ["\uFFFD.pm.html".toList] ∧
      pageNames [Text.Utf8.decodeLossy second] = ["\uFFFD.pm.html".toList] := by
  decide

end Site
end PodSite
