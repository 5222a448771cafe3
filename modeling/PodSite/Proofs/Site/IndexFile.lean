import PodSite.Proofs.Json
import PodSite.Proofs.Site.Publish

/-!
The index of a site in JSON. Its text tells the title, the description and the whole navigation
apart from all others, so the file is left as it is just if it is the index of this very site.
-/
namespace PodSite

namespace Site
open FileTree

def indexModel (project : Project) (nav : Navigation) : Text × Text × Navigation :=
  (project.title, project.description, nav)

/-- The content of a file is an index in JSON, and it shows exactly this site. -/
def IsIndexOf (project : Project) (nav : Navigation) (content : Bytes) : Prop :=
  ∃ other nav', content = Text.Utf8.encode (indexJson other nav') ∧
    indexModel other nav' = indexModel project nav

section Model
variable {project other : Project} {nav nav' : Navigation}

theorem entryJson_injective {a b : NavigationEntry} (same : entryJson a = entryJson b) :
    a = b := by
  cases a
  cases b
  simpa [entryJson] using same

theorem sectionJson_injective {a b : NavigationSection} (same : sectionJson a = sectionJson b) :
    a = b := by
  obtain ⟨description, entries⟩ := a
  obtain ⟨description', entries'⟩ := b
  have parts : description = description' ∧ entries.map entryJson = entries'.map entryJson := by
    simpa [sectionJson] using same
  obtain ⟨rfl, listed⟩ := parts
  have injective : Function.Injective entryJson := fun _ _ => entryJson_injective
  rw [List.map_injective_iff.mpr injective listed]

theorem navigationJson_injective
    (same : navigationJson project nav = navigationJson other nav') :
    indexModel project nav = indexModel other nav' := by
  have parts : project.title = other.title ∧ project.description = other.description ∧
      nav.map sectionJson = nav'.map sectionJson := by
    simpa [navigationJson] using same
  obtain ⟨title, description, sections⟩ := parts
  have injective : Function.Injective sectionJson := fun _ _ => sectionJson_injective
  rw [indexModel, indexModel, title, description, List.map_injective_iff.mpr injective sections]

theorem indexJson_eq_iff :
    indexJson project nav = indexJson other nav' ↔
      indexModel project nav = indexModel other nav' := by
  constructor
  · intro same
    exact navigationJson_injective (Json.pretty_injective (List.append_cancel_right same))
  · intro same
    obtain ⟨title, rest⟩ := Prod.mk.inj same
    obtain ⟨description, sections⟩ := Prod.mk.inj rest
    rw [indexJson, indexJson, navigationJson, navigationJson, title, description, sections]

theorem isIndexOf_iff {content : Bytes} :
    IsIndexOf project nav content ↔ content = Text.Utf8.encode (indexJson project nav) := by
  constructor
  · rintro ⟨other, nav', rfl, same⟩
    rw [indexJson_eq_iff.mpr same]
  · intro same
    exact ⟨project, nav, same, rfl⟩

end Model

section File
variable {t : FileTree}

theorem holds_iff {written : Text} {content : Bytes} :
    holds t written content = true ↔ t.read [] (Path.steps written) = .ok content := by
  unfold holds
  cases t.read [] (Path.steps written) with
  | error cause => simp
  | ok existing => simp

theorem update_unchanged_iff {written : Text} {content : Bytes} :
    (update t written content).2 = .ok false ↔ holds t written content = true := by
  unfold update
  constructor
  · intro unchanged
    by_contra missing
    rw [if_neg missing] at unchanged
    split at unchanged
    · cases unchanged
    · split at unchanged
      · cases unchanged
      · cases unchanged
  · intro held
    rw [if_pos held]

theorem writeAll_last_iff {root name content : Text} {count : Nat} :
    writeAll root t count [(name, content)] = (t, .ok count) ↔
      holds t (Path.joinText root name) (Text.Utf8.encode content) = true := by
  constructor
  · intro untouched
    rw [← update_unchanged_iff]
    rw [writeAll] at untouched
    split at untouched
    · cases untouched
    · rename_i changed updated
      rw [updated]
      cases changed with
      | false => rfl
      | true => simp [writeAll] at untouched
  · intro held
    rw [writeAll, update, if_pos held]
    rfl

theorem publishIndex_eq {t₁ : FileTree} {root : Text} {project : Project} {nav : Navigation}
    {changed : Bool}
    (page : update t (Path.joinText root "index.html".toList)
      (Text.Utf8.encode (indexPage project nav)) = (t₁, .ok changed)) :
    publishIndex t root project nav =
      writeAll root t₁ (if changed then 1 else 0)
        [("index.json".toList, indexJson project nav)] := by
  rw [publishIndex, writeAll, page]

end File

section Plain
variable {out : Location} (valid : ∀ n ∈ out, n.IsFileName) {t t' : FileTree} (sound : t.Sound)
  (linkFree : t.LinkFree) {project : Project} {nav : Navigation} {count : Nat}
  (done : publishIndex t (Path.absolute out).spell project nav = (t', .ok count))
include valid sound linkFree done

theorem index_written : Addressable (out ++ ["index.json".toList]) ∧
    ∃ m, t'.get? (out ++ ["index.json".toList]) =
      some (.file (Text.Utf8.encode (indexJson project nav)) m) := by
  have listed : ("index.json".toList, indexJson project nav) ∈ indexFiles project nav := by
    simp [indexFiles]
  have named : ∀ f ∈ indexFiles project nav, f.1.IsFileName :=
    fun f h => siteFiles_named project nav f (List.mem_append_right assetFiles h)
  have distinct := siteFiles_distinct project nav
  rw [List.map_append, List.nodup_append'] at distinct
  have frame := grown_writeAll valid (indexFiles project nav) named sound linkFree 0
  rw [show writeAll _ t 0 (indexFiles project nav) = _ from done] at frame
  have held := writeAll_ok valid (indexFiles project nav) named distinct.2.1
    (indexFiles_full project nav) sound linkFree done _ listed
  rwa [holds_spell (valid_concat valid (named _ listed)) (by simp) frame.sound frame.linkFree]
    at held

/-- Writing the index page does not change the index in JSON, so what counts is what was there at
the start. -/
theorem index_kept {m : Nat} (there : t.get? (out ++ ["index.json".toList]) =
      some (.file (Text.Utf8.encode (indexJson project nav)) m)) :
    t'.get? (out ++ ["index.json".toList]) = t.get? (out ++ ["index.json".toList]) := by
  have page_named : Text.IsFileName "index.html".toList := by decide
  have file_named : Text.IsFileName "index.json".toList := by decide
  have file_valid := valid_concat valid file_named
  have apart : out ++ ["index.json".toList] ≠ out ++ ["index.html".toList] := by simp
  have addressable := (index_written valid sound linkFree done).1
  have grown := grown_update (valid_concat valid page_named) (by simp) sound linkFree
    (Text.Utf8.encode (indexPage project nav))
  have held := holds_kept file_valid (by simp) sound linkFree grown apart
    ((holds_spell file_valid (by simp) sound linkFree _).mpr ⟨addressable, m, there⟩)
  have joined := Path.joinText_spell valid page_named
  match page : update t (Path.absolute (out ++ ["index.html".toList])).spell
      (Text.Utf8.encode (indexPage project nav)) with
  | (t₁, .error cause) =>
    rw [publishIndex, writeAll, joined, page] at done
    cases done
  | (t₁, .ok changed) =>
    rw [page] at grown held
    rw [← Path.joinText_spell valid file_named] at held
    rw [← joined] at page
    rw [publishIndex_eq page, writeAll_last_iff.mpr held] at done
    cases done
    rw [there]
    exact (grown.file_iff apart rfl).mpr there

end Plain

/-- The text of the index in JSON belongs to one title, description and navigation only. So when the
turn of the file comes, it is left as it is just if it shows exactly this site. In a tree without
links, what it held at the start decides. -/
theorem index_untouched_iff (project : Project) (nav : Navigation) :
    (∀ other nav', indexJson project nav = indexJson other nav' →
      project.title = other.title ∧ project.description = other.description ∧ nav = nav') ∧
    (∀ (t t₁ : FileTree) (root : Text) (changed : Bool),
      update t (Path.joinText root "index.html".toList)
        (Text.Utf8.encode (indexPage project nav)) = (t₁, .ok changed) →
      (publishIndex t root project nav = (t₁, .ok (if changed then 1 else 0)) ↔
        ∃ content, t₁.read [] (Path.steps (Path.joinText root "index.json".toList)) = .ok content ∧
          IsIndexOf project nav content)) ∧
    ∀ (t t' : FileTree) (out : Location) (count : Nat),
      (∀ n ∈ out, n.IsFileName) → t.Sound → t.LinkFree →
      publishIndex t (Path.absolute out).spell project nav = (t', .ok count) →
      (t'.get? (out ++ ["index.json".toList]) = t.get? (out ++ ["index.json".toList]) ↔
        ∃ content m, t.get? (out ++ ["index.json".toList]) = some (.file content m) ∧
          IsIndexOf project nav content) := by
  refine ⟨?_, ?_, ?_⟩
  · intro other nav' same
    simpa [indexModel] using indexJson_eq_iff.mp same
  · intro t t₁ root changed page
    rw [publishIndex_eq page, writeAll_last_iff, holds_iff]
    constructor
    · intro read
      exact ⟨_, read, isIndexOf_iff.mpr rfl⟩
    · rintro ⟨content, read, shows⟩
      rw [read, isIndexOf_iff.mp shows]
  · intro t t' out count valid sound linkFree done
    constructor
    · intro untouched
      obtain ⟨_, m, written⟩ := index_written valid sound linkFree done
      exact ⟨_, m, untouched.symm.trans written, isIndexOf_iff.mpr rfl⟩
    · rintro ⟨content, m, there, shows⟩
      rw [isIndexOf_iff.mp shows] at there
      exact index_kept valid sound linkFree done there

def quotingProject : Project :=
  { title := "\"\\\", \"\x01\n".toList, description := "\": [".toList, language := "en".toList }

def quotingNavigation : Navigation :=
  [⟨"]".toList, [⟨"]".toList, "a.html".toList, "A\"".toList, "\\".toList⟩]⟩]

def indexedTree : FileTree :=
  ⟨[ (["o".toList], .directory 0), (["o".toList, "index.json".toList],
      .file (Text.Utf8.encode (indexJson quotingProject quotingNavigation)) 1)], 5⟩

theorem index_untouched_iff_quoting :
    (publishIndex indexedTree (Path.absolute ["o".toList]).spell quotingProject
        quotingNavigation).2 = .ok 1 ∧
      (publishIndex indexedTree (Path.absolute ["o".toList]).spell quotingProject
        quotingNavigation).1.get? (["o".toList] ++ ["index.json".toList]) =
          indexedTree.get? (["o".toList] ++ ["index.json".toList]) := by
  have counted : (publishIndex indexedTree (Path.absolute ["o".toList]).spell quotingProject
      quotingNavigation).2 = .ok 1 := by decide +kernel
  refine ⟨counted, ?_⟩
  have sound : indexedTree.Sound := sound_of_entries (by decide) (by decide)
  have linkFree : indexedTree.LinkFree := linkFree_of_entries (by decide)
  have valid : ∀ n ∈ ["o".toList], Text.IsFileName n := by decide
  have there : indexedTree.get? (["o".toList] ++ ["index.json".toList]) =
      some (.file (Text.Utf8.encode (indexJson quotingProject quotingNavigation)) 1) := rfl
  match done : publishIndex indexedTree (Path.absolute ["o".toList]).spell quotingProject
      quotingNavigation with
  | (t', outcome) =>
    rw [done] at counted
    obtain rfl : outcome = .ok 1 := counted
    exact ((index_untouched_iff quotingProject quotingNavigation).2.2 indexedTree t' ["o".toList] 1
      valid sound linkFree done).mpr ⟨_, 1, there, isIndexOf_iff.mpr rfl⟩

end Site
end PodSite
