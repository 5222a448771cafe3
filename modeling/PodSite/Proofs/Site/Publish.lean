import PodSite.Proofs.Files.Change
import PodSite.Proofs.Path
import PodSite.Site.Publish

/-!
Files beside the pages. Writing them changes nothing else; once they are written, writing them again
changes nothing at all.
-/
namespace PodSite.Site
open FileTree

section One
variable {loc : Location} (valid : ∀ n ∈ loc, n.IsFileName) (inside : loc ≠ [])
  {t : FileTree} (sound : t.Sound) (linkFree : t.LinkFree)
include valid inside sound linkFree

theorem holds_spell (content : Bytes) :
    holds t (Path.absolute loc).spell content = true ↔
      Addressable loc ∧ ∃ m, t.get? loc = some (.file content m) := by
  have read := read_absolute sound linkFree loc
  unfold holds
  rw [Path.steps_spell valid inside]
  cases found : t.read [] (Path.absolute loc) with
  | error cause =>
    simp only [Bool.false_eq_true, false_iff]
    intro there
    simp [(read content).mpr there] at found
  | ok existing =>
    obtain ⟨addressable, m, here⟩ := (read existing).mp found
    simp only [beq_iff_eq, addressable, here, Option.some.injEq, Entry.file.injEq, true_and]
    exact ⟨fun same => ⟨m, same, rfl⟩, fun ⟨_, same, _⟩ => same⟩

theorem writeText_spell (content : Bytes) :
    (t.writeText (Path.absolute loc).spell content).1 = (t.write (Path.absolute loc) content).1 ∧
      ∀ t' u, t.writeText (Path.absolute loc).spell content = (t', .ok u) →
        t.write (Path.absolute loc) content = (t', .ok u) := by
  unfold writeText
  rw [Path.steps_spell valid inside, Path.asksDirectory_spell valid inside]
  cases check : checkPath (Path.absolute loc) with
  | error cause =>
    refine ⟨?_, fun t' u done => by simp at done⟩
    rcases write_cases sound linkFree loc content with
      ⟨same, _⟩ | ⟨addressable, _⟩ | ⟨addressable, _⟩
    · exact same.symm
    · simp [addressable.1] at check
    · simp [addressable.1] at check
  | ok _ => exact ⟨rfl, fun t' u done => done⟩

theorem grown_update (content : Bytes) :
    Grown (· = loc) t (update t (Path.absolute loc).spell content).1 := by
  have made := grown_makeDirectories (· = loc)
    (Path.ofText (Path.parentText (Path.absolute loc).spell)) sound linkFree
  unfold update makeRoom
  split
  · exact .refl sound linkFree _
  · match t.makeDirectories (Path.ofText (Path.parentText (Path.absolute loc).spell)), made with
    | (t₁, .error cause), made => exact made
    | (t₁, .ok _), made =>
      have written := grown_write made.sound made.linkFree loc content
      rw [← (writeText_spell valid inside made.sound made.linkFree content).1] at written
      simp only
      match t₁.writeText (Path.absolute loc).spell content, written with
      | (t₂, .error cause), written => exact made.trans written
      | (t₂, .ok _), written => exact made.trans written

/-- A file that was written, or was not because of what it holds, holds its content. -/
theorem update_ok {content : Bytes} (full : content ≠ []) {t' : FileTree} {changed : Bool}
    (done : update t (Path.absolute loc).spell content = (t', .ok changed)) :
    holds t' (Path.absolute loc).spell content = true := by
  have made := grown_makeDirectories (· = loc)
    (Path.ofText (Path.parentText (Path.absolute loc).spell)) sound linkFree
  unfold update makeRoom at done
  split at done
  · rename_i already
    cases done
    exact already
  · match room : t.makeDirectories (Path.ofText (Path.parentText (Path.absolute loc).spell)),
      made with
    | (t₁, .error cause), _ => simp [room] at done
    | (t₁, .ok _), made =>
      simp only [room] at done
      have written := grown_write made.sound made.linkFree loc content
      match wrote : t₁.writeText (Path.absolute loc).spell content with
      | (t₂, .error cause) => simp [wrote] at done
      | (t₂, .ok u) =>
        simp only [wrote, Prod.mk.injEq] at done
        obtain ⟨rfl, _⟩ := done
        have wrote' := (writeText_spell valid inside made.sound made.linkFree content).2 _ _ wrote
        rw [wrote'] at written
        obtain ⟨addressable, held, _⟩ := write_ok made.sound made.linkFree wrote'
        rcases held with file | ⟨empty, _⟩
        · exact (holds_spell valid inside written.sound written.linkFree content).mpr
            ⟨addressable, file⟩
        · exact absurd empty full

theorem holds_kept {files : Location → Prop} {t' : FileTree} (grown : Grown files t t')
    (away : ¬ files loc) {content : Bytes}
    (held : holds t (Path.absolute loc).spell content = true) :
    holds t' (Path.absolute loc).spell content = true := by
  rw [holds_spell valid inside sound linkFree] at held
  obtain ⟨addressable, m, here⟩ := held
  exact (holds_spell valid inside grown.sound grown.linkFree content).mpr
    ⟨addressable, m, (grown.file_iff away rfl).mpr here⟩

end One

section All
variable {out : Location} (valid : ∀ n ∈ out, n.IsFileName)

theorem valid_concat (valid : ∀ n ∈ out, n.IsFileName) {name : Text} (named : name.IsFileName) :
    ∀ n ∈ out ++ [name], n.IsFileName := by
  intro n member
  rcases List.mem_append.mp member with h | h
  · exact valid n h
  · exact List.mem_singleton.mp h ▸ named

include valid

theorem grown_writeAll (files : List (Text × Text)) (named : ∀ f ∈ files, f.1.IsFileName)
    {t : FileTree} (sound : t.Sound) (linkFree : t.LinkFree) (count : Nat) :
    Grown (fun loc => ∃ f ∈ files, loc = out ++ [f.1]) t
      (writeAll (Path.absolute out).spell t count files).1 := by
  induction files generalizing t count with
  | nil => exact .refl sound linkFree _
  | cons f rest ih =>
    obtain ⟨name, content⟩ := f
    have name_valid := named (name, content) (by simp)
    have named' := fun f member => named f (List.mem_cons_of_mem (name, content) member)
    have step := grown_update (valid_concat valid name_valid) (by simp) sound linkFree
      (Text.Utf8.encode content)
    have step' := step.mono fun loc here =>
      (⟨(name, content), by simp, here⟩ : ∃ f ∈ (name, content) :: rest, loc = out ++ [f.1])
    rw [writeAll, Path.joinText_spell valid name_valid]
    match update t (Path.absolute (out ++ [name])).spell (Text.Utf8.encode content), step' with
    | (t₁, .error e), step' => exact step'
    | (t₁, .ok changed), step' =>
      refine step'.trans ((ih named' step'.sound step'.linkFree _).mono ?_)
      rintro loc ⟨f, member, here⟩
      exact ⟨f, List.mem_cons_of_mem _ member, here⟩

theorem writeAll_ok (files : List (Text × Text)) (named : ∀ f ∈ files, f.1.IsFileName)
    (distinct : (files.map (·.1)).Nodup) (full : ∀ f ∈ files, Text.Utf8.encode f.2 ≠ [])
    {t t' : FileTree} (sound : t.Sound) (linkFree : t.LinkFree) {count total : Nat}
    (done : writeAll (Path.absolute out).spell t count files = (t', .ok total)) :
    ∀ f ∈ files, holds t' (Path.absolute (out ++ [f.1])).spell (Text.Utf8.encode f.2) = true := by
  induction files generalizing t count with
  | nil => simp
  | cons f rest ih =>
    obtain ⟨name, content⟩ := f
    have name_valid := valid_concat valid (named (name, content) (by simp))
    have named' := fun f member => named f (List.mem_cons_of_mem (name, content) member)
    obtain ⟨alone, distinct'⟩ := List.nodup_cons.mp distinct
    have step := grown_update name_valid (by simp) sound linkFree (Text.Utf8.encode content)
    rw [writeAll, Path.joinText_spell valid (named (name, content) (by simp))] at done
    match updated : update t (Path.absolute (out ++ [name])).spell (Text.Utf8.encode content) with
    | (t₁, .error e) => simp [updated] at done
    | (t₁, .ok changed) =>
      rw [updated] at step
      simp only [updated] at done
      have written := update_ok name_valid (by simp) sound linkFree
        (full (name, content) (by simp)) updated
      have frame := grown_writeAll valid rest named' step.sound step.linkFree
        (if changed then count + 1 else count)
      rw [done] at frame
      intro f member
      rcases List.mem_cons.mp member with rfl | member
      · refine holds_kept name_valid (by simp) step.sound step.linkFree frame ?_ written
        rintro ⟨other, listed, same⟩
        have same_name : other.1 = name := by simpa using same.symm
        exact alone (List.mem_map.mpr ⟨other, listed, same_name⟩)
      · exact ih named' distinct' (fun f h => full f (List.mem_cons_of_mem _ h)) step.sound
          step.linkFree done f member

theorem writeAll_held (files : List (Text × Text)) (named : ∀ f ∈ files, f.1.IsFileName)
    {t : FileTree} (held : ∀ f ∈ files,
      holds t (Path.absolute (out ++ [f.1])).spell (Text.Utf8.encode f.2) = true) (count : Nat) :
    writeAll (Path.absolute out).spell t count files = (t, .ok count) := by
  induction files with
  | nil => rfl
  | cons f rest ih =>
    obtain ⟨name, content⟩ := f
    have here := held (name, content) (by simp)
    have later := ih (fun f member => named f (List.mem_cons_of_mem _ member))
      (fun f member => held f (List.mem_cons_of_mem _ member))
    rw [writeAll, Path.joinText_spell valid (named (name, content) (by simp)), update, if_pos here]
    exact later

end All

def assetFiles : List (Text × Text) := assets.map fun a => (a.name, a.content)

def indexFiles (project : Project) (nav : Navigation) : List (Text × Text) :=
  [ ("index.html".toList, indexPage project nav), ("index.json".toList, indexJson project nav)]

theorem encode_ne_nil {text : Text} (full : text ≠ []) : Text.Utf8.encode text ≠ [] := by
  cases text with
  | nil => exact absurd rfl full
  | cons c rest =>
    have := String.length_utf8EncodeChar c
    have := c.utf8Size_pos
    intro none
    simp only [Text.Utf8.encode, List.flatMap_cons, List.append_eq_nil_iff] at none
    simp [none.1] at *
    omega

theorem assetFiles_full : ∀ f ∈ assetFiles, Text.Utf8.encode f.2 ≠ [] := by
  have lines : ∀ (line : String) (rest : List String),
      ((line :: rest).flatMap fun line => line.toList ++ ['\n']) ≠ [] := by
    intro line rest
    simp
  intro f member
  simp only [assetFiles, assets, List.map_cons, List.map_nil, List.mem_cons, List.not_mem_nil,
    or_false] at member
  rcases member with rfl | rfl
  · exact encode_ne_nil (lines _ _)
  · exact encode_ne_nil (List.append_ne_nil_of_left_ne_nil (by decide) _)

theorem indexFiles_full (project : Project) (nav : Navigation) :
    ∀ f ∈ indexFiles project nav, Text.Utf8.encode f.2 ≠ [] := by
  intro f member
  simp only [indexFiles, List.mem_cons, List.not_mem_nil, or_false] at member
  rcases member with rfl | rfl
  · exact encode_ne_nil (List.append_ne_nil_of_right_ne_nil _ (by decide))
  · exact encode_ne_nil (List.append_ne_nil_of_right_ne_nil _ (by decide))

theorem siteFiles_names (project : Project) (nav : Navigation) :
    (assetFiles ++ indexFiles project nav).map (·.1) =
      ["podstyle.css".toList, "up.svg".toList, "index.html".toList, "index.json".toList] := rfl

theorem siteFiles_distinct (project : Project) (nav : Navigation) :
    ((assetFiles ++ indexFiles project nav).map (·.1)).Nodup := by
  rw [siteFiles_names]
  decide

theorem siteFiles_named (project : Project) (nav : Navigation) :
    ∀ f ∈ assetFiles ++ indexFiles project nav, f.1.IsFileName := by
  have valid : ∀ n ∈ (assetFiles ++ indexFiles project nav).map (·.1), n.IsFileName := by
    rw [siteFiles_names]
    decide
  exact fun f member => valid f.1 (List.mem_map_of_mem member)

section Site
variable {out : Location} (valid : ∀ n ∈ out, n.IsFileName) {t t₁ t₂ : FileTree} (sound : t.Sound)
  (linkFree : t.LinkFree) {project : Project} {nav : Navigation} {written count : Nat}
  (assets : publishAssets t (Path.absolute out).spell = (t₁, .ok written))
  (index : publishIndex t₁ (Path.absolute out).spell project nav = (t₂, .ok count))
include valid sound linkFree assets index

theorem publish_spec :
    Grown (fun loc => ∃ f ∈ assetFiles ++ indexFiles project nav, loc = out ++ [f.1]) t t₂ ∧
      ∀ f ∈ assetFiles ++ indexFiles project nav,
        holds t₂ (Path.absolute (out ++ [f.1])).spell (Text.Utf8.encode f.2) = true := by
  have named := siteFiles_named project nav
  have asset_named := fun f h => named f (List.mem_append_left (indexFiles project nav) h)
  have index_named := fun f h => named f (List.mem_append_right assetFiles h)
  have distinct := siteFiles_distinct project nav
  rw [List.map_append, List.nodup_append'] at distinct
  obtain ⟨assets_distinct, index_distinct, disjoint⟩ := distinct
  have first := grown_writeAll valid assetFiles asset_named sound linkFree 0
  rw [show writeAll _ t 0 assetFiles = _ from assets] at first
  have second := grown_writeAll valid (indexFiles project nav) index_named first.sound
    first.linkFree 0
  rw [show writeAll _ t₁ 0 (indexFiles project nav) = _ from index] at second
  have assets_held := writeAll_ok valid assetFiles asset_named assets_distinct assetFiles_full sound
    linkFree assets
  have index_held := writeAll_ok valid (indexFiles project nav) index_named index_distinct
    (indexFiles_full project nav) first.sound first.linkFree index
  constructor
  · refine (first.mono ?_).trans (second.mono ?_)
    · rintro loc ⟨f, member, here⟩
      exact ⟨f, List.mem_append_left _ member, here⟩
    · rintro loc ⟨f, member, here⟩
      exact ⟨f, List.mem_append_right _ member, here⟩
  · intro f member
    rcases List.mem_append.mp member with asset | page
    · refine holds_kept (valid_concat valid (named f member)) (by simp) first.sound first.linkFree
        second ?_ (assets_held f asset)
      rintro ⟨other, listed, same⟩
      have same_name : f.1 = other.1 := by simpa using same
      exact disjoint (List.mem_map_of_mem asset) (same_name ▸ List.mem_map_of_mem listed)
    · exact index_held f page

end Site
end PodSite.Site
