import PodSite.Proofs.Site.Places

/-!
A build into an empty output root. The files it leaves there are exactly those that its documents
write, each with the bytes that only its own document determines, as long as no document writes
where another one writes or needs a directory.
-/
namespace PodSite.Site
open FileTree

/-- A written file, with the directories that were made before it. -/
theorem wrote_furnished {t t' : FileTree} (linkFree : t.LinkFree) {places : Location → Prop}
    {front : Path} {n : Text} {content : Bytes} {u : Unit}
    (made : Furnished places t (t.makeDirectories front).1) (house : places (front.leadFrom []))
    (done : writeFile t (front ++ [.name n]) content = (t', .ok u)) :
    Wrote places (front.leadFrom [] ++ [n]) content t t' := by
  have leads : Path.leadFrom [] (front ++ [.name n]) = front.leadFrom [] ++ [n] := by
    rw [Path.leadFrom_append]
    rfl
  unfold writeFile at done
  rw [List.dropLast_concat] at done
  rcases dirs : t.makeDirectories front with ⟨t₁, cause | u⟩
  · simp [dirs] at done
  · rw [dirs] at made done
    simp only at made done
    rcases page : t₁.write (front ++ [.name n]) content with ⟨t₂, cause | u⟩
    · simp [page] at done
    · simp only [page, Prod.mk.injEq] at done
      obtain ⟨rfl, _⟩ := done
      have wrote := wrote_write (made.linkFree linkFree) page
      rw [leads, List.dropLast_concat] at wrote
      have free := fun there => wrote.free (made.directory there)
      refine ⟨wrote.now.trans made.now, wrote.linkFree, free, ?_, ?_⟩
      · rcases wrote.file with new | ⟨m, old⟩
        · exact Or.inl (made.now ▸ new)
        · exact Or.inr ⟨m, (made.file_iff rfl).mp old⟩
      · intro x away
        rcases wrote.others x away with same | ⟨rfl, there, before⟩
        · rw [same]
          rcases made.entries x with same' | ⟨stop, there, before⟩
          · exact Or.inl same'
          · refine Or.inr ⟨stop, ?_, before⟩
            unfold DirectoryAt
            rwa [same]
        · refine Or.inr ⟨house, there, ?_⟩
          rcases made.entries (front.leadFrom []) with same' | ⟨_, _, before'⟩
          · unfold DirectoryAt at before
            rwa [same'] at before
          · exact before'

theorem wrote_writeFile {t t' : FileTree} (linkFree : t.LinkFree) {front : Path} {n : Text}
    {content : Bytes} {u : Unit}
    (done : writeFile t (front ++ [.name n]) content = (t', .ok u)) :
    Wrote (· ∈ Path.stops [] front) (front.leadFrom [] ++ [n]) content t t' :=
  wrote_furnished linkFree (furnished_makeDirectories linkFree front)
    (Path.leadFrom_mem_stops [] front) done

/-- What a document writes at a location, if anything: the copy of its source, and its page unless
the copy is the page. Where a directory stands in the place of the page, the document counts as
fresh and nothing is written. -/
def Writes (c : Config) (references : References) (t : FileTree) (task : Task) (loc : Location)
    (content : Bytes) : Prop :=
  ¬ t.DirectoryAt (task.document.output.leadFrom []) ∧
    ∃ source, t.read [] task.document.source = .ok source ∧
      ((task.document.sharesSource = true ∧ loc = task.document.copy.leadFrom [] ∧
          content = source) ∨
        (task.document.kind.isBinary = false ∧ loc = task.document.output.leadFrom [] ∧
          content = pageBytes c references task source))

/-- How far a build has come that began with the tree `t₀`: below `out` it has written the given
files and nothing else, and what stands elsewhere is as it was. -/
structure Stage (t₀ : FileTree) (out : Location) (written : Location → Bytes → Prop)
    (t : FileTree) : Prop where
  now : t.now = t₀.now
  linkFree : t.LinkFree
  kept : ∀ x, t₀.DirectoryAt x → t.DirectoryAt x
  outside : ∀ x, (∀ rest, rest ≠ [] → x ≠ out ++ rest) → SameAt t₀ t x
  files : ∀ rest, rest ≠ [] → ∀ e, e.isDirectory = false →
    (t.get? (out ++ rest) = some e ↔
      ∃ content, written (out ++ rest) content ∧ e = .file content t₀.now)
  directories : ∀ rest, rest ≠ [] → t.DirectoryAt (out ++ rest) →
    t₀.DirectoryAt (out ++ rest) ∨
      ∃ loc content, written loc content ∧ out ++ rest <+: loc ∧ out ++ rest ≠ loc

def writtenAlso (written : Location → Bytes → Prop) (loc : Location) (content : Bytes)
    (x : Location) (b : Bytes) : Prop :=
  (x = loc ∧ b = content) ∨ (x ≠ loc ∧ written x b)

namespace Stage
variable {t₀ t t' : FileTree} {root : Path} {written : Location → Bytes → Prop}

theorem congr {out : Location} {more : Location → Bytes → Prop} (stage : Stage t₀ out written t)
    (same : ∀ x b, more x b ↔ written x b) : Stage t₀ out more t := by
  have equal : more = written := by
    funext x b
    exact propext (same x b)
  rwa [equal]

section Step
variable {out loc : Location} {places : Location → Prop} {content : Bytes}
  (stage : Stage t₀ out written t) (wrote : Wrote places loc content t t')
include stage wrote

theorem file_written {rest : List Text} (more : rest ≠ []) (place : loc = out ++ rest) :
    t'.get? loc = some (.file content t₀.now) := by
  rcases wrote.file with new | ⟨m, old⟩
  · rw [new, stage.now]
  · -- no file below `out` is unreadable
    rw [place] at old
    obtain ⟨_, _, wrong⟩ := (stage.files rest more _ rfl).mp old
    cases wrong

theorem kept_written (x : Location) (there : t₀.DirectoryAt x) : t'.DirectoryAt x := by
  have here := stage.kept x there
  have away : x ≠ loc := by
    rintro rfl
    exact wrote.free here
  rcases wrote.others x away with same | ⟨_, there', _⟩
  · unfold DirectoryAt
    rwa [same]
  · exact there'

theorem files_written {names rest : List Text} (some : names ≠ []) (place : loc = out ++ names)
    (more : rest ≠ []) {e : Entry} (plain : e.isDirectory = false) :
    t'.get? (out ++ rest) = Option.some e ↔
      ∃ b, writtenAlso written loc content (out ++ rest) b ∧ e = .file b t₀.now := by
  by_cases here : out ++ rest = loc
  · rw [here, file_written stage wrote some place]
    simp [writtenAlso, eq_comm]
  · have before := stage.files rest more e plain
    simp only [writtenAlso, here, false_and, false_or, ne_eq, not_false_eq_true, true_and]
    rcases wrote.others _ here with same | ⟨_, ⟨m', there'⟩, old⟩
    · rw [same]
      exact before
    · rw [← before]
      constructor
      · intro found
        cases there'.symm.trans found
        cases plain
      · intro found
        rcases old with missing | ⟨m, there⟩
        · cases missing.symm.trans found
        · cases there.symm.trans found
          cases plain

-- directories are made only where they are from the start, and around the file
variable (around : ∀ x, places x → t₀.DirectoryAt x ∨ (out <+: x ∧ x <+: loc ∧ x ≠ loc))
include around

theorem outside_written {names : List Text} (some : names ≠ []) (place : loc = out ++ names)
    (start : t₀.DirectoryAt out) (x : Location) (outer : ∀ rest, rest ≠ [] → x ≠ out ++ rest) :
    SameAt t₀ t' x := by
  have away : x ≠ loc := fun same => outer _ some (same.trans place)
  have before := stage.outside x outer
  rcases wrote.others x away with same | ⟨made, there', _⟩
  · unfold SameAt DirectoryAt at before ⊢
    rwa [same]
  · rcases around x made with there | ⟨⟨rest, rfl⟩, _⟩
    · exact Or.inr ⟨there, there'⟩
    · by_cases top : rest = []
      · subst top
        rw [List.append_nil] at there' ⊢
        exact Or.inr ⟨start, there'⟩
      · exact absurd rfl (outer rest top)

theorem directories_written {names rest : List Text} (some : names ≠ [])
    (place : loc = out ++ names) (more : rest ≠ []) (there : t'.DirectoryAt (out ++ rest)) :
    t₀.DirectoryAt (out ++ rest) ∨
      ∃ x b, writtenAlso written loc content x b ∧ out ++ rest <+: x ∧ out ++ rest ≠ x := by
  have also : ∀ x b, written x b → ∃ b', writtenAlso written loc content x b' := by
    intro x b old
    by_cases here : x = loc
    · exact ⟨content, Or.inl ⟨here, rfl⟩⟩
    · exact ⟨b, Or.inr ⟨here, old⟩⟩
  have away : out ++ rest ≠ loc := by
    intro here
    obtain ⟨m, there⟩ := there
    rw [here, file_written stage wrote some place] at there
    cases there
  rcases wrote.others _ away with same | ⟨made, _, _⟩
  · have before : t.DirectoryAt (out ++ rest) := by
      unfold DirectoryAt at there ⊢
      rwa [same] at there
    rcases stage.directories rest more before with start | ⟨x, b, old, up, apart⟩
    · exact Or.inl start
    · obtain ⟨b', new⟩ := also x b old
      exact Or.inr ⟨x, b', new, up, apart⟩
  · rcases around _ made with start | ⟨_, up, apart⟩
    · exact Or.inl start
    · exact Or.inr ⟨loc, content, Or.inl ⟨rfl, rfl⟩, up, apart⟩

end Step

theorem write (stage : Stage t₀ (root.leadFrom []) written t)
    (made : ∀ x ∈ Path.stops [] root, t₀.DirectoryAt x) {names : List Text} (some : names ≠ [])
    {content : Bytes} {u : Unit}
    (done : writeFile t (root ++ Path.ofNames names) content = (t', .ok u)) :
    ¬ t₀.DirectoryAt (root.leadFrom [] ++ names) ∧
      Stage t₀ (root.leadFrom []) (writtenAlso written (root.leadFrom [] ++ names) content) t' := by
  have split := List.dropLast_concat_getLast some
  have path : Path.ofNames names.dropLast ++ [.name (names.getLast some)] = Path.ofNames names := by
    have := congrArg Path.ofNames split
    rwa [Path.ofNames, List.map_append] at this
  rw [← path, ← List.append_assoc] at done
  have wrote := wrote_writeFile stage.linkFree done
  rw [Path.leadFrom_append, Path.leadFrom_ofNames, List.append_assoc, split] at wrote
  have around : ∀ x ∈ Path.stops [] (root ++ Path.ofNames names.dropLast), t₀.DirectoryAt x ∨
      (root.leadFrom [] <+: x ∧ x <+: root.leadFrom [] ++ names ∧
        x ≠ root.leadFrom [] ++ names) := by
    intro x stop
    rcases Path.mem_stops_append.mp stop with early | late
    · exact Or.inl (made x early)
    · obtain ⟨down, up⟩ := Path.mem_stops_ofNames.mp late
      have short : names.dropLast.length < names.length := by
        have := List.length_pos_iff.mpr some
        rw [List.length_dropLast]
        omega
      refine Or.inr ⟨down, up.trans ?_, ?_⟩
      · exact (List.prefix_append_right_inj _).mpr (List.dropLast_prefix names)
      · rintro rfl
        have := up.length_le
        simp only [List.length_append] at this
        omega
  have free := fun there => wrote.free (stage.kept (root.leadFrom [] ++ names) there)
  exact ⟨free, wrote.now.trans stage.now, wrote.linkFree, kept_written stage wrote,
    outside_written stage wrote around some rfl (made _ (Path.leadFrom_mem_stops [] root)),
    fun rest more e plain => files_written stage wrote some rfl more plain,
    fun rest more there => directories_written stage wrote around some rfl more there⟩

end Stage

/-- The files that documents write. -/
def writtenBy (c : Config) (references : References) (t : FileTree) (tasks : List Task)
    (loc : Location) (content : Bytes) : Prop :=
  ∃ task ∈ tasks, Writes c references t task loc content

/-- No place where one document writes is, or is above, one where the other writes. -/
def Unrelated (x y : Task) : Prop :=
  ∀ a ∈ x.document.places, ∀ b ∈ y.document.places, ¬ a <+: b ∧ ¬ b <+: a

/-- A source that is not below the output root, nor is anything on the way to it. -/
def SourceOutside (out : Location) (task : Task) : Prop :=
  ∃ loc, task.document.source = Path.absolute loc ∧ ∀ rest, rest ≠ [] → ¬ out ++ rest <+: loc

section Tasks
variable {c : Config} {references : References} {t₀ t t' : FileTree} {done : List Task}
  {task : Task}

theorem Writes.place {loc : Location} {content : Bytes}
    (writes : Writes c references t task loc content) : loc ∈ task.document.places := by
  obtain ⟨_, _, _, ⟨shared, rfl, _⟩ | ⟨_, rfl, _⟩⟩ := writes
  · simp [Document.places, shared]
  · exact task.document.output_mem_places

theorem not_writtenBy (apart : ∀ x ∈ done, Unrelated x task) {loc : Location}
    (place : loc ∈ task.document.places) (content : Bytes) :
    ¬ writtenBy c references t done loc content := by
  rintro ⟨x, member, writes⟩
  exact (apart x member loc writes.place loc place).1 (List.prefix_refl loc)

theorem read_stage {out : Location} {written : Location → Bytes → Prop} (linkFree : t₀.LinkFree)
    (stage : Stage t₀ out written t) (source : SourceOutside out task) :
    t.read [] task.document.source = t₀.read [] task.document.source := by
  obtain ⟨loc, path, away⟩ := source
  rw [path]
  refine read_congr linkFree stage.linkFree fun x stop => stage.outside x ?_
  rintro rest more rfl
  rcases Path.mem_stops_absolute.mp stop with top | front
  · simp [more] at top
  · exact away rest more front

theorem writtenBy_concat (loc : Location) (content : Bytes) :
    writtenBy c references t (done ++ [task]) loc content ↔
      writtenBy c references t done loc content ∨ Writes c references t task loc content := by
  simp [writtenBy, or_and_right, exists_or]

theorem Stage.silent {out : Location} (stage : Stage t₀ out (writtenBy c references t₀ done) t)
    (nothing : ∀ loc content, ¬ Writes c references t₀ task loc content) :
    Stage t₀ out (writtenBy c references t₀ (done ++ [task])) t :=
  stage.congr fun loc content => by simp [writtenBy_concat, nothing]

theorem exists_of_modified? {p : Path} {m : Nat} (linkFree : t.LinkFree)
    (found : t.modified? p = some m) : (t.get? (p.leadFrom [])).isSome := by
  unfold FileTree.modified? entryAt at found
  cases place : t.locate [] p with
  | error cause => simp [place, bind, Except.bind] at found
  | ok loc =>
    obtain rfl := locate_lead linkFree place
    cases here : t.get? (p.leadFrom []) with
    | none => simp [place, here, bind, Except.bind] at found
    | some e => rfl

theorem Stage.fresh (stage : Stage t₀ (c.outputRoot.leadFrom []) (writtenBy c references t₀ done) t)
    (laid : task.document.Laid c.outputRoot) (apart : ∀ x ∈ done, Unrelated x task)
    (fresh : isStale t c.force task.document = false) :
    t₀.DirectoryAt (task.document.output.leadFrom []) := by
  have there : (t.get? (task.document.output.leadFrom [])).isSome := by
    simp only [isStale, Bool.or_eq_false_iff] at fresh
    obtain ⟨_, fresh⟩ := fresh
    cases time : t.modified? task.document.output with
    | none => simp [time] at fresh
    | some m => exact exists_of_modified? stage.linkFree time
  have place := laid.output_lead
  have own := task.document.output_mem_places
  obtain ⟨e, here⟩ := Option.isSome_iff_exists.mp there
  rw [place] at here own ⊢
  cases kind : e.isDirectory with
  | false =>
    obtain ⟨content, written, _⟩ := (stage.files _ laid.pagePlace_ne_nil e kind).mp here
    exact absurd written (not_writtenBy apart own content)
  | true =>
    have directory : t.DirectoryAt (c.outputRoot.leadFrom [] ++ task.document.pagePlace) := by
      rw [← directory_any, here]
      simpa using kind
    rcases stage.directories _ laid.pagePlace_ne_nil directory with
      start | ⟨x, b, ⟨other, member, writes⟩, up, _⟩
    · exact start
    · exact absurd up (apart other member x writes.place _ own).2

theorem Stage.copied {written : Location → Bytes → Prop}
    (stage : Stage t₀ (c.outputRoot.leadFrom []) written t)
    (made : ∀ x ∈ Path.stops [] c.outputRoot, t₀.DirectoryAt x)
    (laid : task.document.Laid c.outputRoot) (shared : task.document.sharesSource = true)
    {source : Bytes} (readable : t.read [] task.document.source = .ok source) {u : Unit}
    (done : publishCopy t task.document = (t', .ok u)) :
    ¬ t₀.DirectoryAt (task.document.copy.leadFrom []) ∧
      Stage t₀ (c.outputRoot.leadFrom [])
        (writtenAlso written (task.document.copy.leadFrom []) source) t' := by
  unfold publishCopy at done
  rw [if_pos shared, readable, laid.copy] at done
  rw [laid.copy_lead]
  exact stage.write made (by simp) done

theorem writes_iff (free : ¬ t.DirectoryAt (task.document.output.leadFrom [])) {source : Bytes}
    (readable : t.read [] task.document.source = .ok source) (loc : Location) (content : Bytes) :
    Writes c references t task loc content ↔
      (task.document.sharesSource = true ∧ loc = task.document.copy.leadFrom [] ∧
          content = source) ∨
        (task.document.kind.isBinary = false ∧ loc = task.document.output.leadFrom [] ∧
          content = pageBytes c references task source) := by
  simp [Writes, free, readable]

theorem read_of_publishCopy {d : Document} (shared : d.sharesSource = true) {u : Unit}
    (done : publishCopy t d = (t', .ok u)) : ∃ source, t.read [] d.source = .ok source := by
  unfold publishCopy at done
  rw [if_pos shared] at done
  cases read : t.read [] d.source with
  | error cause => simp [read] at done
  | ok source => exact ⟨source, rfl⟩

section Published
variable (stage : Stage t₀ (c.outputRoot.leadFrom []) (writtenBy c references t₀ done) t)
  (made : ∀ x ∈ Path.stops [] c.outputRoot, t₀.DirectoryAt x) (linkFree : t₀.LinkFree)
  (laid : task.document.Laid c.outputRoot)
  (outside : SourceOutside (c.outputRoot.leadFrom []) task)
  (apart : ∀ x ∈ done, Unrelated x task)
include stage made linkFree laid outside apart

theorem Stage.published_copy (binary : task.document.kind.isBinary = true)
    (copied : publishCopy t task.document = (t', .ok ())) :
    Stage t₀ (c.outputRoot.leadFrom []) (writtenBy c references t₀ (done ++ [task])) t' := by
  have shared := laid.shared binary
  have output : task.document.output = task.document.copy := by rw [laid.output, if_pos binary]
  obtain ⟨source, readable⟩ := read_of_publishCopy shared copied
  obtain ⟨free, after⟩ := stage.copied made laid shared readable copied
  rw [read_stage linkFree stage outside] at readable
  refine after.congr fun loc content => ?_
  rw [writtenBy_concat, writes_iff (output ▸ free) readable, writtenAlso]
  have old : writtenBy c references t₀ done loc content → loc ∉ task.document.places :=
    fun written place => not_writtenBy apart place content written
  have copy := Document.copy_mem_places shared
  grind

theorem Stage.published_page (parsed : task.document.kind.isBinary = false) {source : Bytes}
    {middle : FileTree} (readable : t.read [] task.document.source = .ok source)
    (copied : publishCopy t task.document = (middle, .ok ()))
    (written : writeFile middle task.document.output (pageBytes c references task source) =
      (t', .ok ())) :
    Stage t₀ (c.outputRoot.leadFrom []) (writtenBy c references t₀ (done ++ [task])) t' := by
  rw [laid.page] at written
  have different := laid.copy_ne_output parsed
  have earlier : ∀ loc content, writtenBy c references t₀ done loc content →
      loc ∉ task.document.places := fun loc content written place =>
    not_writtenBy apart place content written
  have page := task.document.output_mem_places
  have same := read_stage linkFree stage outside
  -- a shared source is written first, and its copy is not in the place of the page
  cases shared : task.document.sharesSource with
  | false =>
    have still : middle = t := by
      simp only [publishCopy, shared, Bool.false_eq_true, ↓reduceIte, Prod.mk.injEq] at copied
      exact copied.1.symm
    rw [still] at written
    obtain ⟨free, after⟩ := stage.write made laid.pagePlace_ne_nil written
    rw [← laid.output_lead] at free after
    rw [same] at readable
    refine after.congr fun loc content => ?_
    rw [writtenBy_concat, writes_iff free readable, writtenAlso]
    have old := earlier loc content
    grind
  | true =>
    have copy := Document.copy_mem_places shared
    obtain ⟨_, between⟩ := stage.copied made laid shared readable copied
    obtain ⟨free, after⟩ := between.write made laid.pagePlace_ne_nil written
    rw [← laid.output_lead] at free after
    rw [same] at readable
    refine after.congr fun loc content => ?_
    rw [writtenBy_concat, writes_iff free readable, writtenAlso, writtenAlso]
    have old := earlier loc content
    grind

theorem Stage.published (publishes : Publishes c references task t t') :
    Stage t₀ (c.outputRoot.leadFrom []) (writtenBy c references t₀ (done ++ [task])) t' := by
  unfold Publishes at publishes
  split at publishes
  · rename_i binary
    exact stage.published_copy made linkFree laid outside apart binary publishes
  · rename_i parsed
    obtain ⟨source, middle, readable, copied, written⟩ := publishes
    exact stage.published_page made linkFree laid outside apart (by simpa using parsed) readable
      copied written

end Published

theorem Stage.unreadable {out : Location}
    (stage : Stage t₀ out (writtenBy c references t₀ done) t) (linkFree : t₀.LinkFree)
    (outside : SourceOutside out task) (missing : listed? t task = none) :
    Stage t₀ out (writtenBy c references t₀ (done ++ [task])) t := by
  refine stage.silent ?_
  rintro loc content ⟨_, source, readable, _⟩
  rw [← read_stage linkFree stage outside] at readable
  unfold listed? at missing
  split at missing
  · cases missing
  · simp [readable] at missing

theorem Stage.run (made : ∀ x ∈ Path.stops [] c.outputRoot, t₀.DirectoryAt x)
    (linkFree : t₀.LinkFree) (later : List Task)
    (laid : ∀ task ∈ later, task.document.Laid c.outputRoot)
    (outside : ∀ task ∈ later, SourceOutside (c.outputRoot.leadFrom []) task)
    (apart : (done ++ later).Pairwise Unrelated)
    (stage : Stage t₀ (c.outputRoot.leadFrom []) (writtenBy c references t₀ done) t) {r r' : Report}
    (worked : buildTasks c references t r later = (t', .ok r')) :
    Stage t₀ (c.outputRoot.leadFrom []) (writtenBy c references t₀ (done ++ later)) t' := by
  induction later generalizing done t r with
  | nil =>
    simp only [buildTasks, Prod.mk.injEq] at worked
    obtain ⟨rfl, _⟩ := worked
    rwa [List.append_nil]
  | cons task rest ih =>
    have first := laid task (by simp)
    have away := outside task (by simp)
    have split : done ++ task :: rest = (done ++ [task]) ++ rest := by simp
    have before : ∀ x ∈ done, Unrelated x task := fun x member =>
      (List.pairwise_append.mp apart).2.2 x member task (by simp)
    rw [split] at apart ⊢
    have next := fun {t₁ r₁} => ih (fun x member => laid x (List.mem_cons_of_mem task member))
      (fun x member => outside x (List.mem_cons_of_mem task member)) apart (t := t₁) (r := r₁)
    rcases buildTasks_cons_ok worked with
      ⟨missing, further⟩ | ⟨d, _, fresh, further⟩ | ⟨d, t₁, _, _, publishes, further⟩
    · exact next (stage.unreadable linkFree away missing) further
    · refine next (stage.silent fun loc content writes => ?_) further
      exact writes.1 (stage.fresh first before fresh)
    · exact next (stage.published made linkFree first away before publishes) further

end Tasks

section Whole
variable {t final : FileTree} {c : Config} {sets : List GroupDocuments} {r : Report}
  (sound : t.Sound) (linkFree : t.LinkFree) (vacant : t.Vacant (c.outputRoot.leadFrom []))

include linkFree vacant in
theorem stage_start (references : References) :
    Stage (t.makeDirectories c.outputRoot).1 (c.outputRoot.leadFrom [])
      (writtenBy c references (t.makeDirectories c.outputRoot).1 [])
      (t.makeDirectories c.outputRoot).1 := by
  have frame := furnished_makeDirectories linkFree c.outputRoot
  refine ⟨rfl, frame.linkFree linkFree, fun _ there => there, fun _ _ => Or.inl rfl, ?_,
    fun _ _ there => Or.inl there⟩
  intro rest more e plain
  have empty := vacant rest more
  rw [frame.file_iff plain, empty]
  simp [writtenBy]

include sound linkFree vacant in
theorem source_outside (found : discoveredBy t c = .ok sets) {task : Task}
    (member : task ∈ tasksOf sets) : SourceOutside (c.outputRoot.leadFrom []) task := by
  have grown := grown_makeDirectories (fun _ => False) c.outputRoot sound linkFree
  obtain ⟨p, source, _, e, here, file⟩ := tasks_laid grown.sound grown.linkFree found member
  rw [grown.file_iff not_false file] at here
  refine ⟨p, source, ?_⟩
  rintro rest more ⟨further, rfl⟩
  rw [List.append_assoc, vacant (rest ++ further) (by simp [more])] at here
  cases here

include sound linkFree vacant in
theorem files_of_build (found : discoveredBy t c = .ok sets)
    (apart : (tasksOf sets).Pairwise Unrelated) (done : build t c = (final, .ok r))
    {rest : List Text} (more : rest ≠ []) {e : Entry} (plain : e.isDirectory = false) :
    final.get? (c.outputRoot.leadFrom [] ++ rest) = some e ↔
      ∃ content, writtenBy c (referencesOf sets) (t.makeDirectories c.outputRoot).1 (tasksOf sets)
        (c.outputRoot.leadFrom [] ++ rest) content ∧ e = .file content t.now := by
  have frame := furnished_makeDirectories linkFree c.outputRoot
  have grown := grown_makeDirectories (fun _ => False) c.outputRoot sound linkFree
  have start := stage_start linkFree vacant (referencesOf sets)
  have outside : ∀ task ∈ tasksOf sets, SourceOutside (c.outputRoot.leadFrom []) task :=
    fun _ member => source_outside sound linkFree vacant found member
  obtain ⟨t₀, sets', r₀, made, found', worked, _⟩ := build_ok done
  have stops := makeDirectories_stops sound linkFree made
  unfold discoveredBy at found
  rw [made] at found start frame grown ⊢
  cases found'.symm.trans found
  have stage := start.run stops grown.linkFree (tasksOf sets)
    (fun task member => (tasks_laid grown.sound grown.linkFree found member).elim fun _ h => h.2.1)
    outside apart worked
  have now : t₀.now = t.now := frame.now
  rw [stage.files rest more e plain, List.nil_append, now]

end Whole
end PodSite.Site
