import PodSite.Proofs.Files.Alike
import PodSite.Proofs.Site.Places

/-!
Excluding files is the same as deleting them. The two builds, one with the patterns and one without
the files, find the same documents; from then on they go in step, as no path they follow passes a
deleted file.
-/
namespace PodSite

def Config.withoutPatterns (c : Config) : Config := { c with exclude := [] }

@[simp] theorem Config.isExcluded_withoutPatterns (c : Config) (relative : Text) :
    c.withoutPatterns.isExcluded relative = false := rfl

namespace Site
open FileTree

section Lockstep
variable {gone : Location → Prop} {out : Location} {t t' : FileTree}

/-- The paths of a document pass none of the locations `gone`, and its page is below `out`. -/
structure Clear (gone : Location → Prop) (out : Location) (d : Document) : Prop where
  source : ∀ x ∈ Path.stops [] d.source, ¬ gone x
  copy : ∀ x ∈ Path.stops [] d.copy, ¬ gone x
  output : ∀ x ∈ Path.stops [] d.output, ¬ gone x
  page : ∃ rest, rest ≠ [] ∧ d.output.leadFrom [] = out ++ rest

theorem agree_writeFile (alike : Alike gone out t t') {p : Path}
    (clear : ∀ x ∈ Path.stops [] p, ¬ gone x) (content : Bytes) :
    Agree gone out (writeFile t p content) (writeFile t' p content) := by
  have made := alike.makeDirectories fun x member => clear x (Path.stops_dropLast member)
  obtain ⟨t₁, t₁', result, here, there, alike₁⟩ := made.parts
  unfold writeFile
  rw [here, there]
  cases result with
  | error cause => exact ⟨alike₁, rfl⟩
  | ok u =>
    obtain ⟨t₂, t₂', result, here, there, alike₂⟩ := (alike₁.write clear content).parts
    simp only [here, there]
    cases result with
    | error cause => exact ⟨alike₂, rfl⟩
    | ok u => exact ⟨alike₂, rfl⟩

theorem agree_publishCopy (alike : Alike gone out t t') {d : Document} (clear : Clear gone out d) :
    Agree gone out (publishCopy t d) (publishCopy t' d) := by
  unfold publishCopy
  rw [alike.read clear.source]
  split
  · split
    · exact ⟨alike, rfl⟩
    · exact agree_writeFile alike clear.copy _
  · exact ⟨alike, rfl⟩

theorem isStale_alike (alike : Alike gone out t t') {d : Document} (clear : Clear gone out d)
    (force : Bool) : isStale t' force d = isStale t force d := by
  obtain ⟨rest, more, leads⟩ := clear.page
  unfold isStale
  rw [alike.modified? clear.output leads more]

theorem agree_buildDocument (alike : Alike gone out t t') {d : Document} (clear : Clear gone out d)
    (c : Config) (references : References) (g : Group) :
    Agree gone out (buildDocument t c references g d) (buildDocument t' c references g d) := by
  obtain ⟨t₁, t₁', result, here, there, alike₁⟩ := (agree_publishCopy alike clear).parts
  unfold buildDocument buildBinary buildPage
  rw [isStale_alike alike clear, alike.read clear.source, here, there]
  split
  · split
    · cases result with
      | error e => exact ⟨alike₁, rfl⟩
      | ok u => exact ⟨alike₁, rfl⟩
    · exact ⟨alike, rfl⟩
  · cases t.read [] d.source with
    | error cause => exact ⟨alike, rfl⟩
    | ok content =>
      simp only
      split
      · cases result with
        | error e => exact ⟨alike₁, rfl⟩
        | ok u =>
          have written := agree_writeFile alike₁ clear.output (Text.Utf8.encode
            (Page.render g d references c.project (Text.Utf8.decodeLossy content)).2)
          obtain ⟨t₂, t₂', result, here, there, alike₂⟩ := written.parts
          simp only [here, there]
          cases result with
          | error e => exact ⟨alike₂, rfl⟩
          | ok u => exact ⟨alike₂, rfl⟩
      · exact ⟨alike, rfl⟩

theorem agree_buildTasks (c : Config) (references : References) (tasks : List Task)
    (clear : ∀ task ∈ tasks, Clear gone out task.document) (alike : Alike gone out t t')
    (r : Report) :
    Agree gone out (buildTasks c references t r tasks) (buildTasks c references t' r tasks) := by
  induction tasks generalizing t t' r with
  | nil => exact ⟨alike, rfl⟩
  | cons task rest ih =>
    have step := agree_buildDocument alike (clear task (by simp)) c references task.group
    have later := fun x (member : x ∈ rest) => clear x (List.mem_cons_of_mem task member)
    obtain ⟨t₁, t₁', outcome, here, there, alike₁⟩ := step.parts
    rw [buildTasks, buildTasks, here, there]
    cases outcome with
    | failed e => exact ⟨alike₁, rfl⟩
    | unreadable => exact ih later alike₁ _
    | fresh d => exact ih later alike₁ _
    | published d => exact ih later alike₁ _

end Lockstep

/-- A file that the patterns leave out: it belongs to some group, and its path below some library
root matches. -/
def Excluded (c : Config) (t : FileTree) (loc : Location) : Prop :=
  FileAt t loc ∧ (Group.owner? c.groups (Path.absolute loc)).isSome ∧
    ∃ root ∈ c.libraryRoots, ∃ names, loc = root ++ names ∧
      c.isExcluded (Document.slashed names) = true

theorem Excluded.inside {c : Config} {t : FileTree} {loc : Location} (excluded : Excluded c t loc) :
    ∃ root ∈ c.libraryRoots, root <+: loc := by
  obtain ⟨_, _, root, listed, names, rfl, _⟩ := excluded
  exact ⟨root, listed, List.prefix_append root names⟩

instance (c : Config) (t : FileTree) : DecidablePred (Excluded c t) := fun loc =>
  decidable_of_iff
    ((t.get? loc).any Entry.isFile = true ∧
      (Group.owner? c.groups (Path.absolute loc)).isSome ∧
      ∃ root ∈ c.libraryRoots, root <+: loc ∧
        c.isExcluded (Document.slashed (loc.drop root.length)) = true)
    (by
      unfold Excluded FileAt
      rw [Option.any_eq_true]
      refine and_congr Iff.rfl (and_congr Iff.rfl (exists_congr fun root => and_congr Iff.rfl ?_))
      constructor
      · rintro ⟨⟨names, rfl⟩, matched⟩
        exact ⟨names, rfl, by simpa using matched⟩
      · rintro ⟨names, rfl, matched⟩
        exact ⟨List.prefix_append root names, by simpa using matched⟩)

/-- The second tree is the first without the files `gone`; the directories around them may have got
other times. -/
structure Removed (gone : Location → Prop) (t t' : FileTree) : Prop where
  now : t'.now = t.now
  sound : t'.Sound
  missing : ∀ loc, gone loc → t'.get? loc = none
  kept : ∀ loc, ¬ gone loc → SameAt t t' loc

def Unnested (c : Config) : Prop :=
  ∀ r ∈ c.libraryRoots, ∀ s ∈ c.libraryRoots, r <+: s → r = s

def withoutExcluded (c : Config) (t : FileTree) : FileTree :=
  { t with entries := t.entries.filter fun pair => ¬ Excluded c t pair.1 }

theorem lookup_filter (keep : Location → Bool) (entries : List (Location × Entry))
    (loc : Location) :
    (entries.filter fun pair => keep pair.1).lookup loc =
      if keep loc then entries.lookup loc else none := by
  induction entries with
  | nil => simp
  | cons pair rest ih =>
    obtain ⟨p, e⟩ := pair
    by_cases here : loc = p
    · subst here
      cases kept : keep loc with
      | false => simpa [kept] using ih
      | true => simp [kept]
    · have off : (loc == p) = false := beq_eq_false_iff_ne.mpr here
      cases kept : keep p with
      | false => simpa [kept, List.lookup_cons, off] using ih
      | true => simpa [kept, List.lookup_cons, off] using ih

theorem removed_withoutExcluded (c : Config) {t : FileTree} (sound : t.Sound) :
    Removed (Excluded c t) t (withoutExcluded c t) := by
  have entry : ∀ loc, (withoutExcluded c t).get? loc =
      if Excluded c t loc then none else t.get? loc := by
    intro loc
    by_cases top : loc = []
    · subst top
      have stays : ¬ Excluded c t [] := fun excluded => excluded.1.inside rfl
      rw [if_neg stays]
      rfl
    · unfold withoutExcluded get?
      rw [if_neg top, if_neg top, lookup_filter fun loc => ¬ Excluded c t loc]
      by_cases lost : Excluded c t loc <;> simp [lost]
  have kept : ∀ loc, ¬ Excluded c t loc → (withoutExcluded c t).get? loc = t.get? loc :=
    fun loc stays => by rw [entry, if_neg stays]
  refine ⟨rfl, ⟨?_, ?_⟩, fun loc lost => by rw [entry, if_pos lost],
    fun loc stays => Or.inl (kept loc stays)⟩
  · exact (sound.distinct).sublist (List.filter_sublist.map _)
  · intro loc n e found
    have before : t.get? (loc ++ [n]) = some e := by
      rw [entry] at found
      split at found
      · cases found
      · exact found
    obtain ⟨m, house⟩ := sound.housed before
    have stays : ¬ Excluded c t loc := by
      rintro ⟨⟨e', here, file⟩, _⟩
      cases house.symm.trans here
      simp [Entry.isFile] at file
    exact ⟨m, by rw [kept loc stays, house]⟩

section Removal
variable {gone : Location → Prop} {t t' : FileTree} (removed : Removed gone t t')
include removed

theorem Removed.linkFree (linkFree : t.LinkFree) : t'.LinkFree := by
  intro loc target found
  by_cases lost : gone loc
  · simp [removed.missing loc lost] at found
  · exact linkFree loc target (((removed.kept loc lost).file_iff rfl).mp found)

theorem Removed.file_iff {loc : Location} {e : Entry} (file : e.isFile = true) :
    t'.get? loc = some e ↔ t.get? loc = some e ∧ ¬ gone loc := by
  have plain : e.isDirectory = false := by
    cases e <;> simp [Entry.isFile, Entry.isDirectory] at file ⊢
  by_cases lost : gone loc
  · simp [removed.missing loc lost, lost]
  · rw [(removed.kept loc lost).file_iff plain]
    simp [lost]

end Removal

section Discovering
variable {c : Config} {t t' : FileTree}

theorem excluded_below (unnested : Unnested c) {root names : Location}
    (listed : root ∈ c.libraryRoots) (file : FileAt t (root ++ names))
    (owned : (Group.owner? c.groups (Path.absolute (root ++ names))).isSome) :
    Excluded c t (root ++ names) ↔ c.isExcluded (Document.slashed names) = true := by
  constructor
  · rintro ⟨_, _, other, listed', names', place, matched⟩
    have same : root = other := by
      have here : root <+: root ++ names := List.prefix_append root names
      have there : other <+: root ++ names := place ▸ List.prefix_append other names'
      rcases List.prefix_or_prefix_of_prefix here there with inside | inside
      · exact unnested root listed other listed' inside
      · exact (unnested other listed' root listed inside).symm
    subst same
    rwa [List.append_cancel_left place]
  · intro matched
    exact ⟨file, owned, root, listed, names, rfl, matched⟩

theorem documentOf?_withoutPatterns (unnested : Unnested c) {root : Location}
    (listed : root ∈ c.libraryRoots) {f : Found} (above : root <+: f.path)
    (file : FileAt t f.path) (stays : ¬ Excluded c t f.path) (index : Nat) (g : Group) :
    documentOf? c.withoutPatterns index g root f = documentOf? c index g root f := by
  obtain ⟨path, m⟩ := f
  obtain ⟨names, rfl⟩ := above
  rw [documentOf?_eq, documentOf?_eq, Config.isExcluded_withoutPatterns]
  by_cases owned : Group.owner? c.groups (Path.absolute (root ++ names)) = some index
  · have kept : c.isExcluded (Document.slashed names) = false := by
      rw [excluded_below unnested listed file (by simp [owned])] at stays
      simpa using stays
    rw [kept]
    rfl
  · rw [if_neg fun both => owned both.1, if_neg fun both => owned both.1]

theorem documentOf?_excluded (unnested : Unnested c) {root : Location}
    (listed : root ∈ c.libraryRoots) {f : Found} (above : root <+: f.path)
    (left_out : Excluded c t f.path) (index : Nat) (g : Group) :
    documentOf? c index g root f = none := by
  obtain ⟨path, m⟩ := f
  obtain ⟨names, rfl⟩ := above
  rw [documentOf?_eq, if_neg]
  rintro ⟨owned, kept⟩
  have matched := (excluded_below unnested listed left_out.1 (by simp [owned])).mp left_out
  simp [kept] at matched

variable (sound : t.Sound) (linkFree : t.LinkFree) (removed : Removed (Excluded c t) t t')
include sound linkFree removed

theorem isDirectory_removed (root : Location) :
    t'.isDirectory [] (Path.absolute root) = t.isDirectory [] (Path.absolute root) := by
  rw [Bool.eq_iff_iff, isDirectory_absolute sound linkFree,
    isDirectory_absolute removed.sound (removed.linkFree linkFree)]
  refine and_congr_right fun _ => ?_
  by_cases lost : Excluded c t root
  · have missing : ¬ t'.DirectoryAt root := by
      rintro ⟨m, there⟩
      simp [removed.missing root lost] at there
    have file : ¬ t.DirectoryAt root := by
      rintro ⟨m, there⟩
      obtain ⟨e, here, file⟩ := lost.1
      cases there.symm.trans here
      simp [Entry.isFile] at file
    exact iff_of_false missing file
  · exact (removed.kept root lost).directory_iff

theorem walk_removed {root : Location} (there : t.isDirectory [] (Path.absolute root) = true)
    (pruned : List Text → Bool) :
    t'.walk pruned root = (t.walk pruned root).filter fun f => ¬ Excluded c t f.path := by
  have there' := (isDirectory_removed sound linkFree removed root).trans there
  have linkFree' := removed.linkFree linkFree
  refine sorted_unique Found.path (walk_sorted removed.sound linkFree' pruned root)
    ((walk_sorted sound linkFree pruned root).filter _) fun f => ?_
  rw [List.mem_filter, mem_walk removed.sound linkFree' pruned there',
    mem_walk sound linkFree pruned there, and_assoc]
  refine and_congr_right fun _ => ?_
  constructor
  · rintro ⟨e, here, file, time⟩
    obtain ⟨here, stays⟩ := (removed.file_iff file).mp here
    exact ⟨⟨e, here, file, time⟩, by simpa using stays⟩
  · rintro ⟨⟨e, here, file, time⟩, stays⟩
    exact ⟨e, (removed.file_iff file).mpr ⟨here, by simpa using stays⟩, file, time⟩

theorem documentsBelow_removed (unnested : Unnested c) {root : Location}
    (listed : root ∈ c.libraryRoots)
    (there : t.isDirectory [] (Path.absolute root) = true) (index : Nat) (g : Group) :
    documentsBelow t' c.withoutPatterns index g root = documentsBelow t c index g root := by
  have walked := walk_removed sound linkFree removed there (prunedFrom c root)
  have pruned : ∀ u, documentsBelow u c.withoutPatterns index g root =
      (u.walk (prunedFrom c root) root).filterMap (documentOf? c.withoutPatterns index g root) :=
    fun _ => rfl
  rw [pruned, walked, List.filterMap_filter]
  refine List.filterMap_congr fun f member => ?_
  obtain ⟨view, e, here, file, _⟩ := (mem_walk sound linkFree _ there f).mp member
  by_cases lost : Excluded c t f.path
  · rw [documentOf?_excluded unnested listed view.above lost]
    simp [lost]
  · rw [← documentOf?_withoutPatterns unnested listed view.above ⟨e, here, file⟩ lost]
    simp [lost]

theorem documentsOf_removed (unnested : Unnested c) (index : Nat) (g : Group)
    (roots : List Location) (listed : ∀ root ∈ roots, root ∈ c.libraryRoots)
    (known : List Document) :
    documentsOf t' c.withoutPatterns index g known roots = documentsOf t c index g known roots := by
  induction roots generalizing known with
  | nil => rfl
  | cons root roots ih =>
    have later := ih fun other member => listed other (List.mem_cons_of_mem root member)
    rw [documentsOf, documentsOf, isDirectory_removed sound linkFree removed root]
    split
    · rename_i there
      rw [documentsBelow_removed sound linkFree removed unnested (listed root (by simp)) there]
      exact later _
    · rfl

theorem discover_removed (unnested : Unnested c) :
    discover t' c.withoutPatterns = discover t c := by
  have sets : ∀ (groups : List Group) (index : Nat),
      discoverFrom t' c.withoutPatterns index groups = discoverFrom t c index groups := by
    intro groups
    induction groups with
    | nil => exact fun _ => rfl
    | cons g groups ih =>
      intro index
      have first := documentsOf_removed sound linkFree removed unnested index g c.libraryRoots
        (fun _ member => member) []
      rw [discoverFrom, discoverFrom, ih]
      simp only [Config.withoutPatterns] at first ⊢
      rw [first]
  exact sets c.groups 0

end Discovering

/-- The pages that module names refer to while a project is built. -/
def referencesBy (t : FileTree) (c : Config) : Except BuildError References :=
  (discoveredBy t c).map referencesOf

section Building
variable {c : Config} {t t' : FileTree} (linkFree : t.LinkFree)
  (removed : Removed (Excluded c t) t t')

theorem excluded_furnished {places : Location → Prop} (made : Furnished places t t')
    (loc : Location) : Excluded c t' loc ↔ Excluded c t loc := by
  have file : FileAt t' loc ↔ FileAt t loc := by
    refine exists_congr fun e => and_congr_left fun file => made.file_iff ?_
    cases e <;> simp [Entry.isFile, Entry.isDirectory] at file ⊢
  unfold Excluded
  rw [file]

include linkFree removed in
theorem alike_removed {out : Location} (vacant : t.Vacant out) :
    Alike (Excluded c t) out t t' where
  now := removed.now
  linkFree := linkFree
  linkFree' := removed.linkFree linkFree
  same := removed.kept
  below rest more := by
    have empty := vacant rest more
    have stays : ¬ Excluded c t (out ++ rest) := by
      rintro ⟨⟨e, here, _⟩, _⟩
      simp [empty] at here
    rcases removed.kept _ stays with equal | ⟨⟨m, there⟩, _⟩
    · exact equal
    · simp [empty] at there

section Started
variable {p : Path} (vacant : t.Vacant (p.leadFrom []))
  (clear : ∀ x ∈ Path.stops [] p, ¬ Excluded c t x)

include linkFree removed vacant clear in
theorem removed_makeDirectories :
    Removed (Excluded c (t.makeDirectories p).1) (t.makeDirectories p).1
      (t'.makeDirectories p).1 := by
  have linkFree' := removed.linkFree linkFree
  have made := furnished_makeDirectories linkFree p
  have made' := furnished_makeDirectories linkFree' p
  have alike := ((alike_removed linkFree removed vacant).makeDirectories clear).1
  refine ⟨alike.now, (grown_makeDirectories (fun _ => False) p removed.sound linkFree').sound,
    ?_, ?_⟩
  · intro loc lost
    rw [excluded_furnished made] at lost
    rcases made'.entries loc with same | ⟨stop, _⟩
    · rw [same, removed.missing loc lost]
    · exact absurd lost (clear loc stop)
  · intro loc stays
    rw [excluded_furnished made] at stays
    exact alike.same loc stays

include vacant clear in
theorem not_excluded_below {x : Location}
    (there : x ∈ Path.stops [] p ∨ p.leadFrom [] <+: x) : ¬ Excluded c t x := by
  rcases there with stop | ⟨rest, rfl⟩
  · exact clear x stop
  · by_cases top : rest = []
    · rw [top, List.append_nil]
      exact clear _ (Path.leadFrom_mem_stops [] p)
    · rintro ⟨⟨e, here, _⟩, _⟩
      simp [vacant rest top] at here

end Started

theorem stops_kept {gone : Location → Prop} {t t' : FileTree} (removed : Removed gone t t')
    {loc : Location} {e : Entry} (here : t'.get? loc = some e) :
    ∀ x ∈ Path.stops [] (Path.absolute loc), ¬ gone x := by
  intro x stop lost
  have missing := removed.missing x lost
  have front : x <+: loc := by
    rcases Path.mem_stops_absolute.mp stop with rfl | front
    · exact List.nil_prefix
    · exact front
  obtain ⟨rest, rfl⟩ := front
  by_cases last : rest = []
  · simp [last, missing] at here
  · obtain ⟨m, there⟩ := removed.sound.directory_above last here
    simp [missing] at there

theorem buildTasks_withoutPatterns (c : Config) (references : References) (tasks : List Task)
    (t : FileTree) (r : Report) :
    buildTasks c.withoutPatterns references t r tasks = buildTasks c references t r tasks := by
  induction tasks generalizing t r with
  | nil => rfl
  | cons task rest ih =>
    rw [buildTasks, buildTasks]
    simp only [ih]
    rfl

end Building

section Whole
variable {c : Config} {t t' : FileTree} (sound : t.Sound) (linkFree : t.LinkFree)
  (unnested : Unnested c) (vacant : t.Vacant (c.outputRoot.leadFrom []))
  (clear : ∀ x ∈ Path.stops [] c.outputRoot, ¬ Excluded c t x)
  (removed : Removed (Excluded c t) t t')
include sound linkFree unnested vacant clear removed

theorem discoveredBy_removed : discoveredBy t' c.withoutPatterns = discoveredBy t c := by
  have removed₀ := removed_makeDirectories linkFree removed vacant clear
  have grown := grown_makeDirectories (fun _ => False) c.outputRoot sound linkFree
  exact discover_removed grown.sound grown.linkFree removed₀ unnested

theorem clear_document {sets : List GroupDocuments} (found : discoveredBy t c = .ok sets)
    {task : Task} (member : task ∈ tasksOf sets) :
    Clear (Excluded c t) (c.outputRoot.leadFrom []) task.document := by
  have made := furnished_makeDirectories linkFree c.outputRoot
  have removed₀ := removed_makeDirectories linkFree removed vacant clear
  have linkFree₀ := removed₀.linkFree (made.linkFree linkFree)
  rw [← discoveredBy_removed sound linkFree unnested vacant clear removed] at found
  obtain ⟨p, source, laid, e, here, _⟩ := tasks_laid removed₀.sound linkFree₀ found member
  refine ⟨?_, ?_, ?_, ?_⟩
  · intro x stop
    rw [source] at stop
    have stays := stops_kept removed₀ here x stop
    rwa [excluded_furnished made] at stays
  · intro x stop
    exact not_excluded_below vacant clear (laid.copy_stops stop)
  · intro x stop
    exact not_excluded_below vacant clear (laid.output_stops stop)
  · exact ⟨_, laid.pagePlace_ne_nil, laid.output_lead⟩

theorem agree_build :
    Agree (Excluded c t) (c.outputRoot.leadFrom []) (build t c) (build t' c.withoutPatterns) := by
  have found := discoveredBy_removed sound linkFree unnested vacant clear removed
  have clears : ∀ sets, discoveredBy t c = .ok sets → ∀ task ∈ tasksOf sets,
      Clear (Excluded c t) (c.outputRoot.leadFrom []) task.document := fun _ known _ member =>
    clear_document sound linkFree unnested vacant clear removed known member
  obtain ⟨t₀, t₀', result, here, there, alike₀⟩ :=
    ((alike_removed linkFree removed vacant).makeDirectories clear).parts
  have root : c.withoutPatterns.outputRoot = c.outputRoot := rfl
  unfold discoveredBy at found clears
  rw [root, here, there] at found
  rw [here] at clears
  unfold build
  rw [root, here, there]
  cases result with
  | error cause => exact ⟨alike₀, rfl⟩
  | ok u =>
    simp only [found]
    cases known : discover t₀ c with
    | error e => exact ⟨alike₀, rfl⟩
    | ok sets =>
      have worked := agree_buildTasks c (referencesOf sets) (tasksOf sets)
        (clears sets known) alike₀ ⟨[], 0, [], .initial c.groups⟩
      obtain ⟨t₁, t₁', result, here, there, alike₁⟩ := worked.parts
      simp only [buildSets_eq, buildTasks_withoutPatterns]
      rw [here, show c.withoutPatterns.groups = c.groups from rfl, there]
      cases result with
      | error e => exact ⟨alike₁, rfl⟩
      | ok r => exact ⟨alike₁, rfl⟩

end Whole

/-- Building with patterns has the same outcome, knows the same names and leaves the same below the
output root as building without them after the files they match are deleted. No such file stands on
the way to an output root that is outside of the library roots. -/
theorem build_excluding {t t' : FileTree} {c : Config} (sound : t.Sound) (linkFree : t.LinkFree)
    (unnested : Unnested c) (vacant : t.Vacant (c.outputRoot.leadFrom []))
    (clear : ∀ x ∈ Path.stops [] c.outputRoot, ¬ Excluded c t x)
    (removed : Removed (Excluded c t) t t') :
    (build t' c.withoutPatterns).2 = (build t c).2 ∧
      referencesBy t' c.withoutPatterns = referencesBy t c ∧
      ∀ rest, rest ≠ [] →
        (build t' c.withoutPatterns).1.get? (c.outputRoot.leadFrom [] ++ rest) =
          (build t c).1.get? (c.outputRoot.leadFrom [] ++ rest) := by
  have found := discoveredBy_removed sound linkFree unnested vacant clear removed
  have agree := agree_build sound linkFree unnested vacant clear removed
  exact ⟨agree.2, congrArg (Except.map referencesOf) found, agree.1.below⟩

def hiddenTree : FileTree :=
  ⟨[ (["l".toList], .directory 0),
    (["l".toList, "A.pm".toList], .file (Text.Utf8.encode "=pod\n\nL<B>".toList) 1),
    (["m".toList], .directory 0), (["m".toList, "B.pm".toList], .file [66] 1)], 5⟩

def hiddenConfig : Config :=
  ⟨Path.absolute ["o".toList], "/o".toList, [["l".toList], ["m".toList]],
    (Pattern.ofText? "^B".toList).toList, false, ⟨[], [], []⟩,
    [⟨"Modules".toList, .modules, ["pm".toList], .lines, true, none⟩]⟩

theorem build_excluding_module :
    Excluded hiddenConfig hiddenTree ["m".toList, "B.pm".toList] ∧
      (build hiddenTree hiddenConfig).2.isOk = true ∧
      (build (withoutExcluded hiddenConfig hiddenTree) hiddenConfig.withoutPatterns).2 =
        (build hiddenTree hiddenConfig).2 ∧
      referencesBy (withoutExcluded hiddenConfig hiddenTree) hiddenConfig.withoutPatterns =
        referencesBy hiddenTree hiddenConfig ∧
      ∀ rest, rest ≠ [] →
        (build (withoutExcluded hiddenConfig hiddenTree) hiddenConfig.withoutPatterns).1.get?
            ("o".toList :: rest) =
          (build hiddenTree hiddenConfig).1.get? ("o".toList :: rest) := by
  have sound : hiddenTree.Sound := sound_of_entries (by decide) (by decide)
  have linkFree : hiddenTree.LinkFree := linkFree_of_entries (by decide)
  have vacant : hiddenTree.Vacant ["o".toList] := vacant_of_missing sound (by decide)
  have outside : ∀ root ∈ hiddenConfig.libraryRoots,
      ∀ x ∈ Path.stops [] hiddenConfig.outputRoot, ¬ root <+: x := by decide
  have clear : ∀ x ∈ Path.stops [] hiddenConfig.outputRoot,
      ¬ Excluded hiddenConfig hiddenTree x := by
    intro x stop excluded
    obtain ⟨root, listed, inside⟩ := excluded.inside
    exact outside root listed x stop inside
  have unnested : Unnested hiddenConfig := by unfold Unnested; decide
  exact ⟨by decide +kernel, by decide +kernel, build_excluding sound linkFree unnested vacant clear
    (removed_withoutExcluded hiddenConfig sound)⟩

end Site
end PodSite
