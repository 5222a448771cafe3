import PodSite.Proofs.Files.Linked
import PodSite.Proofs.Files.Way

/-!
Paths that go on below a root whose stops are all directories, in trees without links. Following
such a path, and making its directories, starts where the root leads; so what happens below the root
depends only on what stands there.
-/
namespace PodSite

theorem Path.ofNames_concat {names : List Text} (some : names ≠ []) :
    ofNames names = ofNames names.dropLast ++ [.name (names.getLast some)] := by
  have split := congrArg ofNames (List.dropLast_concat_getLast some)
  rw [← split, ofNames, ofNames, List.map_append]
  rfl

namespace FileTree

/-- Directories stand at all stops of a path, and none of its names is too long. -/
structure Opens (t : FileTree) (loc : Location) (p : Path) : Prop where
  stops : ∀ x ∈ Path.stops loc p, t.DirectoryAt x
  short : ∀ n, .name n ∈ p → ¬ maxName < Text.byteCount n

namespace Opens
variable {t t' : FileTree} {loc : Location} {part : Component} {p : Path}

theorem start (opens : t.Opens loc p) : t.DirectoryAt loc :=
  opens.stops loc (Path.head_mem_stops loc p)

theorem lead (opens : t.Opens loc p) : t.DirectoryAt (p.leadFrom loc) :=
  opens.stops _ (Path.leadFrom_mem_stops loc p)

theorem tail (opens : t.Opens loc (part :: p)) : t.Opens (part.lead loc) p :=
  ⟨fun x member => opens.stops x (List.mem_cons_of_mem loc member),
    fun n member => opens.short n (List.mem_cons_of_mem part member)⟩

theorem later (opens : t.Opens loc p) (keeps : ∀ x, t.DirectoryAt x → t'.DirectoryAt x) :
    t'.Opens loc p :=
  ⟨fun x member => keeps x (opens.stops x member), opens.short⟩

end Opens

section Through
variable {t : FileTree} {root : Path} {loc : Location} (opens : t.Opens loc root) (rest : Path)
include opens

theorem followWith_through (create : Bool)
    (onLink : Location → Text → Path → Except FileError Location) :
    t.followWith create onLink loc (root ++ rest) =
      t.followWith create onLink (root.leadFrom loc) rest := by
  induction root generalizing loc with
  | nil => rfl
  | cons part root ih =>
    have inside := directory_any.mpr opens.start
    have next := ih opens.tail
    cases part with
    | root => exact next
    | current =>
      rw [List.cons_append, followWith, if_pos inside]
      exact next
    | parent =>
      rw [List.cons_append, followWith, if_pos inside]
      exact next
    | name n =>
      obtain ⟨m, here⟩ := opens.tail.start
      rw [List.cons_append, followWith_plain inside (opens.short n (by simp)) here rfl]
      exact next

theorem makeDirectoriesFrom_through :
    t.makeDirectoriesFrom loc (root ++ rest) = t.makeDirectoriesFrom (root.leadFrom loc) rest := by
  induction root generalizing loc with
  | nil => rfl
  | cons part root ih =>
    have next := ih opens.tail
    cases part with
    | root => exact next
    | current => exact next
    | parent => exact next
    | name n =>
      obtain ⟨m, here⟩ := opens.tail.start
      rw [Component.lead] at here
      rw [List.cons_append, makeDirectoriesFrom]
      simp only [if_neg (opens.short n (by simp)), here]
      exact next

end Through

section Made
variable {t t' : FileTree} (sound : t.Sound) (linkFree : t.LinkFree)

include linkFree in
theorem makeDirectoriesFrom_short (p : Path) {loc : Location} {u : Unit}
    (done : t.makeDirectoriesFrom loc p = (t', .ok u)) :
    ∀ n, .name n ∈ p → ¬ maxName < Text.byteCount n := by
  induction p generalizing t loc with
  | nil => simp
  | cons part rest ih =>
    intro n member
    cases part with
    | root => exact ih linkFree done n (by simpa using member)
    | current => exact ih linkFree done n (by simpa using member)
    | parent => exact ih linkFree done n (by simpa using member)
    | name m =>
      rw [makeDirectoriesFrom_name linkFree] at done
      split at done
      · cases done
      rename_i short
      rcases List.mem_cons.mp member with same | later
      · cases same
        exact short
      split at done
      · rename_i missing
        exact ih ((furnished_add (by simp) missing).linkFree linkFree) done n later
      split at done
      · exact ih linkFree done n later
      · cases done

include sound linkFree

theorem opens_of_made {p : Path} {u : Unit} (done : t.makeDirectories p = (t', .ok u)) :
    t'.Opens [] p := by
  refine ⟨makeDirectories_stops sound linkFree done, ?_⟩
  unfold makeDirectories at done
  split at done
  · cases done
  · exact makeDirectoriesFrom_short linkFree p done

theorem followWith_stops {onLink : Location → Text → Path → Except FileError Location} (p : Path)
    {loc found : Location} (start : (t.get? loc).isSome)
    (done : t.followWith false onLink loc p = .ok found) :
    ∀ x ∈ Path.stops loc p, (t.get? x).isSome := by
  induction p generalizing loc with
  | nil => simpa [Path.stops] using start
  | cons part rest ih =>
    refine List.forall_mem_cons.mpr ⟨start, ?_⟩
    cases part with
    | root => exact ih (by simp [Component.lead, get?]) done
    | current =>
      rw [followWith] at done
      split at done
      · exact ih start done
      · cases done
    | parent =>
      rw [followWith] at done
      split at done
      · rename_i inside
        obtain ⟨m, above⟩ := sound.directory_parent (directory_any.mp inside)
        exact ih (by simp [Component.lead, above]) done
      · cases done
    | name n =>
      rw [followWith_name linkFree] at done
      split at done
      swap
      · cases done
      split at done
      · cases done
      split at done
      · rename_i there
        exact ih there done
      · cases done

theorem locate_stops {p : Path} {found : Location} (done : t.locate [] p = .ok found) :
    ∀ x ∈ Path.stops [] p, (t.get? x).isSome := by
  obtain ⟨_, _, follows⟩ := locate_eq_ok.mp done
  exact followWith_stops sound linkFree p (by simp [get?]) follows

theorem makeDirectories_there {p rest : Path} {found : Location} {u : Unit}
    (done : t.makeDirectories p = (t', .ok u)) (there : t.locate [] (p ++ rest) = .ok found) :
    t' = t := by
  have made := opens_of_made sound linkFree done
  have frame := furnished_makeDirectories linkFree p
  have exist := locate_stops sound linkFree there
  rw [done] at frame
  have opens : t.Opens [] p := by
    refine ⟨fun x stop => ?_, made.short⟩
    rcases frame.entries x with same | ⟨_, _, missing | here⟩
    · have now := made.stops x stop
      unfold DirectoryAt at now ⊢
      rwa [same] at now
    · have := exist x (Path.mem_stops_append.mpr (Or.inl stop))
      simp [missing] at this
    · exact here
  unfold makeDirectories at done
  split at done
  · cases done
  · have through := makeDirectoriesFrom_through opens []
    rw [List.append_nil, done, makeDirectoriesFrom] at through
    exact congrArg Prod.fst through

end Made

section Below
variable {root : Path} {names : List Text} (some : names ≠ [])
include some

theorem locate_through {t : FileTree} (opens : t.Opens [] root) (sound : t.Sound)
    (linkFree : t.LinkFree) (found : Location) :
    t.locate [] (root ++ Path.ofNames names) = .ok found ↔
      found = root.leadFrom [] ++ names ∧ checkPath (root ++ Path.ofNames names) = .ok () ∧
        (∀ n ∈ names, Text.byteCount n ≤ maxName) ∧
        (t.get? (root.leadFrom [] ++ names)).isSome := by
  have start : (t.get? (root.leadFrom [])).isSome := by
    obtain ⟨m, here⟩ := opens.lead
    simp [here]
  have path : root ++ Path.ofNames names ≠ [] := by simp [Path.ofNames, some]
  have follows : t.follow false maxLinks [] (root ++ Path.ofNames names) = .ok found ↔
      found = root.leadFrom [] ++ names ∧ (∀ n ∈ names, Text.byteCount n ≤ maxName) ∧
        t.Reaches false (root.leadFrom []) names := by
    rw [maxLinks, follow, followWith_through opens, followWith_names sound linkFree _ _ _ _ _ start]
  rw [locate_eq_ok, follows]
  simp only [Reaches, Bool.false_eq_true, false_and, or_false]
  tauto

theorem modified?_through {t t' : FileTree} (opens : t.Opens [] root) (opens' : t'.Opens [] root)
    (sound : t.Sound) (linkFree : t.LinkFree) (sound' : t'.Sound) (linkFree' : t'.LinkFree)
    (same : t'.get? (root.leadFrom [] ++ names) = t.get? (root.leadFrom [] ++ names)) :
    t'.modified? (root ++ Path.ofNames names) = t.modified? (root ++ Path.ofNames names) := by
  have place : ∀ found, t'.locate [] (root ++ Path.ofNames names) = .ok found ↔
      t.locate [] (root ++ Path.ofNames names) = .ok found := by
    intro found
    rw [locate_through some opens sound linkFree, locate_through some opens' sound' linkFree', same]
  unfold modified? entryAt
  cases here : t.locate [] (root ++ Path.ofNames names) with
  | ok found =>
    obtain ⟨rfl, _⟩ := (locate_through some opens sound linkFree found).mp here
    simp only [(place _).mpr here, bind, Except.bind, same]
  | error cause =>
    cases there : t'.locate [] (root ++ Path.ofNames names) with
    | ok found => simp [(place found).mp there] at here
    | error cause' => rfl

end Below

theorem furnished_through {t : FileTree} (linkFree : t.LinkFree) {root : Path}
    (opens : t.Opens [] root) (names : List Text) :
    Furnished (· <+: root.leadFrom [] ++ names) t
      (t.makeDirectories (root ++ Path.ofNames names)).1 := by
  unfold makeDirectories
  split
  · exact .refl _ t
  · rw [makeDirectoriesFrom_through opens]
    refine (furnished_makeDirectoriesFrom (Path.ofNames names) linkFree _).mono ?_
    intro x stop
    exact (Path.mem_stops_ofNames.mp stop).2

/-- What writing at the given places leaves alone: everything but the directories around them, and
no file disappears or becomes unreadable. -/
structure Touched (places : Location → Prop) (t t' : FileTree) : Prop where
  keeps : Keeps t t'
  linkFree : t'.LinkFree
  readable : ∀ {x : Location}, (∃ content m, t.get? x = some (.file content m)) →
    ∃ content m, t'.get? x = some (.file content m)
  elsewhere : ∀ {x : Location}, (∀ y, places y → ¬ x <+: y) → t'.get? x = t.get? x

namespace Touched
variable {places : Location → Prop} {t t' t'' : FileTree}

theorem refl (sound : t.Sound) (linkFree : t.LinkFree) (places : Location → Prop) :
    Touched places t t :=
  ⟨.refl sound, linkFree, fun file => file, fun _ => rfl⟩

theorem trans (first : Touched places t t') (second : Touched places t' t'') :
    Touched places t t'' :=
  ⟨first.keeps.trans second.keeps, second.linkFree,
    fun file => second.readable (first.readable file),
    fun away => (second.elsewhere away).trans (first.elsewhere away)⟩

theorem of_wrote {loc : Location} {content : Bytes} (keeps : Keeps t t')
    (wrote : Wrote (· <+: loc) loc content t t') (place : places loc) : Touched places t t' where
  keeps := keeps
  linkFree := wrote.linkFree
  readable := by
    rintro x ⟨old, m, here⟩
    by_cases same : x = loc
    · subst same
      rcases wrote.file with new | ⟨m', unreadable⟩
      · exact ⟨content, t.now, new⟩
      · cases here.symm.trans unreadable
    · rcases wrote.others x same with equal | ⟨_, _, missing | ⟨m', directory⟩⟩
      · exact ⟨old, m, equal.trans here⟩
      · cases here.symm.trans missing
      · cases here.symm.trans directory
  elsewhere := by
    intro x away
    have apart := away loc place
    rcases wrote.others x (fun same => apart (same ▸ List.prefix_refl x)) with equal | ⟨above, _⟩
    · exact equal
    · exact absurd above apart

theorem read (touched : Touched places t t') {p : Path}
    (readable : ∃ content, t.read [] p = .ok content) : ∃ content, t'.read [] p = .ok content := by
  obtain ⟨content, readable⟩ := readable
  unfold FileTree.read at readable
  cases entry : t.entryAt [] p with
  | error cause => simp [entry, bind, Except.bind] at readable
  | ok e =>
    obtain ⟨loc, place, here⟩ := entryAt_eq_ok.mp entry
    have place' := locate_keeps touched.keeps place
    cases e with
    | file old m =>
      obtain ⟨new, m', there⟩ := touched.readable ⟨old, m, here⟩
      have entry' := entryAt_eq_ok.mpr ⟨loc, place', there⟩
      exact ⟨new, by simp [FileTree.read, entry', bind, Except.bind]⟩
    | _ => simp [entry, bind, Except.bind] at readable

end Touched

end FileTree
end PodSite
