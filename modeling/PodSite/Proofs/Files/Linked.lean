import PodSite.Proofs.Files.Walk
import PodSite.Proofs.OutputRoot

/-!
Trees with links. Where they lead is not said here, only that it does not change: as long as
directories stay directories, files stay files and links stay as they are, a path that leads
somewhere goes on leading there. Writing keeps to that, and changes one file at most.
-/
namespace PodSite

def Entry.Stays (old new : Entry) : Prop :=
  new = old ∨ (old.isDirectory = true ∧ new.isDirectory = true) ∨
    (old.isFile = true ∧ new.isFile = true)

namespace Entry.Stays
variable {old new newer : Entry}

theorem trans (first : old.Stays new) (second : new.Stays newer) : old.Stays newer := by
  rcases first with rfl | ⟨before, between⟩ | ⟨before, between⟩
  · exact second
  · rcases second with rfl | ⟨_, after⟩ | ⟨file, _⟩
    · exact Or.inr (Or.inl ⟨before, between⟩)
    · exact Or.inr (Or.inl ⟨before, after⟩)
    · cases new <;> simp [isFile, isDirectory] at file between
  · rcases second with rfl | ⟨directory, _⟩ | ⟨_, after⟩
    · exact Or.inr (Or.inr ⟨before, between⟩)
    · cases new <;> simp [isFile, isDirectory] at directory between
    · exact Or.inr (Or.inr ⟨before, after⟩)

theorem directory (stays : old.Stays new) (before : old.isDirectory = true) :
    new.isDirectory = true := by
  rcases stays with rfl | ⟨_, after⟩ | ⟨file, _⟩
  · exact before
  · exact after
  · cases old <;> simp [isFile, isDirectory] at file before

theorem file (stays : old.Stays new) (before : old.isFile = true) : new.isFile = true := by
  rcases stays with rfl | ⟨directory, _⟩ | ⟨_, after⟩
  · exact before
  · cases old <;> simp [isFile, isDirectory] at directory before
  · exact after

theorem link {target : Text} (stays : (Entry.link target).Stays new) : new = .link target := by
  rcases stays with rfl | ⟨directory, _⟩ | ⟨file, _⟩
  · rfl
  · cases directory
  · cases file

theorem noLink (stays : old.Stays new) (before : old.isLink = false) : new.isLink = false := by
  rcases stays with rfl | ⟨_, directory⟩ | ⟨_, file⟩
  · exact before
  · cases new <;> simp [isDirectory, isLink] at directory ⊢
  · cases new <;> simp [isFile, isLink] at file ⊢

end Entry.Stays

namespace FileTree

structure Keeps (t t' : FileTree) : Prop where
  sound : t'.Sound
  stays : ∀ {loc : Location} {old : Entry}, t.get? loc = some old →
    ∃ new, t'.get? loc = some new ∧ old.Stays new

namespace Keeps
variable {t t' t'' : FileTree}

theorem refl (sound : t.Sound) : Keeps t t := ⟨sound, fun found => ⟨_, found, Or.inl rfl⟩⟩

theorem trans (first : Keeps t t') (second : Keeps t' t'') : Keeps t t'' where
  sound := second.sound
  stays := by
    intro loc old found
    obtain ⟨new, between, one⟩ := first.stays found
    obtain ⟨newer, after, two⟩ := second.stays between
    exact ⟨newer, after, one.trans two⟩

theorem directory (keeps : Keeps t t') {loc : Location} (there : t.DirectoryAt loc) :
    t'.DirectoryAt loc := by
  obtain ⟨m, found⟩ := there
  obtain ⟨new, after, stays⟩ := keeps.stays found
  rw [← directory_any, after]
  exact stays.directory rfl

end Keeps

/-- A tree grows, and the files stay as they are but for those at the given locations. -/
structure Spared (places : Location → Prop) (t t' : FileTree) : Prop extends Keeps t t' where
  files : ∀ {loc : Location} {e : Entry}, ¬ places loc → e.isFile = true →
    t.get? loc = some e → t'.get? loc = some e
  unreadable : ∀ {loc : Location} {m : Nat}, t.get? loc = some (.unreadable m) →
    t'.get? loc = some (.unreadable m)

namespace Spared
variable {places more : Location → Prop} {t t' t'' : FileTree}

theorem refl (sound : t.Sound) (places : Location → Prop) : Spared places t t :=
  ⟨.refl sound, fun _ _ found => found, fun found => found⟩

theorem trans (first : Spared places t t') (second : Spared places t' t'') : Spared places t t'' :=
  ⟨first.toKeeps.trans second.toKeeps,
    fun away file found => second.files away file (first.files away file found),
    fun found => second.unreadable (first.unreadable found)⟩

theorem mono (spared : Spared places t t') (wider : ∀ loc, places loc → more loc) :
    Spared more t t' :=
  ⟨spared.toKeeps, fun away => spared.files fun here => away (wider _ here), spared.unreadable⟩

end Spared

theorem Sound.directory_parent {t : FileTree} (sound : t.Sound) {loc : Location}
    (there : t.DirectoryAt loc) : t.DirectoryAt loc.dropLast := by
  by_cases top : loc = []
  · subst top
    exact t.root_directory
  · obtain ⟨m, here⟩ := there
    rw [← List.dropLast_concat_getLast top] at here
    exact sound.housed here

section Adding
variable {t : FileTree} (sound : t.Sound) {places : Location → Prop} {loc : Location} {e : Entry}
include sound

theorem spared_put (below : loc ≠ []) (house : t.DirectoryAt loc.dropLast)
    (fits : ∀ old, t.get? loc = some old → old.Stays e)
    (own : e.isDirectory = true ∨ places loc)
    (readable : ∀ m, t.get? loc ≠ some (.unreadable m)) : Spared places t (t.put loc e) where
  sound := sound.put below house fun ⟨_, here⟩ => (fits _ here).directory rfl
  stays := by
    intro other old found
    rw [get?_put t loc other e below]
    split
    · rename_i same
      exact ⟨e, rfl, fits old (same ▸ found)⟩
    · exact ⟨old, found, Or.inl rfl⟩
  files := by
    intro other old away file found
    rw [get?_put t loc other e below]
    split
    · rename_i same
      subst same
      rcases own with directory | here
      · have file' := (fits old found).file file
        cases e <;> simp [Entry.isFile, Entry.isDirectory] at file' directory
      · exact absurd here away
    · exact found
  unreadable := by
    intro other m found
    rw [get?_put t loc other e below]
    split
    · rename_i same
      exact absurd (same ▸ found) (readable m)
    · exact found

theorem spared_stamp (places : Location → Prop) (loc : Location) :
    Spared places t (t.stamp loc) := by
  unfold stamp
  split
  · rename_i m found
    split
    · exact .refl sound places
    · rename_i below
      refine spared_put sound below (sound.directory_parent ⟨m, found⟩) ?_ (Or.inl rfl)
        (by simp [found])
      intro old here
      cases found.symm.trans here
      exact Or.inr (Or.inl ⟨rfl, rfl⟩)
  · exact .refl sound places

theorem spared_add (below : loc ≠ []) (house : t.DirectoryAt loc.dropLast)
    (fits : ∀ old, t.get? loc = some old → old.Stays e)
    (own : e.isDirectory = true ∨ places loc)
    (readable : ∀ m, t.get? loc ≠ some (.unreadable m)) : Spared places t (t.add loc e) := by
  have put := spared_put sound below house fits own readable
  unfold add
  split
  · exact put
  · exact put.trans (spared_stamp put.sound places _)

theorem spared_directory {n : Text} (inside : t.DirectoryAt loc)
    (missing : t.get? (loc ++ [n]) = none) :
    Spared places t (t.add (loc ++ [n]) (.directory t.now)) :=
  spared_add sound (by simp) (by simpa using inside) (fun old there => by simp [missing] at there)
    (Or.inl rfl) (by simp [missing])

end Adding

section Following
variable {t t' : FileTree}

theorem locate_eq_ok {cwd loc : Location} {p : Path} :
    t.locate cwd p = .ok loc ↔
      p ≠ [] ∧ checkPath p = .ok () ∧ t.follow false maxLinks cwd p = .ok loc := by
  unfold locate
  cases p with
  | nil => simp
  | cons part rest => cases checkPath (part :: rest) <;> simp [bind, Except.bind]

theorem locateNew_eq_ok {cwd loc : Location} {p : Path} :
    t.locateNew cwd p = .ok loc ↔
      p ≠ [] ∧ checkPath p = .ok () ∧ t.follow true maxLinks cwd p = .ok loc := by
  unfold locateNew
  cases p with
  | nil => simp
  | cons part rest => cases checkPath (part :: rest) <;> simp [bind, Except.bind]

theorem entryAt_eq_ok {cwd : Location} {p : Path} {e : Entry} :
    t.entryAt cwd p = .ok e ↔ ∃ loc, t.locate cwd p = .ok loc ∧ t.get? loc = some e := by
  unfold entryAt
  cases t.locate cwd p with
  | error cause => simp [bind, Except.bind]
  | ok loc => cases here : t.get? loc <;> simp [bind, Except.bind, here]

theorem followWith_plain {create : Bool}
    {onLink : Location → Text → Path → Except FileError Location} {loc : Location} {n : Text}
    {rest : Path} {e : Entry} (inside : (t.get? loc).any Entry.isDirectory = true)
    (short : ¬ maxName < Text.byteCount n) (here : t.get? (loc ++ [n]) = some e)
    (plain : e.isLink = false) :
    t.followWith create onLink loc (.name n :: rest) =
      t.followWith create onLink (loc ++ [n]) rest := by
  rw [followWith, if_pos inside, if_neg short, here]
  cases e with
  | link target => cases plain
  | _ => rfl

/-- Where a path may end: at something that is no link, or at a name to be created in a
directory. -/
def Ends (t : FileTree) (create : Bool) (loc : Location) : Prop :=
  (∃ e, t.get? loc = some e ∧ e.isLink = false) ∨
    (create = true ∧ t.get? loc = none ∧ t.DirectoryAt loc.dropLast)

theorem DirectoryAt.ends {create : Bool} {loc : Location} (there : t.DirectoryAt loc) :
    t.Ends create loc := by
  obtain ⟨m, here⟩ := there
  exact Or.inl ⟨_, here, rfl⟩

theorem followWith_ends (sound : t.Sound) {create : Bool}
    {onLink : Location → Text → Path → Except FileError Location} {found : Location}
    (after : ∀ {loc target rest}, t.DirectoryAt loc → onLink loc target rest = .ok found →
      t.Ends create found)
    (p : Path) {loc : Location} (start : t.Ends create loc)
    (done : t.followWith create onLink loc p = .ok found) : t.Ends create found := by
  induction p generalizing loc with
  | nil =>
    simp only [followWith, Except.ok.injEq] at done
    exact done ▸ start
  | cons part rest ih =>
    cases part with
    | root =>
      rw [followWith] at done
      exact ih t.root_directory.ends done
    | current =>
      rw [followWith] at done
      split at done
      · exact ih start done
      · cases done
    | parent =>
      rw [followWith] at done
      split at done
      · rename_i here
        exact ih (sound.directory_parent (directory_any.mp here)).ends done
      · cases done
    | name n =>
      rw [followWith] at done
      split at done
      swap
      · cases done
      rename_i inside
      split at done
      · cases done
      -- a missing name is the last one, to be created in the directory that the way has come to
      · split at done
        · rename_i missing
          split at done
          · rename_i last
            cases done
            refine Or.inr ⟨(Bool.and_eq_true_iff.mp last).1, missing, ?_⟩
            rw [List.dropLast_concat]
            exact directory_any.mp inside
          · cases done
        · exact after (directory_any.mp inside) done
        · rename_i e plain here
          refine ih (Or.inl ⟨e, here, ?_⟩) done
          cases e with
          | link target => exact absurd rfl (plain target)
          | _ => rfl

theorem follow_ends (sound : t.Sound) {create : Bool} {links : Nat} {p : Path}
    {loc found : Location} (start : t.DirectoryAt loc)
    (done : t.follow create links loc p = .ok found) : t.Ends create found := by
  induction links generalizing loc p with
  | zero =>
    refine followWith_ends sound ?_ p start.ends done
    intro _ _ _ _ failed
    cases failed
  | succ links ih =>
    refine followWith_ends sound ?_ p start.ends done
    intro _ _ _ inside further
    exact ih inside further

variable (keeps : Keeps t t')
include keeps

theorem followWith_keeps {create : Bool}
    {onLink onLink' : Location → Text → Path → Except FileError Location} {found : Location}
    (made : create = true → ∃ e, t'.get? found = some e ∧ e.isLink = false)
    (after : ∀ {loc target rest}, onLink loc target rest = .ok found →
      onLink' loc target rest = .ok found)
    (p : Path) {loc : Location} (done : t.followWith create onLink loc p = .ok found) :
    t'.followWith false onLink' loc p = .ok found := by
  have inside : ∀ {x : Location}, (t.get? x).any Entry.isDirectory = true →
      (t'.get? x).any Entry.isDirectory = true := fun here =>
    directory_any.mpr (keeps.directory (directory_any.mp here))
  induction p generalizing loc with
  | nil => exact done
  | cons part rest ih =>
    cases part with
    | root =>
      rw [followWith] at done ⊢
      exact ih done
    | current =>
      rw [followWith] at done ⊢
      split at done
      · rename_i here
        rw [if_pos (inside here)]
        exact ih done
      · cases done
    | parent =>
      rw [followWith] at done ⊢
      split at done
      · rename_i here
        rw [if_pos (inside here)]
        exact ih done
      · cases done
    | name n =>
      rw [followWith] at done
      split at done
      swap
      · cases done
      rename_i here
      split at done
      · cases done
      rename_i short
      split at done
      · -- the last name was to be created, and now something stands there
        split at done
        · rename_i last
          cases done
          obtain ⟨creates, last⟩ := Bool.and_eq_true_iff.mp last
          obtain ⟨e, now, plain⟩ := made creates
          rw [followWith_plain (inside here) short now plain, List.isEmpty_iff.mp last, followWith]
        · cases done
      · rename_i target there
        obtain ⟨new, now, stays⟩ := keeps.stays there
        rw [stays.link] at now
        rw [followWith, if_pos (inside here), if_neg short, now]
        exact after done
      · rename_i old noLink there
        obtain ⟨new, now, stays⟩ := keeps.stays there
        have plain : old.isLink = false := by
          cases old with
          | link target => exact absurd rfl (noLink target)
          | _ => rfl
        rw [followWith_plain (inside here) short now (stays.noLink plain)]
        exact ih done

/-- What a path leads to stays there; a name that was to be created has to be by now. -/
theorem follow_keeps {create : Bool} {links : Nat} {p : Path} {loc found : Location}
    (made : create = true → ∃ e, t'.get? found = some e ∧ e.isLink = false)
    (done : t.follow create links loc p = .ok found) : t'.follow false links loc p = .ok found := by
  induction links generalizing loc p with
  | zero => exact followWith_keeps keeps made (fun failed => failed) p done
  | succ links ih => exact followWith_keeps keeps made (fun further => ih further) p done

theorem locate_keeps {p : Path} {loc : Location} (found : t.locate [] p = .ok loc) :
    t'.locate [] p = .ok loc := by
  obtain ⟨some, checked, follows⟩ := locate_eq_ok.mp found
  have follows' := follow_keeps keeps (fun creates => absurd creates (by simp)) follows
  exact locate_eq_ok.mpr ⟨some, checked, follows'⟩

theorem entryAt_keeps {p : Path} {old : Entry} (found : t.entryAt [] p = .ok old) :
    ∃ new, t'.entryAt [] p = .ok new ∧ old.Stays new := by
  obtain ⟨loc, place, here⟩ := entryAt_eq_ok.mp found
  obtain ⟨new, there, stays⟩ := keeps.stays here
  exact ⟨new, entryAt_eq_ok.mpr ⟨loc, locate_keeps keeps place, there⟩, stays⟩

end Following

section Changing
variable {t t' : FileTree} (sound : t.Sound)
include sound

theorem spared_makeDirectoriesFrom (places : Location → Prop) (p : Path) {loc : Location}
    (inside : t.DirectoryAt loc) : Spared places t (t.makeDirectoriesFrom loc p).1 := by
  induction p generalizing t loc with
  | nil => exact .refl sound places
  | cons part rest ih =>
    cases part with
    | root => exact ih sound t.root_directory
    | current => exact ih sound inside
    | parent => exact ih sound (sound.directory_parent inside)
    | name n =>
      rw [makeDirectoriesFrom]
      by_cases long : maxName < Text.byteCount n
      · rw [if_pos long]
        exact .refl sound places
      rw [if_neg long]
      cases here : t.get? (loc ++ [n]) with
      | none =>
        have added : Spared places t _ := spared_directory sound inside here
        have made := get?_add_self t (.directory t.now) (by simp : loc ++ [n] ≠ [])
        exact added.trans (ih added.sound ⟨_, made⟩)
      | some e =>
        cases e with
        | directory m => exact ih sound ⟨m, here⟩
        | file content m => exact .refl sound places
        | unreadable m => exact .refl sound places
        | link target =>
          simp only
          split
          · exact .refl sound places
          · exact .refl sound places
          · split
            · rename_i found _ directory
              exact ih sound (directory_any.mp directory)
            · exact .refl sound places

theorem spared_makeDirectories (places : Location → Prop) (p : Path) :
    Spared places t (t.makeDirectories p).1 := by
  unfold makeDirectories
  split
  · exact .refl sound places
  · exact spared_makeDirectoriesFrom sound places p t.root_directory

/-- After a write that succeeds a file stands where the path leads, and no other file changed. -/
theorem write_linked {p : Path} {content : Bytes} {u : Unit}
    (done : t.write p content = (t', .ok u)) :
    ∃ loc e, t'.locate [] p = .ok loc ∧ t'.get? loc = some e ∧ e.isFile = true ∧
      Spared (· = loc) t t' := by
  unfold write at done
  cases place : t.locateNew [] p with
  | error cause => simp [place] at done
  | ok loc =>
    obtain ⟨some, checked, follows⟩ := locateNew_eq_ok.mp place
    have located : ∀ {t₁ : FileTree} {e : Entry}, Spared (· = loc) t t₁ →
        t₁.get? loc = Option.some e → e.isFile = true → ∃ loc e, t₁.locate [] p = .ok loc ∧
          t₁.get? loc = Option.some e ∧ e.isFile = true ∧ Spared (· = loc) t t₁ := by
      intro t₁ e spared there file
      have plain : e.isLink = false := by cases e <;> simp [Entry.isFile, Entry.isLink] at file ⊢
      have follows' := follow_keeps spared.toKeeps (fun _ => ⟨e, there, plain⟩) follows
      exact ⟨loc, e, locate_eq_ok.mpr ⟨some, checked, follows'⟩, there, file, spared⟩
    simp only [place] at done
    split at done
    · cases done
    · rename_i m here
      split at done
      · cases done
        exact located (.refl sound _) here rfl
      · cases done
    · rename_i noDirectory readable
      cases done
      have below : loc ≠ [] := by
        rintro rfl
        exact noDirectory t.now (by simp [get?])
      have added := get?_add_self t (.file content t.now) below
      have spared : Spared (· = loc) t (t.add loc (.file content t.now)) := by
        rcases follow_ends sound t.root_directory follows with
          ⟨e, here, plain⟩ | ⟨_, missing, house⟩
        · have file : e.isFile = true := by
            cases e with
            | file _ _ => rfl
            | unreadable m => rfl
            | directory m => exact absurd here (noDirectory m)
            | link target => cases plain
          rw [← List.dropLast_concat_getLast below] at here
          refine spared_add sound below (sound.housed here) ?_ (Or.inr rfl) fun m => readable m
          intro old there
          rw [List.dropLast_concat_getLast below, there] at here
          cases here
          exact Or.inr (Or.inr ⟨file, rfl⟩)
        · exact spared_add sound below house (fun old there => by simp [missing] at there)
            (Or.inr rfl) (by simp [missing])
      exact located spared added rfl

end Changing

section Names

theorem named_put {t : FileTree} (named : t.Named) {loc : Location} {e : Entry} (below : loc ≠ [])
    (valid : ∀ n ∈ loc, n.IsFileName) : (t.put loc e).Named := by
  intro other old found
  rw [get?_put t loc other e below] at found
  split at found
  · rename_i same
    exact same ▸ valid
  · exact named found

theorem named_add {t : FileTree} (named : t.Named) {loc : Location} {e : Entry} (below : loc ≠ [])
    (valid : ∀ n ∈ loc, n.IsFileName) : (t.add loc e).Named := by
  have put : (t.put loc e).Named := named_put named below valid
  intro other old found
  unfold add at found
  split at found
  · exact put found
  · unfold stamp at found
    split at found
    · rename_i m there
      split at found
      · exact put found
      · rename_i inside
        exact named_put put inside (put there) found
    · exact put found

theorem named_makeDirectoriesFrom (p : Path) (valid : ∀ n, Component.name n ∈ p → n.IsFileName)
    {t : FileTree} (sound : t.Sound) (named : t.Named) {loc : Location}
    (inside : t.DirectoryAt loc) : (t.makeDirectoriesFrom loc p).1.Named := by
  intro x e there
  induction p generalizing t loc with
  | nil => exact named there
  | cons part rest ih =>
    have valid' : ∀ n, Component.name n ∈ rest → n.IsFileName := fun n member =>
      valid n (List.mem_cons_of_mem part member)
    cases part with
    | root => exact ih valid' sound named t.root_directory there
    | current => exact ih valid' sound named inside there
    | parent => exact ih valid' sound named (sound.directory_parent inside) there
    | name n =>
      rw [makeDirectoriesFrom] at there
      by_cases long : maxName < Text.byteCount n
      · rw [if_pos long] at there
        exact named there
      rw [if_neg long] at there
      cases here : t.get? (loc ++ [n]) with
      | none =>
        rw [here] at there
        have added : Spared (fun _ => False) t _ := spared_directory sound inside here
        have made := get?_add_self t (.directory t.now) (by simp : loc ++ [n] ≠ [])
        refine ih valid' added.sound (named_add named (by simp) ?_) ⟨_, made⟩ there
        intro m member
        rcases List.mem_append.mp member with above | last
        · obtain ⟨_, house⟩ := inside
          exact named house m above
        · exact List.mem_singleton.mp last ▸ valid n (by simp)
      | some e =>
        rw [here] at there
        cases e with
        | directory m => exact ih valid' sound named ⟨m, here⟩ there
        | file content m => exact named there
        | unreadable m => exact named there
        | link target =>
          simp only at there
          split at there
          · exact named there
          · exact named there
          · split at there
            · rename_i found _ directory
              exact ih valid' sound named (directory_any.mp directory) there
            · exact named there

theorem named_makeDirectories {t : FileTree} (sound : t.Sound) (named : t.Named) {p : Path}
    (valid : ∀ n, Component.name n ∈ p → n.IsFileName) : (t.makeDirectories p).1.Named := by
  intro x e there
  unfold makeDirectories at there
  split at there
  · exact named there
  · exact named_makeDirectoriesFrom p valid sound named t.root_directory there

/-- A walk shows what it finds under names that files can have. -/
theorem walkFrom_named {t : FileTree} (named : t.Named) (pruned : List Text → Bool) (fuel : Nat)
    (ancestors : List Location) (loc path : Location) :
    ∀ f ∈ t.walkFrom pruned fuel ancestors loc path,
      ∃ names, f.path = path ++ names ∧ ∀ n ∈ names, n.IsFileName := by
  induction fuel generalizing ancestors loc path with
  | zero => simp [walkFrom]
  | succ fuel ih =>
    intro f member
    rw [walkFrom] at member
    obtain ⟨n, listed, member⟩ := List.mem_flatMap.mp member
    obtain ⟨e, here⟩ := Option.isSome_iff_exists.mp (mem_namesIn.mp listed)
    have valid : n.IsFileName := named here n (by simp)
    have shown : ∀ m, f ∈ [(⟨path ++ [n], m⟩ : Found)] →
        ∃ names, f.path = path ++ names ∧ ∀ n ∈ names, n.IsFileName := by
      intro m single
      rw [List.mem_singleton.mp single]
      exact ⟨[n], rfl, by simpa using valid⟩
    have deeper : ∀ on_the_way found, f ∈ t.walkFrom pruned fuel on_the_way found (path ++ [n]) →
        ∃ names, f.path = path ++ names ∧ ∀ n ∈ names, n.IsFileName := by
      intro on_the_way found below
      obtain ⟨names, same, all⟩ := ih on_the_way found (path ++ [n]) f below
      exact ⟨n :: names, by simpa using same, List.forall_mem_cons.mpr ⟨valid, all⟩⟩
    simp only at member
    split at member
    · cases member
    · split at member
      · cases member
      · exact shown _ member
      · exact shown _ member
      · exact deeper _ _ member
      · split at member
        · cases member
        · split at member
          · exact shown _ member
          · exact shown _ member
          · split at member
            · cases member
            · exact deeper _ _ member
          · cases member

theorem walk_named {t : FileTree} (named : t.Named) {pruned : List Text → Bool} {root : Location}
    {f : Found} (member : f ∈ t.walk pruned root) :
    ∃ names, f.path = root ++ names ∧ ∀ n ∈ names, n.IsFileName := by
  unfold walk at member
  split at member
  · cases member
  · split at member
    · cases member
    · exact walkFrom_named named pruned _ _ _ root f member

end Names
end FileTree
end PodSite
