import PodSite.Proofs.Files.Change

/-!
The way of a path in a tree without links: it leads where its components say, and what comes of
following it depends only on what stands at the locations it passes.
-/
namespace PodSite

def Component.lead (loc : Location) : Component → Location
  | .root => []
  | .current => loc
  | .parent => loc.dropLast
  | .name n => loc ++ [n]

namespace Path

def leadFrom (loc : Location) (p : Path) : Location := p.foldl Component.lead loc

def stops : Location → Path → List Location
  | loc, [] => [loc]
  | loc, part :: rest => loc :: stops (part.lead loc) rest

@[simp] theorem leadFrom_append (loc : Location) (p q : Path) :
    (p ++ q).leadFrom loc = q.leadFrom (p.leadFrom loc) := by
  simp [leadFrom]

@[simp] theorem leadFrom_ofNames (loc : Location) (names : List Text) :
    (ofNames names).leadFrom loc = loc ++ names := by
  induction names generalizing loc with
  | nil => simp [ofNames, leadFrom]
  | cons n rest ih =>
    have further := ih (loc ++ [n])
    simp only [ofNames, leadFrom, List.map_cons, List.foldl_cons, Component.lead] at further ⊢
    simpa using further

theorem head_mem_stops (loc : Location) (p : Path) : loc ∈ stops loc p := by
  cases p <;> simp [stops]

theorem leadFrom_mem_stops (loc : Location) (p : Path) : p.leadFrom loc ∈ stops loc p := by
  induction p generalizing loc with
  | nil => simp [stops, leadFrom]
  | cons part rest ih => exact List.mem_cons_of_mem loc (ih (part.lead loc))

theorem mem_stops_append {x loc : Location} {p q : Path} :
    x ∈ stops loc (p ++ q) ↔ x ∈ stops loc p ∨ x ∈ stops (p.leadFrom loc) q := by
  induction p generalizing loc with
  | nil =>
    have first := head_mem_stops loc q
    simp only [List.nil_append, stops, List.mem_singleton, leadFrom, List.foldl_nil]
    constructor
    · exact Or.inr
    · rintro (rfl | later)
      · exact first
      · exact later
  | cons part rest ih =>
    rw [List.cons_append, stops, List.mem_cons, ih, stops, List.mem_cons, or_assoc]
    rfl

theorem mem_stops_ofNames {x loc : Location} {names : List Text} :
    x ∈ stops loc (ofNames names) ↔ loc <+: x ∧ x <+: loc ++ names := by
  induction names generalizing loc with
  | nil =>
    simp only [ofNames, List.map_nil, stops, List.mem_singleton, List.append_nil]
    constructor
    · rintro rfl
      exact ⟨List.prefix_refl x, List.prefix_refl x⟩
    · rintro ⟨down, up⟩
      exact (up.eq_of_length_le down.length_le)
  | cons n rest ih =>
    have path : ofNames (n :: rest) = .name n :: ofNames rest := rfl
    have split : loc ++ n :: rest = (loc ++ [n]) ++ rest := by simp
    rw [path, stops, List.mem_cons, Component.lead, ih, split]
    constructor
    · rintro (rfl | ⟨down, up⟩)
      · exact ⟨List.prefix_refl x, by simp⟩
      · exact ⟨(List.prefix_append loc [n]).trans down, up⟩
    · rintro ⟨⟨more, rfl⟩, up⟩
      cases more with
      | nil => exact Or.inl (by simp)
      | cons m more =>
        rw [List.append_assoc, List.prefix_append_right_inj] at up
        obtain ⟨rfl, up⟩ := List.cons_prefix_cons.mp up
        exact Or.inr ⟨by simp, by simpa using up⟩

theorem mem_stops_absolute {x loc names : Location} :
    x ∈ stops loc (absolute names) ↔ x = loc ∨ x <+: names := by
  rw [absolute, stops, List.mem_cons, Component.lead, mem_stops_ofNames]
  simp

end Path

namespace FileTree

/-- The same stands at a location in both trees, but for the time of a directory. -/
def SameAt (t t' : FileTree) (loc : Location) : Prop :=
  t'.get? loc = t.get? loc ∨ (t.DirectoryAt loc ∧ t'.DirectoryAt loc)

namespace SameAt
variable {t t' : FileTree} {loc : Location} (same : SameAt t t' loc)
include same

theorem directory_iff : t'.DirectoryAt loc ↔ t.DirectoryAt loc := by
  rcases same with equal | ⟨there, there'⟩
  · unfold DirectoryAt
    rw [equal]
  · exact ⟨fun _ => there, fun _ => there'⟩

theorem isSome_eq : (t'.get? loc).isSome = (t.get? loc).isSome := by
  rcases same with equal | ⟨⟨m, there⟩, ⟨m', there'⟩⟩
  · rw [equal]
  · rw [there, there']
    rfl

theorem file_iff {e : Entry} (file : e.isDirectory = false) :
    t'.get? loc = some e ↔ t.get? loc = some e := by
  rcases same with equal | ⟨⟨m, there⟩, ⟨m', there'⟩⟩
  · rw [equal]
  · constructor
    · intro here
      cases there'.symm.trans here
      cases file
    · intro here
      cases there.symm.trans here
      cases file

end SameAt

section Following
variable {t t' : FileTree} (linkFree : t.LinkFree) (linkFree' : t'.LinkFree)

section OneTree
include linkFree

theorem followWith_name (create : Bool)
    (onLink : Location → Text → Path → Except FileError Location) (loc : Location) (n : Text)
    (rest : Path) :
    t.followWith create onLink loc (.name n :: rest) =
      if (t.get? loc).any Entry.isDirectory then
        if maxName < Text.byteCount n then .error .nameTooLong
        else if (t.get? (loc ++ [n])).isSome then t.followWith create onLink (loc ++ [n]) rest
        else if create && rest.isEmpty then .ok (loc ++ [n])
        else .error .notFound
      else .error .notADirectory := by
  rw [followWith]
  cases here : t.get? (loc ++ [n]) with
  | none => simp
  | some e =>
    cases e with
    | link target => exact absurd here (linkFree _ target)
    | file content m => rfl
    | directory m => rfl
    | unreadable m => rfl

theorem followWith_lead {create : Bool}
    {onLink : Location → Text → Path → Except FileError Location} {loc found : Location} {p : Path}
    (done : t.followWith create onLink loc p = .ok found) : found = p.leadFrom loc := by
  induction p generalizing loc with
  | nil =>
    cases done
    rfl
  | cons part rest ih =>
    cases part with
    | root => exact ih done
    | current =>
      rw [followWith] at done
      split at done
      · exact ih done
      · cases done
    | parent =>
      rw [followWith] at done
      split at done
      · exact ih done
      · cases done
    | name n =>
      rw [followWith_name linkFree] at done
      split at done
      · split at done
        · cases done
        · split at done
          · exact ih done
          · split at done
            · rename_i last
              simp only [Bool.and_eq_true, List.isEmpty_iff] at last
              cases done
              rw [last.2]
              rfl
            · cases done
      · cases done

theorem follow_lead {create : Bool} {links : Nat} {loc found : Location} {p : Path}
    (done : t.follow create links loc p = .ok found) : found = p.leadFrom loc := by
  cases links with
  | zero => exact followWith_lead linkFree done
  | succ links => exact followWith_lead linkFree done

theorem locate_lead {p : Path} {found : Location} (done : t.locate [] p = .ok found) :
    found = p.leadFrom [] := by
  unfold locate at done
  split at done
  · cases done
  · cases check : checkPath p with
    | error cause => simp [check, bind, Except.bind] at done
    | ok _ =>
      simp only [check, bind, Except.bind] at done
      exact follow_lead linkFree done

theorem locateNew_lead {p : Path} {found : Location} (done : t.locateNew [] p = .ok found) :
    found = p.leadFrom [] := by
  unfold locateNew at done
  split at done
  · cases done
  · cases check : checkPath p with
    | error cause => simp [check, bind, Except.bind] at done
    | ok _ =>
      simp only [check, bind, Except.bind] at done
      exact follow_lead linkFree done

end OneTree

include linkFree linkFree'

theorem followWith_congr (create : Bool)
    (onLink onLink' : Location → Text → Path → Except FileError Location) {loc : Location}
    {p : Path} (same : ∀ x ∈ Path.stops loc p, SameAt t t' x) :
    t'.followWith create onLink' loc p = t.followWith create onLink loc p := by
  induction p generalizing loc with
  | nil => rfl
  | cons part rest ih =>
    have here := same loc (Path.head_mem_stops loc _)
    have later : ∀ x ∈ Path.stops (part.lead loc) rest, SameAt t t' x := fun x member =>
      same x (List.mem_cons_of_mem loc member)
    have inside : (t'.get? loc).any Entry.isDirectory = (t.get? loc).any Entry.isDirectory := by
      rw [Bool.eq_iff_iff, directory_any, directory_any]
      exact here.directory_iff
    have next := ih later
    cases part with
    | root => exact next
    | current =>
      rw [Component.lead] at next
      rw [followWith, followWith, inside, next]
    | parent =>
      rw [Component.lead] at next
      rw [followWith, followWith, inside, next]
    | name n =>
      have there := later (loc ++ [n]) (Path.head_mem_stops _ rest)
      rw [Component.lead] at next
      rw [followWith_name linkFree, followWith_name linkFree', inside, there.isSome_eq, next]

section Paths
variable {p : Path} (same : ∀ x ∈ Path.stops [] p, SameAt t t' x)
include same

theorem follow_congr (create : Bool) (links : Nat) :
    t'.follow create links [] p = t.follow create links [] p := by
  cases links with
  | zero => exact followWith_congr linkFree linkFree' create _ _ same
  | succ links => exact followWith_congr linkFree linkFree' create _ _ same

theorem locate_congr : t'.locate [] p = t.locate [] p := by
  unfold locate
  rw [follow_congr linkFree linkFree' same]

theorem locateNew_congr : t'.locateNew [] p = t.locateNew [] p := by
  unfold locateNew
  rw [follow_congr linkFree linkFree' same]

theorem read_congr : t'.read [] p = t.read [] p := by
  unfold read entryAt
  rw [locate_congr linkFree linkFree' same]
  cases found : t.locate [] p with
  | error cause => rfl
  | ok loc =>
    obtain rfl := locate_lead linkFree found
    rcases same _ (Path.leadFrom_mem_stops [] p) with equal | ⟨⟨m, there⟩, ⟨m', there'⟩⟩
    · simp only [bind, Except.bind, equal]
    · simp only [bind, Except.bind, there, there']

theorem modified?_way (equal : t'.get? (p.leadFrom []) = t.get? (p.leadFrom [])) :
    t'.modified? p = t.modified? p := by
  unfold modified? entryAt
  rw [locate_congr linkFree linkFree' same]
  cases found : t.locate [] p with
  | error cause => rfl
  | ok loc =>
    obtain rfl := locate_lead linkFree found
    simp only [bind, Except.bind, equal]

end Paths
end Following

section Changing

theorem LinkFree.put {t : FileTree} (linkFree : t.LinkFree) {loc : Location} {e : Entry}
    (below : loc ≠ []) (plain : e.isLink = false) : (t.put loc e).LinkFree := by
  intro other target found
  rw [get?_put t loc other e below] at found
  split at found
  · cases found
    cases plain
  · exact linkFree other target found

theorem get?_stamp (t : FileTree) (loc x : Location) :
    (t.stamp loc).get? x =
      if x = loc ∧ loc ≠ [] ∧ (t.get? loc).any Entry.isDirectory then some (.directory t.now)
      else t.get? x := by
  by_cases here : x = loc
  · subst here
    unfold stamp
    cases entry : t.get? x with
    | none => simp [entry]
    | some e =>
      cases e with
      | directory m =>
        by_cases top : x = []
        · simp [top, ← entry]
        · simp [top, get?_put t x x _ top, Entry.isDirectory]
      | file content m => simp [entry, Entry.isDirectory]
      | unreadable m => simp [entry, Entry.isDirectory]
      | link target => simp [entry, Entry.isDirectory]
  · rw [get?_stamp_of_ne t here, if_neg (by simp [here])]

@[simp] theorem now_stamp (t : FileTree) (loc : Location) : (t.stamp loc).now = t.now := by
  unfold stamp
  split
  · split
    · rfl
    · exact now_put t loc _
  · rfl

@[simp] theorem now_add (t : FileTree) (loc : Location) (e : Entry) :
    (t.add loc e).now = t.now := by
  unfold add
  split <;> simp

theorem get?_add_of_ne (t : FileTree) {loc x : Location} (e : Entry) (below : loc ≠ [])
    (away : x ≠ loc) :
    (t.add loc e).get? x = t.get? x ∨
      (x = loc.dropLast ∧ t.DirectoryAt x ∧ (t.add loc e).get? x = some (.directory t.now)) := by
  have put := get?_put t loc x e below
  rw [if_neg away] at put
  unfold add
  split
  · exact Or.inl put
  · rw [get?_stamp]
    split
    · rename_i stamped
      obtain ⟨rfl, _, directory⟩ := stamped
      rw [put, directory_any] at directory
      exact Or.inr ⟨rfl, directory, by simp⟩
    · exact Or.inl put

/-- Directories were made or got other times, at some of the given locations; nothing else changed.
-/
structure Furnished (places : Location → Prop) (t t' : FileTree) : Prop where
  now : t'.now = t.now
  entries : ∀ x, t'.get? x = t.get? x ∨
    (places x ∧ t'.DirectoryAt x ∧ (t.get? x = none ∨ t.DirectoryAt x))

namespace Furnished
variable {places : Location → Prop} {t t' t'' : FileTree}

theorem refl (places : Location → Prop) (t : FileTree) : Furnished places t t :=
  ⟨rfl, fun _ => Or.inl rfl⟩

theorem directory (made : Furnished places t t') {x : Location} (there : t.DirectoryAt x) :
    t'.DirectoryAt x := by
  rcases made.entries x with same | ⟨_, there', _⟩
  · unfold DirectoryAt
    rwa [same]
  · exact there'

theorem trans (first : Furnished places t t') (second : Furnished places t' t'') :
    Furnished places t t'' where
  now := second.now.trans first.now
  entries x := by
    rcases second.entries x with same | ⟨at_place, there, before⟩
    · rcases first.entries x with same' | ⟨at_place, there, before⟩
      · exact Or.inl (same.trans same')
      · exact Or.inr ⟨at_place, by unfold DirectoryAt; rwa [same], before⟩
    · refine Or.inr ⟨at_place, there, ?_⟩
      rcases first.entries x with same | ⟨_, _, before'⟩
      · unfold DirectoryAt at before
        rwa [same] at before
      · exact before'

theorem mono {more : Location → Prop} (made : Furnished places t t')
    (wider : ∀ x, places x → more x) : Furnished more t t' :=
  ⟨made.now, fun x => (made.entries x).imp_right fun ⟨at_place, rest⟩ => ⟨wider x at_place, rest⟩⟩

theorem file_iff (made : Furnished places t t') {x : Location} {e : Entry}
    (file : e.isDirectory = false) : t'.get? x = some e ↔ t.get? x = some e := by
  rcases made.entries x with same | ⟨_, ⟨m', there'⟩, before⟩
  · rw [same]
  · constructor
    · intro here
      cases there'.symm.trans here
      cases file
    · intro here
      rcases before with missing | ⟨m, there⟩
      · cases missing.symm.trans here
      · cases there.symm.trans here
        cases file

theorem linkFree (made : Furnished places t t') (linkFree : t.LinkFree) : t'.LinkFree := by
  intro x target found
  exact linkFree x target ((made.file_iff rfl).mp found)

end Furnished

theorem makeDirectoriesFrom_name {t : FileTree} (linkFree : t.LinkFree) (loc : Location) (n : Text)
    (rest : Path) :
    t.makeDirectoriesFrom loc (.name n :: rest) =
      if maxName < Text.byteCount n then (t, .error .nameTooLong)
      else if t.get? (loc ++ [n]) = none then
        (t.add (loc ++ [n]) (.directory t.now)).makeDirectoriesFrom (loc ++ [n]) rest
      else if (t.get? (loc ++ [n])).any Entry.isDirectory then
        t.makeDirectoriesFrom (loc ++ [n]) rest
      else (t, .error (if rest.isEmpty then .alreadyExists else .notADirectory)) := by
  rw [makeDirectoriesFrom]
  cases here : t.get? (loc ++ [n]) with
  | none => rfl
  | some e =>
    cases e with
    | link target => exact absurd here (linkFree _ target)
    | file content m => rfl
    | directory m => rfl
    | unreadable m => rfl

theorem furnished_add {t : FileTree} {loc : Location} (below : loc ≠ [])
    (missing : t.get? loc = none) :
    Furnished (fun x => x = loc.dropLast ∨ x = loc) t (t.add loc (.directory t.now)) where
  now := now_add t loc _
  entries x := by
    by_cases here : x = loc
    · subst here
      exact Or.inr ⟨Or.inr rfl, ⟨_, get?_add_self t _ below⟩, Or.inl missing⟩
    · rcases get?_add_of_ne t (.directory t.now) below here with same | ⟨house, there, stamped⟩
      · exact Or.inl same
      · exact Or.inr ⟨Or.inl house, ⟨_, stamped⟩, Or.inr there⟩

theorem furnished_makeDirectoriesFrom (p : Path) {t : FileTree} (linkFree : t.LinkFree)
    (loc : Location) : Furnished (· ∈ Path.stops loc p) t (t.makeDirectoriesFrom loc p).1 := by
  induction p generalizing t loc with
  | nil => exact .refl _ t
  | cons part rest ih =>
    have later : ∀ x, x ∈ Path.stops (part.lead loc) rest → x ∈ Path.stops loc (part :: rest) :=
      fun _ member => List.mem_cons_of_mem loc member
    cases part with
    | root => exact (ih linkFree []).mono later
    | current => exact (ih linkFree loc).mono later
    | parent => exact (ih linkFree loc.dropLast).mono later
    | name n =>
      rw [makeDirectoriesFrom_name linkFree]
      split
      · exact .refl _ t
      · split
        · rename_i missing
          have added := furnished_add (by simp) missing
          refine (added.mono ?_).trans ((ih (added.linkFree linkFree) (loc ++ [n])).mono later)
          rintro x (rfl | rfl)
          · rw [List.dropLast_concat]
            exact Path.head_mem_stops loc _
          · exact later _ (Path.head_mem_stops _ rest)
        · split
          · exact (ih linkFree (loc ++ [n])).mono later
          · exact .refl _ t

theorem furnished_makeDirectories {t : FileTree} (linkFree : t.LinkFree) (p : Path) :
    Furnished (· ∈ Path.stops [] p) t (t.makeDirectories p).1 := by
  unfold makeDirectories
  split
  · exact .refl _ t
  · exact furnished_makeDirectoriesFrom p linkFree []

theorem makeDirectoriesFrom_stops (p : Path) {t t' : FileTree} (sound : t.Sound)
    (linkFree : t.LinkFree) {loc : Location} (inside : t.DirectoryAt loc) {u : Unit}
    (done : t.makeDirectoriesFrom loc p = (t', .ok u)) :
    ∀ x ∈ Path.stops loc p, t'.DirectoryAt x := by
  induction p generalizing t loc with
  | nil =>
    cases done
    simpa [Path.stops] using inside
  | cons part rest ih =>
    have frame := furnished_makeDirectoriesFrom (part :: rest) linkFree loc
    rw [done] at frame
    refine List.forall_mem_cons.mpr ⟨frame.directory inside, ?_⟩
    cases part with
    | root => exact ih sound linkFree t.root_directory done
    | current => exact ih sound linkFree inside done
    | parent =>
      refine ih sound linkFree ?_ done
      by_cases top : loc = []
      · subst top
        exact inside
      · obtain ⟨m, here⟩ := inside
        rw [← List.dropLast_concat_getLast top] at here
        exact sound.housed here
    | name n =>
      rw [makeDirectoriesFrom_name linkFree] at done
      split at done
      · cases done
      · split at done
        · rename_i missing
          have added : Grown (fun _ => False) t (t.add (loc ++ [n]) (.directory t.now)) :=
            grown_add sound linkFree (by simp) (by simpa using inside)
              (Or.inl ⟨rfl, Or.inl missing⟩)
          have made := get?_add_self t (.directory t.now) (by simp : loc ++ [n] ≠ [])
          exact ih added.sound added.linkFree ⟨_, made⟩ done
        · split at done
          · rename_i there
            exact ih sound linkFree (directory_any.mp there) done
          · cases done

theorem makeDirectories_stops {t t' : FileTree} (sound : t.Sound) (linkFree : t.LinkFree) {p : Path}
    {u : Unit} (done : t.makeDirectories p = (t', .ok u)) :
    ∀ x ∈ Path.stops [] p, t'.DirectoryAt x := by
  unfold makeDirectories at done
  split at done
  · cases done
  · exact makeDirectoriesFrom_stops p sound linkFree t.root_directory done

/-- A file was written at a location; besides, directories were made at some of the given ones. -/
structure Wrote (places : Location → Prop) (loc : Location) (content : Bytes) (t t' : FileTree) :
    Prop where
  now : t'.now = t.now
  linkFree : t'.LinkFree
  free : ¬ t.DirectoryAt loc
  file : t'.get? loc = some (.file content t.now) ∨ ∃ m, t.get? loc = some (.unreadable m)
  others : ∀ x, x ≠ loc → t'.get? x = t.get? x ∨
    (places x ∧ t'.DirectoryAt x ∧ (t.get? x = none ∨ t.DirectoryAt x))

theorem wrote_write {t t' : FileTree} (linkFree : t.LinkFree) {p : Path} {content : Bytes}
    {u : Unit} (done : t.write p content = (t', .ok u)) :
    Wrote (· = (p.leadFrom []).dropLast) (p.leadFrom []) content t t' := by
  unfold write at done
  cases place : t.locateNew [] p with
  | error cause => simp [place] at done
  | ok loc =>
    obtain rfl := locateNew_lead linkFree place
    rw [place] at done
    simp only at done
    -- what is added changes its own place and the time of the directory around it, nothing else
    have added : ¬ t.DirectoryAt (p.leadFrom []) →
        Wrote (· = (p.leadFrom []).dropLast) (p.leadFrom []) content t
          (t.add (p.leadFrom []) (.file content t.now)) := by
      intro free
      have inside : p.leadFrom [] ≠ [] := by
        intro top
        rw [top] at free
        exact free t.root_directory
      refine ⟨now_add t _ _, ?_, free, Or.inl (get?_add_self t _ inside), ?_⟩
      · intro x target found
        by_cases here : x = p.leadFrom []
        · rw [here, get?_add_self t _ inside] at found
          cases found
        · rcases get?_add_of_ne t (.file content t.now) inside here with same | ⟨_, _, stamped⟩
          · exact linkFree x target (same.symm.trans found)
          · cases stamped.symm.trans found
      · intro x away
        rcases get?_add_of_ne t (.file content t.now) inside away with
          same | ⟨house, there, stamped⟩
        · exact Or.inl same
        · exact Or.inr ⟨house, ⟨_, stamped⟩, Or.inr there⟩
    split at done
    · cases done
    · rename_i m here
      split at done
      · cases done
        exact ⟨rfl, linkFree, fun ⟨_, there⟩ => (by simp [here] at there), Or.inr ⟨m, here⟩,
          fun _ _ => Or.inl rfl⟩
      · cases done
    · rename_i other _
      cases done
      exact added fun ⟨m, there⟩ => other m there

end Changing

def Vacant (t : FileTree) (out : Location) : Prop :=
  ∀ rest, rest ≠ [] → t.get? (out ++ rest) = none

theorem vacant_of_missing {t : FileTree} (sound : t.Sound) {out : Location}
    (missing : t.get? out = none) : t.Vacant out := by
  intro rest more
  cases there : t.get? (out ++ rest) with
  | none => rfl
  | some e =>
    obtain ⟨m, house⟩ := sound.directory_above more there
    cases missing.symm.trans house

end FileTree
end PodSite
