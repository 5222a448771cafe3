import PodSite.Proofs.Files.Access

/-!
What a walk through a tree without links comes to: exactly the files below its root that no pruned
directory hides, in the order of their paths, compared name by name.
-/
namespace PodSite

namespace Text

theorem precedes_total (a b : Text) : (precedes a b || precedes b a) = true := by
  induction a generalizing b with
  | nil => rfl
  | cons c a ih =>
    cases b with
    | nil => rfl
    | cons d b =>
      by_cases same : c = d
      · simpa [precedes, same] using ih b
      · have codes : c.toNat ≠ d.toNat := fun equal => same (Char.toNat_inj.mp equal)
        simp only [precedes, same, Ne.symm same, ↓reduceIte, Bool.or_eq_true, decide_eq_true_eq]
        omega

theorem precedes_trans (a b c : Text) (first : precedes a b = true) (second : precedes b c = true) :
    precedes a c = true := by
  induction a generalizing b c with
  | nil => rfl
  | cons x a ih =>
    cases b with
    | nil => simp [precedes] at first
    | cons y b =>
      cases c with
      | nil => simp [precedes] at second
      | cons z c =>
        simp only [precedes] at first second ⊢
        by_cases xy : x = y
        · subst xy
          by_cases xz : x = z
          · subst xz
            simp only [↓reduceIte] at first second ⊢
            exact ih b c first second
          · simpa [xz] using second
        · by_cases yz : y = z
          · subst yz
            simpa [xy] using first
          · simp only [xy, yz, ↓reduceIte, decide_eq_true_eq] at first second
            have xz : x ≠ z := by
              intro same
              subst same
              omega
            simp only [xz, ↓reduceIte, decide_eq_true_eq]
            omega

theorem precedes_antisymm (a b : Text) (first : precedes a b = true)
    (second : precedes b a = true) : a = b := by
  induction a generalizing b with
  | nil =>
    cases b with
    | nil => rfl
    | cons y b => simp [precedes] at second
  | cons x a ih =>
    cases b with
    | nil => simp [precedes] at first
    | cons y b =>
      simp only [precedes] at first second
      by_cases xy : x = y
      · subst xy
        simp only [↓reduceIte] at first second
        rw [ih b first second]
      · simp only [xy, Ne.symm xy, ↓reduceIte, decide_eq_true_eq] at first second
        omega

end Text

namespace FileTree

def Before (p q : List Text) : Prop :=
  List.Lex (fun a b => Text.precedes a b = true ∧ a ≠ b) p q

theorem before_asymm {p q : List Text} (first : Before p q) : ¬ Before q p := by
  refine List.lex_asymm ?_ first
  intro a b ab ba
  exact ab.2 (Text.precedes_antisymm a b ab.1 ba.1)

theorem before_append {loc p q : List Text} (rest : Before p q) :
    Before (loc ++ p) (loc ++ q) := by
  induction loc with
  | nil => exact rest
  | cons n loc ih => exact .cons ih

theorem mem_namesIn {t : FileTree} {loc : Location} {n : Text} :
    n ∈ t.namesIn loc ↔ (t.get? (loc ++ [n])).isSome := by
  rw [← mem_keys]
  simp only [namesIn, List.mem_mergeSort, List.mem_filterMap, List.mem_map]
  constructor
  · rintro ⟨⟨p, e⟩, listed, last⟩
    refine ⟨(p, e), listed, ?_⟩
    simp only at last ⊢
    split at last
    · rename_i front
      rw [← front]
      exact (List.dropLast_append_getLast? n last).symm
    · cases last
  · rintro ⟨⟨p, e⟩, listed, rfl⟩
    exact ⟨(loc ++ [n], e), listed, by simp⟩

theorem Sound.namesIn_nodup {t : FileTree} (sound : t.Sound) (loc : Location) :
    (t.namesIn loc).Nodup := by
  refine (List.mergeSort_perm _ _).nodup_iff.mpr ?_
  have keys := sound.distinct
  rw [List.Nodup, List.pairwise_map] at keys
  refine List.pairwise_filterMap.mpr (keys.imp ?_)
  rintro ⟨p, _⟩ ⟨q, _⟩ apart n hn m hm same
  simp only at apart hn hm
  subst same
  split at hn
  · split at hm
    · rename_i hp hq
      have atp := List.dropLast_append_getLast? n hn
      have atq := List.dropLast_append_getLast? n hm
      rw [hp] at atp
      rw [hq] at atq
      exact apart (atp.symm.trans atq)
    · cases hm
  · cases hn

theorem Sound.namesIn_sorted {t : FileTree} (sound : t.Sound) (loc : Location) :
    (t.namesIn loc).Pairwise fun a b => Text.precedes a b = true ∧ a ≠ b := by
  refine List.Pairwise.and ?_ (sound.namesIn_nodup loc)
  exact List.pairwise_mergeSort Text.precedes_trans Text.precedes_total _

/-- A file that a walk from `loc` shows: `rest` leads down to it, and nothing on the way is pruned.
-/
structure Shown (t : FileTree) (pruned : List Text → Bool) (loc rest : Location) (f : Found) :
    Prop where
  below : rest ≠ []
  path : f.path = loc ++ rest
  unpruned : ∀ q, q ≠ [] → q <+: rest → pruned (loc ++ q) = false
  file : ∃ e, t.get? f.path = some e ∧ e.isFile = true ∧ e.modified? = some f.modified

theorem shown_cons {t : FileTree} {pruned : List Text → Bool} {loc rest : Location} {n : Text}
    {f : Found} (more : rest ≠ []) :
    t.Shown pruned loc (n :: rest) f ↔
      pruned (loc ++ [n]) = false ∧ t.Shown pruned (loc ++ [n]) rest f := by
  have split : loc ++ n :: rest = (loc ++ [n]) ++ rest := by simp
  constructor
  · intro shown
    refine ⟨shown.unpruned [n] (by simp) ⟨rest, rfl⟩, more, split ▸ shown.path, ?_, shown.file⟩
    intro q _ front
    have := shown.unpruned (n :: q) (by simp) ((List.prefix_cons_inj n).mpr front)
    simpa using this
  · intro ⟨first, shown⟩
    refine ⟨by simp, split ▸ shown.path, ?_, shown.file⟩
    intro q some front
    cases q with
    | nil => exact absurd rfl some
    | cons m q =>
      obtain ⟨rfl, further⟩ := List.cons_prefix_cons.mp front
      by_cases last : q = []
      · simpa [last] using first
      · simpa using shown.unpruned q last further

theorem shown_single {t : FileTree} {pruned : List Text → Bool} {loc : Location} {n : Text}
    {f : Found} :
    t.Shown pruned loc [n] f ↔ pruned (loc ++ [n]) = false ∧ f.path = loc ++ [n] ∧
      ∃ e, t.get? (loc ++ [n]) = some e ∧ e.isFile = true ∧ e.modified? = some f.modified := by
  constructor
  · intro shown
    exact ⟨shown.unpruned [n] (by simp) ⟨[], rfl⟩, shown.path, shown.path ▸ shown.file⟩
  · intro ⟨visible, path, file⟩
    refine ⟨by simp, path, ?_, path.symm ▸ file⟩
    intro q some front
    have same : q = [n] := by
      rcases List.prefix_concat_iff.mp (List.nil_append [n] ▸ front) with whole | none
      · exact whole
      · exact absurd (List.prefix_nil.mp none) some
    rw [same]
    exact visible

structure InView (pruned : List Text → Bool) (root p : Location) : Prop where
  above : root <+: p
  apart : p ≠ root
  unpruned : ∀ q, root <+: q → q <+: p → pruned q = false

theorem Shown.inView {t : FileTree} {pruned : List Text → Bool} {root rest : Location} {f : Found}
    (shown : t.Shown pruned root rest f) (visible : pruned root = false) :
    InView pruned root f.path := by
  refine ⟨⟨rest, shown.path.symm⟩, ?_, ?_⟩
  · intro same
    have := shown.path.symm.trans same
    exact shown.below (List.append_right_eq_self.mp this)
  · rintro q ⟨more, rfl⟩ front
    rw [shown.path, List.prefix_append_right_inj] at front
    by_cases top : more = []
    · simpa [top] using visible
    · exact shown.unpruned more top front

theorem InView.shown {t : FileTree} {pruned : List Text → Bool} {root : Location} {f : Found}
    (view : InView pruned root f.path)
    (file : ∃ e, t.get? f.path = some e ∧ e.isFile = true ∧ e.modified? = some f.modified) :
    ∃ rest, t.Shown pruned root rest f := by
  obtain ⟨rest, path⟩ := view.above
  refine ⟨rest, ?_, path.symm, ?_, file⟩
  · intro none
    exact view.apart (by rw [← path, none, List.append_nil])
  · intro q _ front
    refine view.unpruned (root ++ q) ⟨q, rfl⟩ ?_
    rw [← path]
    exact (List.prefix_append_right_inj root).mpr front

section Walking
variable {t : FileTree} (sound : t.Sound) (linkFree : t.LinkFree) (pruned : List Text → Bool)

def foundAt (t : FileTree) (pruned : List Text → Bool) (fuel : Nat) (ancestors : List Location)
    (here : Location) : List Found :=
  if pruned here then []
  else
    match t.get? here with
    | some (.file _ m) => [⟨here, m⟩]
    | some (.unreadable m) => [⟨here, m⟩]
    | some (.directory _) => t.walkFrom pruned fuel (here :: ancestors) here here
    | _ => []

theorem mem_foundAt {fuel : Nat} {ancestors : List Location} {here : Location} {f : Found} :
    f ∈ t.foundAt pruned fuel ancestors here ↔ pruned here = false ∧
      ((f.path = here ∧
          ∃ e, t.get? here = some e ∧ e.isFile = true ∧ e.modified? = some f.modified) ∨
        (t.DirectoryAt here ∧ f ∈ t.walkFrom pruned fuel (here :: ancestors) here here)) := by
  have own : ∀ m, f = ⟨here, m⟩ ↔ f.path = here ∧ m = f.modified := by
    intro m
    obtain ⟨path, modified⟩ := f
    simp [eq_comm]
  unfold foundAt DirectoryAt
  cases visible : pruned here with
  | true => simp
  | false =>
    simp only [Bool.false_eq_true, if_false, true_and]
    cases entry : t.get? here with
    | none => simp
    | some e =>
      cases e with
      | file content m => simp [own, Entry.isFile, Entry.modified?]
      | directory m => simp [Entry.isFile]
      | unreadable m => simp [own, Entry.isFile, Entry.modified?]
      | link target => simp [Entry.isFile]

include linkFree in
theorem walkFrom_succ (fuel : Nat) (ancestors : List Location) (loc : Location) :
    t.walkFrom pruned (fuel + 1) ancestors loc loc =
      (t.namesIn loc).flatMap fun n => t.foundAt pruned fuel ancestors (loc ++ [n]) := by
  rw [walkFrom]
  congr 1
  funext n
  simp only [foundAt]
  cases here : t.get? (loc ++ [n]) with
  | none => rfl
  | some e =>
    cases e with
    | link target => exact absurd here (linkFree _ target)
    | file content m => rfl
    | directory m => rfl
    | unreadable m => rfl

include sound linkFree

theorem mem_walkFrom (fuel : Nat) (ancestors : List Location) (loc : Location) (f : Found) :
    f ∈ t.walkFrom pruned fuel ancestors loc loc ↔
      ∃ rest, rest.length ≤ fuel ∧ t.Shown pruned loc rest f := by
  induction fuel generalizing ancestors loc with
  | zero =>
    simp only [walkFrom, List.not_mem_nil, Nat.le_zero, List.length_eq_zero_iff, false_iff]
    rintro ⟨rest, empty, shown⟩
    exact shown.below empty
  | succ fuel ih =>
    rw [walkFrom_succ linkFree, List.mem_flatMap]
    constructor
    · rintro ⟨n, named, member⟩
      obtain ⟨visible, ⟨path, file⟩ | ⟨directory, further⟩⟩ := (mem_foundAt pruned).mp member
      · exact ⟨[n], by simp, shown_single.mpr ⟨visible, path, file⟩⟩
      · obtain ⟨rest, bound, shown⟩ := (ih _ _).mp further
        exact ⟨n :: rest, by simpa using bound, (shown_cons shown.below).mpr ⟨visible, shown⟩⟩
    · rintro ⟨rest, bound, shown⟩
      cases rest with
      | nil => exact absurd rfl shown.below
      | cons n rest =>
        by_cases last : rest = []
        · subst last
          obtain ⟨visible, path, e, here, file⟩ := shown_single.mp shown
          have named : n ∈ t.namesIn loc := mem_namesIn.mpr (by simp [here])
          exact ⟨n, named, (mem_foundAt pruned).mpr ⟨visible, .inl ⟨path, e, here, file⟩⟩⟩
        · obtain ⟨visible, further⟩ := (shown_cons last).mp shown
          obtain ⟨e, here, -, -⟩ := shown.file
          rw [further.path] at here
          obtain ⟨m, directory⟩ := sound.directory_above last here
          have named : n ∈ t.namesIn loc := mem_namesIn.mpr (by simp [directory])
          have walked := (ih ((loc ++ [n]) :: ancestors) (loc ++ [n])).mpr
            ⟨rest, by simpa using bound, further⟩
          exact ⟨n, named, (mem_foundAt pruned).mpr ⟨visible, .inr ⟨⟨m, directory⟩, walked⟩⟩⟩

theorem foundAt_below {fuel : Nat} {ancestors : List Location} {here : Location} {f : Found}
    (member : f ∈ t.foundAt pruned fuel ancestors here) : here <+: f.path := by
  obtain ⟨-, ⟨path, -⟩ | ⟨-, walked⟩⟩ := (mem_foundAt pruned).mp member
  · exact ⟨[], by simp [path]⟩
  · obtain ⟨rest, _, shown⟩ := (mem_walkFrom sound linkFree pruned _ _ _ f).mp walked
    exact ⟨rest, shown.path.symm⟩

theorem walkFrom_sorted (fuel : Nat) (ancestors : List Location) (loc : Location) :
    (t.walkFrom pruned fuel ancestors loc loc).Pairwise fun f g => Before f.path g.path := by
  induction fuel generalizing ancestors loc with
  | zero => simp [walkFrom]
  | succ fuel ih =>
    rw [walkFrom_succ linkFree, List.pairwise_flatMap]
    constructor
    · intro n _
      unfold foundAt
      split
      · exact List.Pairwise.nil
      · split
        · exact List.pairwise_singleton _ _
        · exact List.pairwise_singleton _ _
        · exact ih _ _
        · exact List.Pairwise.nil
    · refine (sound.namesIn_sorted loc).imp ?_
      intro n m order f hf g hg
      obtain ⟨s, fpath⟩ := foundAt_below sound linkFree pruned hf
      obtain ⟨r, gpath⟩ := foundAt_below sound linkFree pruned hg
      rw [← fpath, ← gpath, List.append_assoc, List.append_assoc]
      exact before_append (.rel order)

theorem mem_walk {root : Location} (there : t.isDirectory [] (Path.absolute root) = true)
    (f : Found) :
    f ∈ t.walk pruned root ↔ InView pruned root f.path ∧
      ∃ e, t.get? f.path = some e ∧ e.isFile = true ∧ e.modified? = some f.modified := by
  obtain ⟨addressable, m, directory⟩ := (isDirectory_absolute sound linkFree root).mp there
  have located := (locate_absolute sound linkFree root root).mpr
    ⟨rfl, addressable, by simp [directory]⟩
  unfold walk
  by_cases hidden : pruned root = true
  · simp only [hidden, ↓reduceIte, List.not_mem_nil, false_iff]
    rintro ⟨view, _⟩
    have := view.unpruned root (List.prefix_refl root) view.above
    simp [hidden] at this
  · have visible : pruned root = false := by simpa using hidden
    rw [if_neg hidden, located]
    simp only [mem_walkFrom sound linkFree]
    constructor
    · rintro ⟨rest, _, shown⟩
      exact ⟨shown.inView visible, shown.file⟩
    · rintro ⟨view, file⟩
      obtain ⟨rest, shown⟩ := view.shown file
      refine ⟨rest, ?_, shown⟩
      -- a location is no longer than the tree has entries
      obtain ⟨e, here, _⟩ := file
      have bound := sound.length_le here
      rw [shown.path, List.length_append] at bound
      calc rest.length ≤ t.entries.length + 2 := by omega
        _ ≤ (t.entries.length + 2) * (t.entries.length + 2) := Nat.le_mul_of_pos_left _ (by omega)

theorem walk_sorted (root : Location) :
    (t.walk pruned root).Pairwise fun f g => Before f.path g.path := by
  unfold walk
  split
  · exact List.Pairwise.nil
  · cases located : t.locate [] (Path.absolute root) with
    | error cause => exact List.Pairwise.nil
    | ok loc =>
      obtain ⟨rfl, _⟩ := (locate_absolute sound linkFree root loc).mp located
      exact walkFrom_sorted sound linkFree pruned _ _ _

end Walking

/-- What stands in the strict order of its paths is determined by which of it there is. -/
theorem sorted_unique {α : Type} (path : α → List Text) {xs ys : List α}
    (hx : xs.Pairwise fun a b => Before (path a) (path b))
    (hy : ys.Pairwise fun a b => Before (path a) (path b)) (same : ∀ a, a ∈ xs ↔ a ∈ ys) :
    xs = ys := by
  have irrefl : ∀ a b : α, Before (path a) (path b) → a ≠ b := by
    intro a b before equal
    subst equal
    exact before_asymm before before
  have perm : xs.Perm ys :=
    (List.perm_ext_iff_of_nodup (hx.imp (irrefl _ _)) (hy.imp (irrefl _ _))).mpr same
  refine perm.eq_of_pairwise ?_ hx hy
  intro a b _ _ ab ba
  exact absurd ba (before_asymm ab)

theorem sorted_paths_unique {ps qs : List (List Text)} (hp : ps.Pairwise Before)
    (hq : qs.Pairwise Before) (same : ∀ p, p ∈ ps ↔ p ∈ qs) : ps = qs :=
  sorted_unique id hp hq same

end FileTree
end PodSite
