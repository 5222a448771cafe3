import PodSite.Proofs.Files.Way

/-!
Trees that differ only at some locations. What is done to both of them along a path that passes none
of these has the same outcome in both, and leaves them alike.
-/
namespace PodSite.FileTree

/-- Trees that hold the same, but for the locations `gone` and the times of directories. Below `out`
they are equal. -/
structure Alike (gone : Location → Prop) (out : Location) (t t' : FileTree) : Prop where
  now : t'.now = t.now
  linkFree : t.LinkFree
  linkFree' : t'.LinkFree
  same : ∀ x, ¬ gone x → SameAt t t' x
  below : ∀ rest, rest ≠ [] → t'.get? (out ++ rest) = t.get? (out ++ rest)

def Agree {α : Type} (gone : Location → Prop) (out : Location) (a a' : FileTree × α) : Prop :=
  Alike gone out a.1 a'.1 ∧ a'.2 = a.2

theorem Agree.parts {α : Type} {gone : Location → Prop} {out : Location} {a a' : FileTree × α}
    (agree : Agree gone out a a') :
    ∃ t t' result, a = (t, result) ∧ a' = (t', result) ∧ Alike gone out t t' :=
  ⟨a.1, a'.1, a.2, rfl, Prod.ext rfl agree.2, agree.1⟩

namespace Alike
variable {gone : Location → Prop} {out : Location} {t t' : FileTree} (alike : Alike gone out t t')
include alike

theorem put {loc : Location} (inside : loc ≠ []) {e : Entry} (plain : e.isLink = false) :
    Alike gone out (t.put loc e) (t'.put loc e) where
  now := by rw [now_put, now_put, alike.now]
  linkFree := alike.linkFree.put inside plain
  linkFree' := alike.linkFree'.put inside plain
  same x stays := by
    have before := alike.same x stays
    unfold SameAt DirectoryAt at before ⊢
    rw [get?_put t loc x e inside, get?_put t' loc x e inside]
    by_cases here : x = loc
    · simp [here]
    · simpa [here] using before
  below rest more := by
    rw [get?_put t loc _ e inside, get?_put t' loc _ e inside, alike.below rest more]

theorem stamp (loc : Location) : Alike gone out (t.stamp loc) (t'.stamp loc) where
  now := by rw [now_stamp, now_stamp, alike.now]
  linkFree x target found := by
    rw [get?_stamp] at found
    split at found
    · cases found
    · exact alike.linkFree x target found
  linkFree' x target found := by
    rw [get?_stamp] at found
    split at found
    · cases found
    · exact alike.linkFree' x target found
  same x stays := by
    have before := alike.same x stays
    unfold SameAt DirectoryAt
    rw [get?_stamp, get?_stamp, alike.now]
    by_cases here : x = loc
    · subst here
      have kind : (t'.get? x).any Entry.isDirectory = (t.get? x).any Entry.isDirectory := by
        rw [Bool.eq_iff_iff, directory_any, directory_any]
        exact before.directory_iff
      rw [kind]
      split
      · exact Or.inl rfl
      · exact before
    · simpa [here, SameAt, DirectoryAt] using before
  below rest more := by
    have before := alike.below rest more
    rw [get?_stamp, get?_stamp, alike.now]
    by_cases here : out ++ rest = loc
    · rw [← here, before]
    · simp [here, before]

theorem add {loc : Location} (inside : loc ≠ []) (stays : ¬ gone loc) {e : Entry}
    (plain : e.isLink = false) : Alike gone out (t.add loc e) (t'.add loc e) := by
  have there := (alike.same loc stays).isSome_eq
  unfold FileTree.add
  rw [there]
  split
  · exact alike.put inside plain
  · exact (alike.put inside plain).stamp _

theorem makeDirectoriesFrom (p : Path) (loc : Location) (clear : ∀ x ∈ Path.stops loc p, ¬ gone x) :
    Agree gone out (t.makeDirectoriesFrom loc p) (t'.makeDirectoriesFrom loc p) := by
  induction p generalizing t t' loc with
  | nil => exact ⟨alike, rfl⟩
  | cons part rest ih =>
    have later : ∀ x ∈ Path.stops (part.lead loc) rest, ¬ gone x := fun x member =>
      clear x (List.mem_cons_of_mem loc member)
    cases part with
    | root => exact ih alike [] later
    | current => exact ih alike loc later
    | parent => exact ih alike loc.dropLast later
    | name n =>
      have stays := later _ (Path.head_mem_stops (loc ++ [n]) rest)
      have here := alike.same _ stays
      have missing : t'.get? (loc ++ [n]) = none ↔ t.get? (loc ++ [n]) = none := by
        rw [← Option.not_isSome_iff_eq_none, ← Option.not_isSome_iff_eq_none, here.isSome_eq]
      have kind : (t'.get? (loc ++ [n])).any Entry.isDirectory =
          (t.get? (loc ++ [n])).any Entry.isDirectory := by
        rw [Bool.eq_iff_iff, directory_any, directory_any]
        exact here.directory_iff
      rw [makeDirectoriesFrom_name alike.linkFree, makeDirectoriesFrom_name alike.linkFree',
        alike.now, kind]
      simp only [missing]
      split
      · exact ⟨alike, rfl⟩
      · split
        · exact ih (alike.add (by simp) stays rfl) (loc ++ [n]) later
        · split
          · exact ih alike (loc ++ [n]) later
          · exact ⟨alike, rfl⟩

section Paths
variable {p : Path} (clear : ∀ x ∈ Path.stops [] p, ¬ gone x)
include clear

theorem makeDirectories : Agree gone out (t.makeDirectories p) (t'.makeDirectories p) := by
  unfold FileTree.makeDirectories
  split
  · exact ⟨alike, rfl⟩
  · exact alike.makeDirectoriesFrom p [] clear

theorem read : t'.read [] p = t.read [] p :=
  read_congr alike.linkFree alike.linkFree' fun x member => alike.same x (clear x member)

theorem write (content : Bytes) : Agree gone out (t.write p content) (t'.write p content) := by
  have place := locateNew_congr alike.linkFree alike.linkFree' (p := p)
    fun x member => alike.same x (clear x member)
  unfold FileTree.write
  rw [place, alike.now]
  cases found : t.locateNew [] p with
  | error cause => exact ⟨alike, rfl⟩
  | ok loc =>
    obtain rfl := locateNew_lead alike.linkFree found
    have stays := clear _ (Path.leadFrom_mem_stops [] p)
    have inside : ¬ t.DirectoryAt (p.leadFrom []) → p.leadFrom [] ≠ [] := by
      intro other top
      rw [top] at other
      exact other t.root_directory
    simp only
    rcases alike.same _ stays with equal | ⟨⟨m, there⟩, ⟨m', there'⟩⟩
    · rw [equal]
      cases here : t.get? (p.leadFrom []) with
      | none =>
        have below := inside fun ⟨m, there⟩ => by simp [here] at there
        exact ⟨alike.add below stays rfl, rfl⟩
      | some e =>
        cases e with
        | directory m => exact ⟨alike, rfl⟩
        | link target => exact absurd here (alike.linkFree _ target)
        | unreadable m =>
          simp only
          split <;> exact ⟨alike, rfl⟩
        | file old m =>
          have below := inside fun ⟨m, there⟩ => by simp [here] at there
          exact ⟨alike.add below stays rfl, rfl⟩
    · rw [there, there']
      exact ⟨alike, rfl⟩

theorem modified? {rest : List Text} (leads : p.leadFrom [] = out ++ rest) (more : rest ≠ []) :
    t'.modified? p = t.modified? p := by
  have way := fun x member => alike.same x (clear x member)
  refine modified?_way alike.linkFree alike.linkFree' way ?_
  rw [leads]
  exact alike.below rest more

end Paths
end Alike
end PodSite.FileTree
