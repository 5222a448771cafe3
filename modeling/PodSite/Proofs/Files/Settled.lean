import PodSite.Proofs.Files.Linked

/-!
Paths whose fate is settled. As long as the tree only grows, a path that is followed ends as it did
before, unless it ended at something missing. The files that a walk comes to are never missing, so
what is read of them stays the same until they are written to.
-/
namespace PodSite.FileTree

/-- What one component does on the way of a path: it goes on at a location, it jumps to the target
of a link, or the way ends. -/
inductive Step where
  | go (loc : Location)
  | jump (loc : Location) (target : Text)
  | stop (e : FileError)

def step (t : FileTree) (loc : Location) : Component → Step
  | .root => .go []
  | .current => if (t.get? loc).any Entry.isDirectory then .go loc else .stop .notADirectory
  | .parent =>
    if (t.get? loc).any Entry.isDirectory then .go loc.dropLast else .stop .notADirectory
  | .name n =>
    if (t.get? loc).any Entry.isDirectory then
      if maxName < Text.byteCount n then .stop .nameTooLong
      else
        match t.get? (loc ++ [n]) with
        | none => .stop .notFound
        | some (.link target) => .jump loc target
        | some _ => .go (loc ++ [n])
    else .stop .notADirectory

section Steps
variable {t t' : FileTree} {loc : Location} {part : Component} {p : Path}

theorem followWith_cons (onLink : Location → Text → Path → Except FileError Location)
    (loc : Location) (part : Component) (rest : Path) :
    t.followWith false onLink loc (part :: rest) =
      match t.step loc part with
      | .go next => t.followWith false onLink next rest
      | .jump house target => onLink house target rest
      | .stop e => .error e := by
  cases part with
  | root => rfl
  | current =>
    rw [followWith, step]
    split <;> rfl
  | parent =>
    rw [followWith, step]
    split <;> rfl
  | name n =>
    rw [followWith, step]
    split
    · split
      · rfl
      · cases t.get? (loc ++ [n]) with
        | none => rfl
        | some e => cases e <;> rfl
    · rfl

theorem step_exists (sound : t.Sound) (start : (t.get? loc).isSome) {next : Location}
    (goes : t.step loc part = .go next) : (t.get? next).isSome := by
  unfold step at goes
  split at goes
  · cases goes
    simp [get?]
  · split at goes
    · cases goes
      exact start
    · cases goes
  · split at goes
    · rename_i inside
      cases goes
      obtain ⟨m, above⟩ := sound.directory_parent (directory_any.mp inside)
      simp [above]
    · cases goes
  · split at goes
    · split at goes
      · cases goes
      · split at goes
        · cases goes
        · cases goes
        · rename_i here
          cases goes
          simp [here]
    · cases goes

theorem step_jump {house : Location} {target : Text}
    (jumps : t.step loc part = .jump house target) : house = loc := by
  unfold step at jumps
  repeat' split at jumps
  all_goals cases jumps
  rfl

end Steps

section Settled
variable {t t' : FileTree} (keeps : Keeps t t')
include keeps

theorem Keeps.isDirectory_eq {loc : Location} (start : (t.get? loc).isSome) :
    (t'.get? loc).any Entry.isDirectory = (t.get? loc).any Entry.isDirectory := by
  obtain ⟨old, here⟩ := Option.isSome_iff_exists.mp start
  obtain ⟨new, there, stays⟩ := keeps.stays here
  rw [here, there, Option.any_some, Option.any_some, Bool.eq_iff_iff]
  refine ⟨fun directory => ?_, stays.directory⟩
  rcases stays with rfl | ⟨before, _⟩ | ⟨_, file⟩
  · exact directory
  · exact before
  · cases new <;> simp [Entry.isFile, Entry.isDirectory] at file directory

theorem step_settled {loc : Location} {part : Component} (start : (t.get? loc).isSome)
    (known : t.step loc part ≠ .stop .notFound) : t'.step loc part = t.step loc part := by
  have inside := keeps.isDirectory_eq start
  cases part with
  | root => rfl
  | current => rw [step, step, inside]
  | parent => rw [step, step, inside]
  | name n =>
    rw [step] at known
    rw [step, step, inside]
    split
    swap
    · rfl
    rename_i directory
    split
    · rfl
    rename_i short
    rw [if_pos directory, if_neg short] at known
    cases here : t.get? (loc ++ [n]) with
    | none => simp [here] at known
    | some old =>
      obtain ⟨new, there, stays⟩ := keeps.stays here
      rw [there]
      cases old with
      | link target => rw [stays.link]
      | file content m =>
        cases new with
        | link target => cases stays.noLink rfl
        | _ => rfl
      | directory m =>
        cases new with
        | link target => cases stays.noLink rfl
        | _ => rfl
      | unreadable m =>
        cases new with
        | link target => cases stays.noLink rfl
        | _ => rfl

variable (sound : t.Sound)
include sound

theorem followWith_settled {onLink onLink' : Location → Text → Path → Except FileError Location}
    (after : ∀ {loc target rest}, (t.get? loc).isSome →
      onLink loc target rest ≠ .error .notFound →
      onLink' loc target rest = onLink loc target rest)
    (p : Path) {loc : Location} (start : (t.get? loc).isSome)
    (known : t.followWith false onLink loc p ≠ .error .notFound) :
    t'.followWith false onLink' loc p = t.followWith false onLink loc p := by
  induction p generalizing loc with
  | nil => rfl
  | cons part rest ih =>
    rw [followWith_cons] at known
    rw [followWith_cons, followWith_cons]
    have here : t'.step loc part = t.step loc part := by
      refine step_settled keeps start fun missing => ?_
      simp [missing] at known
    rw [here]
    cases taken : t.step loc part with
    | go next =>
      rw [taken] at known
      exact ih (step_exists sound start taken) known
    | jump house target =>
      -- a link is the same in both trees, and what follows has one link less to spend
      rw [taken] at known
      obtain rfl := step_jump taken
      exact after start known
    | stop e => rfl

theorem follow_settled {links : Nat} {loc : Location} {p : Path} (start : (t.get? loc).isSome)
    (known : t.follow false links loc p ≠ .error .notFound) :
    t'.follow false links loc p = t.follow false links loc p := by
  induction links generalizing loc p with
  | zero => exact followWith_settled keeps sound (fun _ _ => rfl) p start known
  | succ links ih =>
    exact followWith_settled keeps sound (fun there known => ih there known) p start known

theorem locate_settled {p : Path} (known : t.locate [] p ≠ .error .notFound) :
    t'.locate [] p = t.locate [] p := by
  unfold locate at known ⊢
  split at known
  · exact absurd rfl known
  rename_i some
  rw [if_neg some, if_neg some]
  cases checked : checkPath p with
  | error e => rfl
  | ok _ =>
    simp only [checked, bind, Except.bind] at known ⊢
    exact follow_settled keeps sound (by simp [get?]) known

end Settled

section Parts
variable {t : FileTree}

theorem followWith_fewer {onLink onLink' : Location → Text → Path → Except FileError Location}
    (after : ∀ loc target rest, onLink loc target rest = .error .tooManyLinks ∨
      onLink loc target rest = onLink' loc target rest) (p : Path) (loc : Location) :
    t.followWith false onLink loc p = .error .tooManyLinks ∨
      t.followWith false onLink loc p = t.followWith false onLink' loc p := by
  induction p generalizing loc with
  | nil => exact Or.inr rfl
  | cons part rest ih =>
    rw [followWith_cons, followWith_cons]
    cases t.step loc part with
    | go next => exact ih next
    | jump house target => exact after house target rest
    | stop e => exact Or.inr rfl

theorem follow_fewer {k links : Nat} (fewer : k ≤ links) (loc : Location) (p : Path) :
    t.follow false k loc p = .error .tooManyLinks ∨
      t.follow false k loc p = t.follow false links loc p := by
  induction links generalizing k loc p with
  | zero =>
    obtain rfl : k = 0 := by omega
    exact Or.inr rfl
  | succ links ih =>
    cases k with
    | zero => exact followWith_fewer (fun _ _ _ => Or.inl rfl) p loc
    | succ k => exact followWith_fewer (fun house _ _ => ih (by omega) house _) p loc

theorem followWith_append {onLink : Location → Text → Path → Except FileError Location}
    {middle : Location} {k : Nat}
    (here : ∀ q, t.followWith false onLink middle q = t.follow false k middle q)
    (after : ∀ {loc target rest}, onLink loc target rest = .ok middle →
      ∃ j ≤ k, ∀ q, onLink loc target (rest ++ q) = t.follow false j middle q)
    (p : Path) {loc : Location} (done : t.followWith false onLink loc p = .ok middle) :
    ∃ j ≤ k, ∀ q, t.followWith false onLink loc (p ++ q) = t.follow false j middle q := by
  induction p generalizing loc with
  | nil =>
    cases done
    exact ⟨k, Nat.le_refl k, here⟩
  | cons part rest ih =>
    rw [followWith_cons] at done
    simp only [List.cons_append, followWith_cons]
    cases taken : t.step loc part with
    | go next =>
      rw [taken] at done
      exact ih done
    | jump house target =>
      rw [taken] at done
      exact after done
    | stop e => simp [taken] at done

/-- A path that leads on from where another one ends goes on from there, with the links that are
left. -/
theorem follow_append {links : Nat} {loc middle : Location} {p : Path}
    (done : t.follow false links loc p = .ok middle) :
    ∃ k ≤ links, ∀ q, t.follow false links loc (p ++ q) = t.follow false k middle q := by
  induction links generalizing loc p with
  | zero =>
    refine followWith_append (fun _ => rfl) ?_ p done
    intro _ _ _ failed
    cases failed
  | succ links ih =>
    refine followWith_append (fun _ => rfl) ?_ p done
    intro house target rest further
    obtain ⟨k, fewer, same⟩ := ih further
    exact ⟨k, by omega, fun q => by rw [← same q, List.append_assoc]⟩

theorem followWith_stopped {onLink : Location → Text → Path → Except FileError Location}
    {e : FileError} {q : Path}
    (after : ∀ {loc target rest}, onLink loc target rest = .error e →
      onLink loc target (rest ++ q) = .error e)
    (p : Path) {loc : Location} (failed : t.followWith false onLink loc p = .error e) :
    t.followWith false onLink loc (p ++ q) = .error e := by
  induction p generalizing loc with
  | nil => cases failed
  | cons part rest ih =>
    rw [followWith_cons] at failed
    simp only [List.cons_append, followWith_cons]
    cases taken : t.step loc part with
    | go next =>
      rw [taken] at failed
      exact ih failed
    | jump house target =>
      rw [taken] at failed
      exact after failed
    | stop cause =>
      rw [taken] at failed
      exact failed

theorem follow_stopped {links : Nat} {loc : Location} {p : Path} {e : FileError}
    (failed : t.follow false links loc p = .error e) (q : Path) :
    t.follow false links loc (p ++ q) = .error e := by
  induction links generalizing loc p with
  | zero =>
    refine followWith_stopped ?_ p failed
    intro _ _ _ many
    exact many
  | succ links ih =>
    refine followWith_stopped ?_ p failed
    intro house target rest further
    rw [← List.append_assoc]
    exact ih further

end Parts

section Walks
variable {t : FileTree}

theorem locate_known {p : Path} (some : p ≠ [])
    (known : t.follow false maxLinks [] p ≠ .error .notFound) :
    t.locate [] p ≠ .error .notFound := by
  unfold locate
  rw [if_neg (by simpa using some)]
  cases checked : checkPath p with
  | error e =>
    unfold checkPath at checked
    repeat' split at checked
    all_goals cases checked
    all_goals simp [bind, Except.bind]
  | ok _ => simpa [bind, Except.bind] using known

/-- A path leads to a location, or fails for another reason than that something is missing. -/
def Settles (t : FileTree) (p : Path) (loc : Location) : Prop :=
  t.follow false maxLinks [] p = .ok loc ∨
    ∃ e, e ≠ .notFound ∧ t.follow false maxLinks [] p = .error e

theorem Settles.known {p : Path} {loc : Location} (settles : t.Settles p loc) :
    t.follow false maxLinks [] p ≠ .error .notFound := by
  rcases settles with leads | ⟨e, other, failed⟩
  · simp [leads]
  · simpa [failed] using other

theorem Settles.name {p : Path} {loc found : Location} {n : Text} {e : Entry}
    (settles : t.Settles p loc) (inside : t.DirectoryAt loc)
    (here : t.get? (loc ++ [n]) = some e)
    (leads : (e.isLink = false ∧ found = loc ++ [n]) ∨
      ∃ target, e = .link target ∧ t.follow false maxLinks loc (Path.steps target) = .ok found) :
    t.Settles (p ++ [.name n]) found := by
  rcases settles with done | ⟨cause, other, failed⟩
  swap
  · exact Or.inr ⟨cause, other, follow_stopped failed _⟩
  -- the way to `loc` used up some links, so that a link at its end may be one too many
  obtain ⟨k, fewer, goes_on⟩ := follow_append done
  unfold Settles
  rw [goes_on]
  by_cases long : maxName < Text.byteCount n
  · have taken : t.step loc (.name n) = .stop .nameTooLong := by
      rw [step, if_pos (directory_any.mpr inside), if_pos long]
    refine Or.inr ⟨.nameTooLong, by simp, ?_⟩
    cases k <;> rw [follow, followWith_cons, taken]
  rcases leads with ⟨plain, rfl⟩ | ⟨target, rfl, jump⟩
  · have taken : t.step loc (.name n) = .go (loc ++ [n]) := by
      rw [step, if_pos (directory_any.mpr inside), if_neg long, here]
      cases e with
      | link target => cases plain
      | _ => rfl
    refine Or.inl ?_
    cases k <;> rw [follow, followWith_cons, taken] <;> rfl
  · have taken : t.step loc (.name n) = .jump loc target := by
      rw [step, if_pos (directory_any.mpr inside), if_neg long, here]
    cases k with
    | zero =>
      refine Or.inr ⟨.tooManyLinks, by simp, ?_⟩
      rw [follow, followWith_cons, taken]
    | succ k =>
      rw [follow, followWith_cons, taken]
      simp only [List.append_nil]
      rcases follow_fewer (by omega : k ≤ maxLinks) loc (Path.steps target) with many | same
      · exact Or.inr ⟨.tooManyLinks, by simp, many⟩
      · exact Or.inl (same.trans jump)

theorem walkFrom_settled (sound : t.Sound) (pruned : List Text → Bool) (fuel : Nat)
    (ancestors : List Location) (loc path : Location)
    (settles : t.Settles (Path.absolute path) loc) :
    ∀ f ∈ t.walkFrom pruned fuel ancestors loc path,
      t.follow false maxLinks [] (Path.absolute f.path) ≠ .error .notFound := by
  induction fuel generalizing ancestors loc path with
  | zero => simp [walkFrom]
  | succ fuel ih =>
    intro f member
    rw [walkFrom] at member
    obtain ⟨n, _, member⟩ := List.mem_flatMap.mp member
    -- the walk jumps from the directory it is in with all links to spare; its path may have fewer
    have next : ∀ {e found}, t.get? (loc ++ [n]) = some e →
        ((e.isLink = false ∧ found = loc ++ [n]) ∨
          ∃ target, e = .link target ∧
            t.follow false maxLinks loc (Path.steps target) = .ok found) →
        t.Settles (Path.absolute (path ++ [n])) found := by
      intro e found here leads
      rw [Path.absolute_append]
      exact settles.name (sound.housed here) here leads
    have shown : ∀ {m found}, t.Settles (Path.absolute (path ++ [n])) found →
        f ∈ [(⟨path ++ [n], m⟩ : Found)] →
        t.follow false maxLinks [] (Path.absolute f.path) ≠ .error .notFound := by
      intro m found settled single
      rw [List.mem_singleton.mp single]
      exact settled.known
    simp only at member
    split at member
    · cases member
    split at member
    · cases member
    · rename_i here
      exact shown (next here (Or.inl ⟨rfl, rfl⟩)) member
    · rename_i here
      exact shown (next here (Or.inl ⟨rfl, rfl⟩)) member
    · rename_i here
      exact ih _ _ _ (next here (Or.inl ⟨rfl, rfl⟩)) f member
    · rename_i target here
      split at member
      · cases member
      rename_i found jump
      have settled := next here (Or.inr ⟨target, rfl, jump⟩)
      split at member
      · exact shown settled member
      · exact shown settled member
      · split at member
        · cases member
        · exact ih _ _ _ settled f member
      · cases member

theorem walk_settled (sound : t.Sound) {pruned : List Text → Bool} {root : Location} {f : Found}
    (member : f ∈ t.walk pruned root) :
    t.locate [] (Path.absolute f.path) ≠ .error .notFound := by
  unfold walk at member
  split at member
  · cases member
  split at member
  · cases member
  rename_i loc place
  obtain ⟨_, _, leads⟩ := locate_eq_ok.mp place
  have known := walkFrom_settled sound pruned _ _ loc root (Or.inl leads) f member
  exact locate_known (by simp [Path.absolute]) known

end Walks

theorem read_spared {places : Location → Prop} {t t' : FileTree} (spared : Spared places t t')
    (sound : t.Sound) {p : Path} (known : t.locate [] p ≠ .error .notFound)
    (away : ∀ loc, t.locate [] p = .ok loc → ¬ places loc) (content : Bytes) :
    t'.read [] p = .ok content ↔ t.read [] p = .ok content := by
  have place := locate_settled spared.toKeeps sound known
  unfold read entryAt
  rw [place]
  cases found : t.locate [] p with
  | error cause => simp [bind, Except.bind]
  | ok loc =>
    obtain ⟨e, here⟩ := Option.isSome_iff_exists.mp (locate_exists sound found)
    obtain ⟨new, there, stays⟩ := spared.stays here
    simp only [bind, Except.bind, here, there]
    cases e with
    | file old m =>
      cases (spared.files (away loc found) rfl here).symm.trans there
      rfl
    | unreadable m =>
      cases (spared.unreadable here).symm.trans there
      rfl
    | directory m =>
      have directory := stays.directory rfl
      cases new with
      | directory m' => rfl
      | _ => cases directory
    | link target =>
      rw [stays.link]

end PodSite.FileTree
