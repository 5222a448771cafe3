import PodSite.Proofs.Files.Settled
import PodSite.Proofs.Files.Through

/-!
The output root of settings stays the same once it was made. What exists of its path leads where it
led, and the names that were missing are plain directories below it, or were passed over for a
reason that lasts. Only a path that goes up from a missing directory is left as it is written, and
reads as another one when that directory is there.
-/
namespace PodSite

theorem Text.byteCount_append (a b : Text) : byteCount (a ++ b) = byteCount a + byteCount b := by
  have shift : ∀ (t : Text) (n : Nat),
      t.foldl (fun n c => n + c.utf8Size) n = n + t.foldl (fun n c => n + c.utf8Size) 0 := by
    intro t
    induction t with
    | nil => simp
    | cons c t ih =>
      intro n
      rw [List.foldl_cons, List.foldl_cons, ih, ih (0 + c.utf8Size)]
      omega
  rw [byteCount, List.foldl_append, shift]
  rfl

theorem Path.spell_prefix (p q : Path) : spell p <+: spell (p ++ q) := by
  have slashed : ∀ a b : List Text, ['/'].intercalate a <+: ['/'].intercalate (a ++ b) := by
    intro a b
    induction a with
    | nil => simp
    | cons first rest ih =>
      cases rest with
      | nil =>
        cases b with
        | nil => simp
        | cons second b => simp [List.intercalate_cons_cons]
      | cons second rest =>
        rw [List.cons_append, List.cons_append, List.intercalate_cons_cons,
          List.intercalate_cons_cons]
        exact (List.prefix_append_right_inj _).mpr ih
  cases p with
  | nil => simp [spell]
  | cons part rest =>
    have whole := slashed ((part :: rest).map Component.spell) (q.map Component.spell)
    cases part with
    | root =>
      simp only [spell, List.cons_append, List.map_append]
      exact List.cons_prefix_cons.mpr ⟨rfl, slashed _ _⟩
    | current => simpa [spell] using whole
    | parent => simpa [spell] using whole
    | name n => simpa [spell] using whole

namespace FileTree

theorem Sound.directory_beginning {t : FileTree} (sound : t.Sound) {loc rest : Location}
    (there : t.DirectoryAt (loc ++ rest)) : t.DirectoryAt loc := by
  by_cases last : rest = []
  · simpa [last] using there
  · obtain ⟨m, here⟩ := there
    exact sound.directory_above last here

section Beginnings
variable {t : FileTree}

theorem checkPath_append {p q : Path} (checked : checkPath (p ++ q) = .ok ()) :
    checkPath p = .ok () := by
  obtain ⟨rest, longer⟩ := Path.spell_prefix p q
  have bytes := Text.byteCount_append p.spell rest
  rw [longer] at bytes
  unfold checkPath at checked ⊢
  split at checked
  · cases checked
  rename_i noZero
  split at checked
  · cases checked
  rename_i short
  have zero : ¬ p.hasZero = true := by
    intro zero
    exact noZero (by rw [Path.hasZero, List.any_append, ← Path.hasZero, zero, Bool.true_or])
  rw [if_neg zero, if_neg (by omega)]

theorem leadsSomewhere_iff {p : Path} :
    t.leadsSomewhere [] p = true ↔ ∃ loc, t.locate [] p = .ok loc := by
  unfold leadsSomewhere
  cases t.locate [] p <;> simp

theorem leads_beginning {p q : Path} (some : p ≠ [])
    (leads : t.leadsSomewhere [] (p ++ q) = true) : t.leadsSomewhere [] p = true := by
  obtain ⟨loc, place⟩ := leadsSomewhere_iff.mp leads
  obtain ⟨_, checked, follows⟩ := locate_eq_ok.mp place
  cases ends : t.follow false maxLinks [] p with
  | error e =>
    rw [follow_stopped ends] at follows
    cases follows
  | ok found =>
    exact leadsSomewhere_iff.mpr
      ⟨found, locate_eq_ok.mpr ⟨some, checkPath_append checked, ends⟩⟩

theorem locate_below (sound : t.Sound) {p : Path} {loc names : Location}
    (place : t.locate [] p = .ok loc) (inside : t.DirectoryAt (loc ++ names))
    (short : ∀ n ∈ names, Text.byteCount n ≤ maxName)
    (leads : t.leadsSomewhere [] (p ++ Path.ofNames names) = true) :
    t.locate [] (p ++ Path.ofNames names) = .ok (loc ++ names) := by
  obtain ⟨_, again⟩ := leadsSomewhere_iff.mp leads
  obtain ⟨some, checked, _⟩ := locate_eq_ok.mp again
  obtain ⟨_, _, follows⟩ := locate_eq_ok.mp place
  obtain ⟨k, _, goes_on⟩ := follow_append follows
  have opens : t.Opens loc (Path.ofNames names) := by
    refine ⟨fun x member => ?_, fun n member => ?_⟩
    · obtain ⟨_, rest, whole⟩ := Path.mem_stops_ofNames.mp member
      exact sound.directory_beginning (whole ▸ inside)
    · have listed : n ∈ names := by simpa [Path.ofNames] using member
      exact Nat.not_lt.mpr (short n listed)
  have through : ∀ onLink, t.followWith false onLink loc (Path.ofNames names) =
      .ok (loc ++ names) := by
    intro onLink
    have := followWith_through opens [] false onLink
    rwa [List.append_nil, Path.leadFrom_ofNames, followWith] at this
  refine locate_eq_ok.mpr ⟨some, checked, ?_⟩
  rw [goes_on]
  cases k <;> exact through _

theorem Settles.dot {p : Path} {loc : Location} (settles : t.Settles p loc)
    (inside : t.DirectoryAt loc) : t.Settles (p ++ [.current]) loc := by
  rcases settles with done | ⟨e, other, failed⟩
  · obtain ⟨k, _, goes_on⟩ := follow_append done
    refine Or.inl ?_
    rw [goes_on]
    cases k <;> rw [follow, followWith, if_pos (directory_any.mpr inside), followWith]
  · exact Or.inr ⟨e, other, follow_stopped failed _⟩

end Beginnings

section Making
variable {t t' : FileTree} {loc : Location} {rest : Path} {u : Unit}

theorem keeps_made (sound : t.Sound) {p : Path} (made : t.makeDirectories p = (t', .ok u)) :
    Keeps t t' := by
  have spared := spared_makeDirectories sound (fun _ => False) p
  rw [made] at spared
  exact spared.toKeeps

theorem makeDirectoriesFrom_taken {n : Text} {e : Entry} (here : t.get? (loc ++ [n]) = some e)
    (done : t.makeDirectoriesFrom loc (.name n :: rest) = (t', .ok u)) :
    ∃ found, ((e.isLink = false ∧ found = loc ++ [n]) ∨
        ∃ target, e = .link target ∧ t.follow false maxLinks loc (Path.steps target) = .ok found) ∧
      t.DirectoryAt found ∧ t.makeDirectoriesFrom found rest = (t', .ok u) := by
  rw [makeDirectoriesFrom] at done
  split at done
  · cases done
  rw [here] at done
  cases e with
  | directory m => exact ⟨_, Or.inl ⟨rfl, rfl⟩, ⟨m, here⟩, done⟩
  | file content m => cases done
  | unreadable m => cases done
  | link target =>
    simp only at done
    split at done
    · cases done
    · cases done
    · rename_i found jump
      split at done
      · rename_i directory
        exact ⟨found, Or.inr ⟨target, rfl, jump⟩, directory_any.mp directory, done⟩
      · cases done

theorem makeDirectoriesFrom_past (sound : t.Sound) (names : List Text)
    (inside : t.DirectoryAt loc) {e : Entry} (here : t.get? (loc ++ names) = some e)
    (plain : e.isLink = false)
    (done : t.makeDirectoriesFrom loc (Path.ofNames names ++ rest) = (t', .ok u)) :
    t.DirectoryAt (loc ++ names) ∧ t.makeDirectoriesFrom (loc ++ names) rest = (t', .ok u) := by
  induction names generalizing loc with
  | nil => exact ⟨by simpa using inside, by simpa [Path.ofNames] using done⟩
  | cons n names ih =>
    have split : loc ++ n :: names = (loc ++ [n]) ++ names := by simp
    rw [split] at here ⊢
    obtain ⟨e₁, first, plain₁⟩ : ∃ e₁, t.get? (loc ++ [n]) = some e₁ ∧ e₁.isLink = false := by
      by_cases last : names = []
      · exact ⟨e, by simpa [last] using here, plain⟩
      · obtain ⟨m, above⟩ := sound.directory_above last here
        exact ⟨_, above, rfl⟩
    obtain ⟨found, leads, directory, further⟩ := makeDirectoriesFrom_taken first done
    rcases leads with ⟨_, rfl⟩ | ⟨target, rfl, _⟩
    · exact ih directory here further
    · cases plain₁

theorem makeDirectoriesFrom_fresh (sound : t.Sound) (names : List Text)
    (inside : t.DirectoryAt loc) (missing : ∀ n ∈ names.head?, t.get? (loc ++ [n]) = none)
    (done : t.makeDirectoriesFrom loc (Path.ofNames names) = (t', .ok u)) :
    (∀ n ∈ names, Text.byteCount n ≤ maxName) ∧ t'.DirectoryAt (loc ++ names) := by
  induction names generalizing t loc with
  | nil =>
    cases done
    exact ⟨by simp, by simpa using inside⟩
  | cons n names ih =>
    have path : Path.ofNames (n :: names) = .name n :: Path.ofNames names := rfl
    have split : loc ++ n :: names = (loc ++ [n]) ++ names := by simp
    have absent := missing n rfl
    rw [path, makeDirectoriesFrom] at done
    by_cases long : maxName < Text.byteCount n
    · simp [if_pos long] at done
    rw [if_neg long, absent] at done
    have made := get?_add_self t (.directory t.now) (by simp : loc ++ [n] ≠ [])
    have added : Spared (fun _ => False) t _ := spared_directory sound inside absent
    have below : ∀ m ∈ names.head?,
        (t.add (loc ++ [n]) (.directory t.now)).get? (loc ++ [n] ++ [m]) = none := by
      intro m _
      have nothing : t.get? (loc ++ [n] ++ [m]) = none := by
        by_contra there
        obtain ⟨e, there⟩ := Option.ne_none_iff_exists'.mp there
        obtain ⟨_, above⟩ := sound.housed there
        rw [absent] at above
        cases above
      rcases get?_add_of_ne t (.directory t.now) (by simp : loc ++ [n] ≠ [])
        (by simp : loc ++ [n] ++ [m] ≠ loc ++ [n]) with same | ⟨stamped, _⟩
      · rw [same, nothing]
      · simpa using congrArg List.length stamped
    obtain ⟨short, there⟩ := ih added.sound ⟨_, made⟩ below done
    rw [split]
    exact ⟨List.forall_mem_cons.mpr ⟨Nat.le_of_not_lt long, short⟩, there⟩

end Making
end FileTree

namespace Config
open FileTree

section Parts
variable {t : FileTree} {p existing : Path} {back : List Text}

theorem existingPart_found {missing : List Text}
    (found : existingPart t missing p.reverse = some (existing, back)) :
    ∃ names, p = existing ++ Path.ofNames names ∧ back = names ++ missing ∧
      t.leadsSomewhere [] existing = true ∧
      ∀ n ∈ names.head?, ¬ t.leadsSomewhere [] (existing ++ [.name n]) = true := by
  induction p using List.reverseRecOn generalizing missing with
  | nil => simp [existingPart] at found
  | append_singleton front last ih =>
    rw [List.reverse_concat, existingPart.eq_def] at found
    simp only [List.reverse_cons, List.reverse_reverse] at found
    split at found
    · rename_i leads
      cases found
      exact ⟨[], by simp [Path.ofNames], rfl, leads, by simp⟩
    rename_i lost
    cases last with
    | name n =>
      obtain ⟨names, rfl, rfl, leads, first⟩ := ih found
      refine ⟨names ++ [n], by simp [Path.ofNames], by simp, leads, ?_⟩
      cases names with
      | nil => simpa [Path.ofNames] using lost
      | cons m names => simpa using first
    | root => cases found
    | current => cases found
    | parent => cases found

/-- A slash at the end of a path asks for a directory, if no names are left after it. -/
def slashDot (slash : Prop) [Decidable slash] (rest : List Text) : Path :=
  if slash ∧ rest = [] then [.current] else []

variable {slash : Prop} [Decidable slash]

theorem splitOutput_found (found : splitOutput t p slash = some (existing, back)) :
    p = existing ++ Path.ofNames back ∧ t.leadsSomewhere [] (existing ++ slashDot slash back) ∧
      t.leadsSomewhere [] existing ∧
      ∀ n more, back = n :: more →
        ¬ t.leadsSomewhere [] (existing ++ .name n :: slashDot slash more) = true := by
  unfold splitOutput at found
  split at found
  · rename_i away
    obtain ⟨asks, away⟩ := away
    split at found
    · rename_i last ends
      have split := List.dropLast_append_getLast? _ ends
      obtain ⟨names, front, rfl, leads, first⟩ := existingPart_found found
      have path : p = existing ++ Path.ofNames (names ++ [last]) := by
        rw [← split, front]
        simp [Path.ofNames]
      refine ⟨path, by simpa [slashDot] using leads, leads, ?_⟩
      intro n more shape
      cases names with
      | nil =>
        obtain ⟨rfl, rfl⟩ := List.cons.inj shape
        simpa [slashDot, asks, path, Path.ofNames] using away
      | cons m names =>
        obtain ⟨rfl, rfl⟩ := List.cons.inj shape
        simpa [slashDot] using first
    · cases found
  · rename_i direct
    obtain ⟨names, rfl, whole, leads, first⟩ := existingPart_found found
    rw [List.append_nil] at whole
    subst whole
    have asked : slash → t.leadsSomewhere [] (existing ++ Path.ofNames back ++ [.current]) = true :=
      fun asks => by simpa [asks] using direct
    refine ⟨rfl, ?_, leads, ?_⟩
    · unfold slashDot
      split
      · rename_i whole
        obtain ⟨asks, rfl⟩ := whole
        simpa [Path.ofNames] using asked asks
      · simpa using leads
    · rintro n more rfl
      have lost := first n rfl
      unfold slashDot
      split
      · -- a path that leads to a directory does so without the slash, and would have been taken
        rename_i whole
        obtain ⟨asks, rfl⟩ := whole
        exact absurd (leads_beginning (by simp [Path.ofNames]) (asked asks)) lost
      · exact lost

theorem splitOutput_reaches (leads : t.leadsSomewhere [] existing = true) {names : List Text}
    (whole : t.leadsSomewhere [] (existing ++ slashDot slash names) = true) :
    ∃ front rest, names = front ++ rest ∧
      splitOutput t (existing ++ Path.ofNames names) slash =
        some (existing ++ Path.ofNames front, rest) ∧
      t.leadsSomewhere [] (existing ++ Path.ofNames front ++ slashDot slash rest) = true := by
  unfold splitOutput
  split
  · rename_i away
    obtain ⟨asks, away⟩ := away
    cases names using List.reverseRecOn with
    | nil =>
      simp only [slashDot, asks, and_self, if_true] at whole
      simp [Path.ofNames, whole] at away
    | append_singleton names n =>
      obtain ⟨front, rest, rfl, found, there⟩ := existingPart_reaches leads names [n]
      refine ⟨front, rest ++ [n], by simp, ?_, by simpa [slashDot] using there⟩
      have split : existing ++ Path.ofNames (front ++ rest ++ [n]) =
          existing ++ Path.ofNames (front ++ rest) ++ [.name n] := by simp [Path.ofNames]
      rw [split, List.getLast?_concat, List.dropLast_concat]
      exact found
  · rename_i direct
    obtain ⟨front, rest, rfl, found, there⟩ := existingPart_reaches leads names []
    refine ⟨front, rest, rfl, by simpa using found, ?_⟩
    unfold slashDot
    split
    · rename_i whole
      obtain ⟨asks, rfl⟩ := whole
      simpa [asks] using direct
    · simpa using there

end Parts

section Made
variable {t t' : FileTree} (sound : t.Sound) {existing : Path} {loc : Location} {u : Unit}
include sound

theorem locate_taken {n : Text} {rest q : Path} {e : Entry}
    (place : t.locate [] existing = .ok loc) (here : t.get? (loc ++ [n]) = some e)
    (done : t.makeDirectoriesFrom loc (.name n :: rest) = (t', .ok u))
    (dots : q = [] ∨ q = [.current]) :
    t.locate [] (existing ++ .name n :: q) ≠ .error .notFound := by
  obtain ⟨_, _, follows⟩ := locate_eq_ok.mp place
  obtain ⟨found, leads, directory, _⟩ := makeDirectoriesFrom_taken here done
  have settles : t.Settles (existing ++ [.name n]) found :=
    Settles.name (Or.inl follows) (sound.housed here) here leads
  refine locate_known (by simp) ?_
  rcases dots with rfl | rfl
  · exact settles.known
  · simpa using (settles.dot directory).known

theorem locate_made {slash : Prop} [Decidable slash] {front rest : List Text}
    (place : t.locate [] existing = .ok loc)
    (lost : ∀ n more, front ++ rest = n :: more →
      ¬ t.leadsSomewhere [] (existing ++ .name n :: slashDot slash more) = true)
    (made : t.makeDirectories (Path.absolute (loc ++ (front ++ rest))) = (t', .ok u))
    (leads : t'.leadsSomewhere [] (existing ++ Path.ofNames front ++ slashDot slash rest) = true) :
    t'.locate [] (existing ++ Path.ofNames front) = .ok (loc ++ front) := by
  have keeps := keeps_made sound made
  cases front with
  | nil => simpa [Path.ofNames] using locate_keeps keeps place
  | cons n front =>
    obtain ⟨_, _, follows⟩ := locate_eq_ok.mp place
    obtain ⟨e, top, plain⟩ | ⟨creates, _⟩ := follow_ends sound t.root_directory follows
    swap
    · cases creates
    have done : t.makeDirectoriesFrom []
        (Path.ofNames loc ++ Path.ofNames (n :: front ++ rest)) = (t', .ok u) := by
      unfold makeDirectories at made
      split at made
      · cases made
      · rw [Path.absolute_append, Path.absolute, List.cons_append, makeDirectoriesFrom] at made
        exact made
    obtain ⟨inside, further⟩ :=
      makeDirectoriesFrom_past sound loc t.root_directory top plain done
    rw [List.nil_append] at inside further
    cases here : t.get? (loc ++ [n]) with
    | none =>
      -- all of the names are new, so that plain directories stand there
      obtain ⟨short, there⟩ :=
        makeDirectoriesFrom_fresh sound (n :: front ++ rest) inside (by simpa using here) further
      have directory : t'.DirectoryAt (loc ++ n :: front) :=
        keeps.sound.directory_beginning (by simpa using there)
      exact locate_below keeps.sound (locate_keeps keeps place) directory
        (fun m member => short m (List.mem_append_left rest member))
        (leads_beginning (by simp [Path.ofNames]) leads)
    | some e =>
      -- the way past `n` failed before and does so now: nothing missing was in its way
      refine absurd ?_ (lost n (front ++ rest) rfl)
      have dots : slashDot slash (front ++ rest) = [] ∨
          slashDot slash (front ++ rest) = [.current] := by
        unfold slashDot
        split <;> simp
      have same := locate_settled keeps sound (locate_taken sound place here further dots)
      have now : t'.leadsSomewhere [] (existing ++ .name n :: slashDot slash (front ++ rest)) =
          true := by
        by_cases last : front ++ rest = []
        · obtain ⟨rfl, rfl⟩ := List.append_eq_nil_iff.mp last
          simpa [Path.ofNames] using leads
        · have longer : existing ++ Path.ofNames (n :: front) ++ slashDot slash rest =
              existing ++ [.name n] ++ (Path.ofNames front ++ slashDot slash rest) := by
            simp [Path.ofNames]
          rw [longer] at leads
          simpa [slashDot, last] using leads_beginning (by simp) leads
      unfold leadsSomewhere at now ⊢
      rwa [same] at now

theorem outputRootOf_made {cwd : Location} {written spelling : Text} {root : Path}
    (found : outputRootOf t cwd written = .ok (root, spelling)) (down : Component.parent ∉ root)
    (made : t.makeDirectories root = (t', .ok u)) :
    outputRootOf t' cwd written = .ok (root, spelling) := by
  have keeps := keeps_made sound made
  obtain ⟨full, existing, loc, missing, split, place, rfl, rfl⟩ := outputRootOf_split found down
  obtain ⟨path, whole, leads, lost⟩ := splitOutput_found split
  have stays : ∀ {q}, t.leadsSomewhere [] q = true → t'.leadsSomewhere [] q = true := by
    intro q leads
    obtain ⟨there, place⟩ := leadsSomewhere_iff.mp leads
    exact leadsSomewhere_iff.mpr ⟨there, locate_keeps keeps place⟩
  obtain ⟨front, rest, rfl, split', leads'⟩ := splitOutput_reaches (stays leads) (stays whole)
  rw [← path] at split'
  have place' := locate_made sound place lost made leads'
  rw [outputRootOf_eq, if_neg (by simpa using full), split']
  simp [place', bind, Except.bind, pure, Except.pure]

end Made

section Libraries
variable {t t' : FileTree} (keeps : Keeps t t') {cwd : Location}
include keeps

theorem locateText_keeps {written : Text} {loc : Location}
    (found : t.locateText cwd written = .ok loc) : t'.locateText cwd written = .ok loc := by
  unfold locateText at found ⊢
  split at found
  · cases found
  rename_i full
  rw [if_neg full]
  obtain ⟨some, checked, follows⟩ := locate_eq_ok.mp found
  have follows' := follow_keeps keeps (fun creates => absurd creates (by simp)) follows
  exact locate_eq_ok.mpr ⟨some, checked, follows'⟩

theorem libraryRootOf_keeps {written : Text} {loc : Location}
    (found : libraryRootOf t cwd written = .ok loc) : libraryRootOf t' cwd written = .ok loc := by
  unfold libraryRootOf at found ⊢
  cases place : t.locateText cwd written with
  | error cause => simp [place] at found
  | ok there =>
    simp only [place] at found
    split at found
    · rename_i directory
      have directory' := directory_any.mpr (keeps.directory (directory_any.mp directory))
      simp only [locateText_keeps keeps place, if_pos directory']
      exact found
    · cases found

theorem libraryRootsOf_keeps (written : List Text) {found roots : List Location}
    (resolved : libraryRootsOf t cwd found written = .ok roots) :
    libraryRootsOf t' cwd found written = .ok roots := by
  induction written generalizing found with
  | nil => exact resolved
  | cons first rest ih =>
    rw [libraryRootsOf] at resolved ⊢
    cases here : libraryRootOf t cwd first with
    | error e => simp [here] at resolved
    | ok loc =>
      rw [here] at resolved
      rw [libraryRootOf_keeps keeps here]
      exact ih resolved

end Libraries

theorem resolve_again {t t' : FileTree} (keeps : Keeps t t') {cwd : Location} {file : Option Text}
    {s : Settings} {c : Config} (resolved : resolve t cwd file s = .ok c)
    (output : outputRootOf t' cwd (besideFile file s.output) =
      .ok (c.outputRoot, c.outputSpelling)) : resolve t' cwd file s = .ok c := by
  have before := resolve_output resolved
  unfold resolve at resolved ⊢
  simp only [before, bind, Except.bind] at resolved
  simp only [output, bind, Except.bind]
  cases libraries : libraryRootsOf t cwd [] (s.libraries.map (besideFile file)) with
  | error e => simp [libraries] at resolved
  | ok roots =>
    simp only [libraries] at resolved
    simp only [libraryRootsOf_keeps keeps _ libraries]
    exact resolved

section Up

/-- The path of an output root as a whole: a slash at its end asks for a directory. -/
def outputPath (cwd : Location) (written : Text) : Path :=
  Path.fromDirectory cwd written ++ slashDot (written.getLast? = some '/') []

/-- A path that goes up last, whatever dots come after. -/
def GoesUp (p : Path) : Prop :=
  ∃ front dots, p = front ++ .parent :: dots ∧ ∀ part ∈ dots, part = .current

theorem GoesUp.ne_nil {p : Path} (up : GoesUp p) : p ≠ [] := by
  obtain ⟨front, dots, rfl, _⟩ := up
  simp

theorem GoesUp.before {q existing rest : Path} {n : Text} (up : GoesUp q)
    (start : q <+: existing ++ .name n :: rest) (down : Component.parent ∉ rest) :
    q <+: existing := by
  obtain ⟨front, dots, rfl, all_dots⟩ := up
  rcases List.prefix_or_prefix_of_prefix start (List.prefix_append existing _) with inside | beyond
  · exact inside
  obtain ⟨more, whole⟩ := beyond
  rw [← whole, List.prefix_append_right_inj] at start
  cases more with
  | nil => simp [← whole]
  | cons part more =>
    obtain ⟨rfl, later⟩ := List.cons_prefix_cons.mp start
    exfalso
    rcases List.append_eq_append_iff.mp whole with ⟨a, rfl, same⟩ | ⟨a, rfl, same⟩
    · cases a with
      | nil => cases same
      | cons b a =>
        obtain ⟨_, same⟩ := List.cons.inj same
        exact down (later.subset (by simp [same]))
    · cases a with
      | nil => cases same
      | cons b a =>
        obtain ⟨_, same⟩ := List.cons.inj same
        cases all_dots (.name n) (by simp [same])

variable {t : FileTree} {slash : Prop} [Decidable slash]

theorem splitOutput_isSome_iff {front : Path} (names : List Text)
    (last : front = Path.absolute [] ∨ ∃ above, front = above ++ [.parent]) :
    (splitOutput t (front ++ Path.ofNames names) slash).isSome ↔
      ∀ q, q <+: front ++ Path.ofNames names ++ slashDot slash [] → GoesUp q →
        t.leadsSomewhere [] q = true := by
  constructor
  · intro found q start up
    obtain ⟨⟨existing, back⟩, found⟩ := Option.isSome_iff_exists.mp found
    obtain ⟨path, whole, leads, _⟩ := splitOutput_found found
    rw [path] at start
    -- only names are left over, so a part that goes up is a beginning of what was found
    cases back with
    | nil =>
      obtain ⟨rest, longer⟩ := start
      rw [Path.ofNames, List.map_nil, List.append_nil] at longer
      exact leads_beginning up.ne_nil (longer ▸ whole)
    | cons n more =>
      have down : Component.parent ∉ Path.ofNames more ++ slashDot slash [] := by
        unfold slashDot
        split <;> simp [Path.ofNames]
      obtain ⟨rest, longer⟩ := up.before (by simpa [Path.ofNames] using start) down
      exact leads_beginning up.ne_nil (longer ▸ leads)
  · intro all
    have dots : ∀ part ∈ slashDot slash [], part = Component.current := by
      unfold slashDot
      split <;> simp
    -- in front of the names stands the root, or a part that goes up and so leads somewhere
    have leads : t.leadsSomewhere [] front = true := by
      rcases last with rfl | ⟨above, rfl⟩
      · exact leadsSomewhere_root t
      · rw [List.append_assoc] at all
        exact all _ (List.prefix_append _ _) ⟨above, [], rfl, by simp⟩
    have whole : t.leadsSomewhere [] (front ++ slashDot slash names) = true := by
      by_cases none : names = []
      swap
      · simpa [slashDot, none] using leads
      subst none
      rcases last with rfl | ⟨above, rfl⟩
      · unfold slashDot
        split
        · exact leadsSomewhere_root_dot t
        · simpa using leads
      · exact all _ (by simp [Path.ofNames]) ⟨above, _, by simp, dots⟩
    obtain ⟨_, _, _, found, _⟩ := splitOutput_reaches leads whole
    simp [found]

theorem fromDirectory_last (cwd : Location) (written : Text) :
    ∃ front names, Path.fromDirectory cwd written = front ++ Path.ofNames names ∧
      (front = Path.absolute [] ∨ ∃ above, front = above ++ [.parent]) := by
  obtain ⟨start, rest, shape, _, goes_on⟩ := Path.fromDirectory_shape cwd written
  rw [shape]
  clear shape
  induction rest using List.reverseRecOn with
  | nil => exact ⟨Path.absolute [], start, by simp [Path.absolute, Path.ofNames], Or.inl rfl⟩
  | append_singleton rest part ih =>
    rcases goes_on part (by simp) with rfl | ⟨n, rfl, _⟩
    · exact ⟨Path.absolute start ++ rest ++ [.parent], [], by simp [Path.ofNames],
        Or.inr ⟨_, rfl⟩⟩
    · obtain ⟨front, names, same, last⟩ := ih fun x member => goes_on x (by simp [member])
      exact ⟨front, names ++ [n], by rw [← List.append_assoc, same]; simp [Path.ofNames], last⟩

/-- An output root starts at the root. It goes up just when some part of its path does that leads
nowhere. -/
theorem outputRootOf_shape {cwd : Location} {written spelling : Text} {root : Path}
    (found : outputRootOf t cwd written = .ok (root, spelling)) :
    root.head? = some .root ∧ (Component.parent ∉ root ↔
      ∀ q, q <+: outputPath cwd written → GoesUp q → t.leadsSomewhere [] q = true) := by
  obtain ⟨front, names, path, last⟩ := fromDirectory_last cwd written
  have condition := @splitOutput_isSome_iff t (written.getLast? = some '/') _ front names last
  rw [← path] at condition
  rw [outputPath, ← condition]
  have written_out := found
  rw [outputRootOf_eq] at written_out
  split at written_out
  · cases written_out
  split at written_out
  · rename_i nothing
    cases written_out
    obtain ⟨start, rest, shape, _⟩ := Path.fromDirectory_shape cwd written
    refine ⟨by simp [shape, Path.absolute], fun down => ?_, fun some => ?_⟩
    · obtain ⟨_, _, _, _, split, _⟩ := outputRootOf_split found down
      simp [split]
    · simp [nothing] at some
  · rename_i existing missing split
    cases located : t.locate [] existing with
    | error cause => simp [located, bind, Except.bind] at written_out
    | ok loc =>
      simp only [located, bind, Except.bind, pure, Except.pure, Except.ok.injEq,
        Prod.mk.injEq] at written_out
      rw [← written_out.1, split]
      simp [Path.absolute, Path.ofNames]

end Up

/-- The output root of resolved settings starts at the root. It does not go up just when each part
of its path that goes up leads somewhere; and then the settings are resolved to the same
configuration once the output root was made. -/
theorem resolve_stable {t : FileTree} (sound : t.Sound) {cwd : Location} {file : Option Text}
    {s : Settings} {c : Config} (resolved : resolve t cwd file s = .ok c) :
    c.outputRoot.head? = some .root ∧
    (Component.parent ∉ c.outputRoot ↔
      ∀ q, q <+: outputPath cwd (besideFile file s.output) → GoesUp q →
        t.leadsSomewhere [] q = true) ∧
    (Component.parent ∉ c.outputRoot → ∀ t' u, t.makeDirectories c.outputRoot = (t', .ok u) →
      resolve t' cwd file s = .ok c) := by
  have output := resolve_output resolved
  obtain ⟨absolute, condition⟩ := outputRootOf_shape output
  refine ⟨absolute, condition, fun down t' u made => ?_⟩
  exact resolve_again (keeps_made sound made) resolved (outputRootOf_made sound output down made)

theorem resolve_of_parts {t : FileTree} {cwd : Location} {file : Option Text} {s : Settings}
    {root : Path} {spelling : Text} {roots : List Location} {exclude : List Pattern}
    {groups : List Group}
    (output : outputRootOf t cwd (besideFile file s.output) = .ok (root, spelling))
    (libraries : libraryRootsOf t cwd [] (s.libraries.map (besideFile file)) = .ok roots)
    (patterns : patternsOf s.exclude = .ok exclude)
    (grouped : GroupDeclaration.resolveAll s.groups = .ok groups) :
    resolve t cwd file s = .ok ⟨root, spelling, roots, exclude, s.force, s.project, groups⟩ := by
  simp [resolve, output, libraries, patterns, grouped, bind, Except.bind, pure, Except.pure]

def linkedTree : FileTree :=
  ⟨[ (["w".toList], .directory 0), (["w".toList, "real".toList], .directory 0),
    (["w".toList, "link".toList], .link "real".toList), (["w".toList, "lib".toList], .directory 0)],
    5⟩

def linkedSettings (output : Text) : Settings :=
  { Settings.default with output := output, libraries := ["lib".toList], groups := some [] }

theorem resolve_stable_linked : linkedTree.Sound ∧
    ∃ c t' u,
      resolve linkedTree ["w".toList] none (linkedSettings "lib/../link/new//out/".toList) = .ok c ∧
      c.outputRoot = Path.absolute ["w".toList, "real".toList, "new".toList, "out".toList] ∧
      linkedTree.makeDirectories c.outputRoot = (t', .ok u) ∧
      t'.DirectoryAt ["w".toList, "real".toList, "new".toList, "out".toList] ∧
      resolve t' ["w".toList] none (linkedSettings "lib/../link/new//out/".toList) = .ok c := by
  have sound : linkedTree.Sound := sound_of_entries (by decide) (by decide)
  have resolved := @resolve_of_parts linkedTree ["w".toList] none
    (linkedSettings "lib/../link/new//out/".toList)
    (Path.absolute ["w".toList, "real".toList, "new".toList, "out".toList])
    "/w/real/new/out".toList [["w".toList, "lib".toList]] [] [] (by decide +kernel)
    (by decide +kernel) rfl rfl
  obtain ⟨_, _, stable⟩ := resolve_stable sound resolved
  have made : linkedTree.makeDirectories
      (Path.absolute ["w".toList, "real".toList, "new".toList, "out".toList]) = (_, .ok ()) :=
    Prod.ext rfl (by decide +kernel)
  exact ⟨sound, _, _, (), resolved, rfl, made, directory_any.mp (by decide +kernel),
    stable (by decide) _ () made⟩

/-- Up from a directory that is missing: the link in front is not resolved, and once the missing
directory was made, the settings are resolved to another output root. -/
theorem resolve_moves : linkedTree.Sound ∧
    ∃ c c' t' u,
      resolve linkedTree ["w".toList] none (linkedSettings "link/new/../out".toList) = .ok c ∧
      c.outputRoot = Path.absolute ["w".toList, "link".toList, "new".toList] ++
        [.parent, .name "out".toList] ∧
      linkedTree.makeDirectories c.outputRoot = (t', .ok u) ∧
      resolve t' ["w".toList] none (linkedSettings "link/new/../out".toList) = .ok c' ∧
      c'.outputRoot = Path.absolute ["w".toList, "real".toList, "out".toList] := by
  have before := @resolve_of_parts linkedTree ["w".toList] none
    (linkedSettings "link/new/../out".toList)
    (Path.absolute ["w".toList, "link".toList, "new".toList] ++ [.parent, .name "out".toList])
    "/w/link/new/../out".toList [["w".toList, "lib".toList]] [] [] (by decide +kernel)
    (by decide +kernel) rfl rfl
  have made : linkedTree.makeDirectories (Path.absolute ["w".toList, "link".toList, "new".toList] ++
      [.parent, .name "out".toList]) = (_, .ok ()) := Prod.ext rfl (by decide +kernel)
  have after := @resolve_of_parts (linkedTree.makeDirectories (Path.absolute ["w".toList,
      "link".toList, "new".toList] ++ [.parent, .name "out".toList])).1 ["w".toList] none
    (linkedSettings "link/new/../out".toList)
    (Path.absolute ["w".toList, "real".toList, "out".toList])
    "/w/real/out".toList [["w".toList, "lib".toList]] [] [] (by decide +kernel)
    (by decide +kernel) rfl rfl
  exact ⟨sound_of_entries (by decide) (by decide), _, _, _, (), before, rfl, made, after, rfl⟩

end Config
end PodSite
