import Mathlib.Data.List.Basic
import PodSite.Files.Tree

/-!
Paths of names below a root, and the paths that written ones are read as.
-/
namespace PodSite

def Text.IsFileName (n : Text) : Prop := n ≠ [] ∧ n ≠ ['.'] ∧ n ≠ ['.', '.'] ∧ '/' ∉ n

instance : DecidablePred Text.IsFileName := fun n =>
  inferInstanceAs (Decidable (n ≠ [] ∧ n ≠ ['.'] ∧ n ≠ ['.', '.'] ∧ '/' ∉ n))

theorem Text.splitOn_eq (mark : Char) (t : Text) : splitOn mark t = List.splitOn mark t := by
  induction t with
  | nil => rfl
  | cons c rest ih =>
    rw [splitOn, ih, List.splitOn_cons_eq_if_modifyHead]
    simp only [beq_iff_eq]
    split
    · rfl
    · cases pieces : List.splitOn mark rest with
      | nil => exact absurd pieces (List.splitOn_ne_nil mark rest)
      | cons piece more => rfl

theorem Text.mark_notMem_splitOn (mark : Char) (t : Text) :
    ∀ piece ∈ splitOn mark t, mark ∉ piece := by
  induction t with
  | nil => simp [splitOn]
  | cons c rest ih =>
    intro piece member
    rw [splitOn] at member
    split at member
    · rcases List.mem_cons.mp member with rfl | h
      · simp
      · exact ih piece h
    · rename_i other
      cases pieces : splitOn mark rest with
      | nil =>
        simp only [pieces, List.mem_singleton] at member
        simp [member, Ne.symm other]
      | cons first more =>
        simp only [pieces] at member
        rcases List.mem_cons.mp member with rfl | h
        · simp [Ne.symm other, ih first (by simp [pieces])]
        · exact ih piece (by simp [pieces, h])

namespace Path

def names (p : Path) : Location :=
  p.filterMap fun part =>
    match part with
    | .name n => some n
    | _ => none

@[simp] theorem names_absolute (loc : Location) : (absolute loc).names = loc := by
  simp [names, absolute, ofNames, List.filterMap_map]

theorem absolute_injective {p q : Location} (same : absolute p = absolute q) : p = q := by
  rw [← names_absolute p, ← names_absolute q, same]

theorem absolute_append (p q : Location) : absolute (p ++ q) = absolute p ++ ofNames q := by
  simp [absolute, ofNames]

theorem absolute_prefix {p q : Location} : absolute p <+: absolute q ↔ p <+: q := by
  constructor
  · rintro ⟨rest, same⟩
    refine ⟨names rest, ?_⟩
    have := congrArg names same
    rw [← names_absolute q, ← this]
    simp [names, absolute, ofNames, List.filterMap_map]
  · rintro ⟨rest, rfl⟩
    exact ⟨ofNames rest, (absolute_append p rest).symm⟩

theorem below?_eq_some {base p rest : Path} (found : below? base p = some rest) :
    p = base ++ rest := by
  induction base generalizing p with
  | nil =>
    simp only [below?, Option.some.injEq] at found
    exact found
  | cons a base ih =>
    cases p with
    | nil => simp [below?] at found
    | cons b p =>
      simp only [below?] at found
      split at found
      · rename_i same
        rw [same, ih found, List.cons_append]
      · cases found

theorem below?_absolute {root path : Location} {rest : Path}
    (found : below? (absolute root) (absolute path) = some rest) :
    ∃ names, path = root ++ names ∧ rest = ofNames names := by
  have whole := below?_eq_some found
  obtain ⟨names, rfl⟩ := absolute_prefix.mp ⟨rest, whole.symm⟩
  refine ⟨names, rfl, ?_⟩
  rw [absolute_append] at whole
  exact (List.append_cancel_left whole).symm

/-- A component of a path that was read and goes down from a directory, or up. -/
def GoesOn (part : Component) : Prop := part = .parent ∨ ∃ n, part = .name n ∧ n.IsFileName

theorem ofSegment_goesOn {segment : Text} (whole : '/' ∉ segment)
    (step : Component.ofSegment segment ≠ .current) : GoesOn (Component.ofSegment segment) := by
  unfold Component.ofSegment at step ⊢
  split
  · simp_all
  · split
    · exact Or.inl rfl
    · exact Or.inr ⟨segment, rfl, by simp_all [Text.IsFileName]⟩

theorem segments_goOn (written : Text) :
    ∀ part ∈ ((Text.splitOn '/' written).map Component.ofSegment).filter (· != .current),
      GoesOn part := by
  intro part member
  obtain ⟨listed, step⟩ := List.mem_filter.mp member
  obtain ⟨segment, piece, rfl⟩ := List.mem_map.mp listed
  exact ofSegment_goesOn (Text.mark_notMem_splitOn '/' written segment piece) (by simpa using step)

theorem ofText_shape (written : Text) :
    ∃ rest, (∀ part ∈ rest, GoesOn part) ∧
      (ofText written = .root :: rest ∨ ofText written = .current :: rest ∨
        ofText written = rest) := by
  unfold ofText
  split
  · exact ⟨[], by simp, Or.inr (Or.inr rfl)⟩
  · rename_i rest
    refine ⟨_, segments_goOn rest, Or.inl ?_⟩
    simp [steps]
  · rename_i empty rooted
    have relative : steps written = (Text.splitOn '/' written).map Component.ofSegment := by
      unfold steps
      split
      · rename_i rest
        exact absurd rfl (rooted rest)
      · rfl
    refine ⟨_, segments_goOn written, Or.inr ?_⟩
    simp only [relative]
    split
    · exact Or.inl rfl
    · exact Or.inr rfl

/-- A path written as segments with slashes between them is read segment by segment, if neither an
empty segment nor a dot stands in front. -/
theorem ofText_intercalate {segments : List Text} (some : segments ≠ [])
    (whole : ∀ s ∈ segments, '/' ∉ s) (plain : ∀ s ∈ segments.head?, s ≠ [] ∧ s ≠ ['.']) :
    ofText (['/'].intercalate segments) =
      (segments.map Component.ofSegment).filter (· != .current) := by
  have cut : Text.splitOn '/' (['/'].intercalate segments) = segments := by
    rw [Text.splitOn_eq]
    exact List.splitOn_intercalate '/' whole some
  obtain ⟨first, rest, rfl⟩ := List.exists_cons_of_ne_nil some
  obtain ⟨full, dot⟩ := plain first rfl
  obtain ⟨c, first, rfl⟩ := List.exists_cons_of_ne_nil full
  obtain ⟨tail, written⟩ : ∃ tail, ['/'].intercalate ((c :: first) :: rest) = c :: tail := by
    cases rest with
    | nil => exact ⟨first, by simp⟩
    | cons second rest => exact ⟨_, by rw [List.intercalate_cons_cons]; rfl⟩
  have relative : c ≠ '/' := fun same => whole (c :: first) (by simp) (by simp [same])
  have steps : steps (c :: tail) = ((c :: first) :: rest).map Component.ofSegment := by
    rw [Path.steps.eq_def]
    split
    · rename_i slash
      exact absurd (List.cons.inj slash).1 relative
    · rw [← written, cut]
  rw [written, ofText.eq_def]
  split
  · rename_i empty
    cases empty
  · rename_i slash
    exact absurd (List.cons.inj slash).1 relative
  · rw [steps, ← written, cut]
    simp [dot]

theorem fromDirectory_shape (cwd : List Text) (written : Text) :
    ∃ front rest, fromDirectory cwd written = absolute front ++ rest ∧ (front = [] ∨ front = cwd) ∧
      ∀ part ∈ rest, GoesOn part := by
  obtain ⟨rest, shape, rooted | dotted | plain⟩ := ofText_shape written
  · exact ⟨[], rest, by simp [fromDirectory, rooted, absolute, ofNames], Or.inl rfl, shape⟩
  · exact ⟨cwd, rest, by simp [fromDirectory, dotted], Or.inr rfl, shape⟩
  · refine ⟨cwd, rest, ?_, Or.inr rfl, shape⟩
    unfold fromDirectory
    rw [plain]
    cases rest with
    | nil => simp
    | cons part rest =>
      rcases shape part (by simp) with rfl | ⟨n, rfl, _⟩ <;> rfl

theorem ofNames_of_goesOn {rest : Path} (shape : ∀ part ∈ rest, GoesOn part)
    (down : Component.parent ∉ rest) :
    ∃ names, rest = ofNames names ∧ ∀ n ∈ names, n.IsFileName := by
  induction rest with
  | nil => exact ⟨[], rfl, by simp⟩
  | cons part rest ih =>
    simp only [List.mem_cons, not_or] at down
    obtain ⟨names, rfl, named⟩ := ih (fun x h => shape x (by simp [h])) down.2
    rcases shape part (by simp) with rfl | ⟨n, rfl, valid⟩
    · exact absurd rfl down.1
    · exact ⟨n :: names, rfl, by simpa [valid] using named⟩

section Written
variable {names : List Text} (valid : ∀ n ∈ names, n.IsFileName)

theorem spell_absolute (names : List Text) :
    spell (absolute names) = '/' :: ['/'].intercalate names := by
  simp [spell, absolute, ofNames, Function.comp_def, Component.spell]

theorem intercalate_concat (names : List Text) (n : Text) (some : names ≠ []) :
    ['/'].intercalate (names ++ [n]) = ['/'].intercalate names ++ '/' :: n := by
  induction names with
  | nil => exact absurd rfl some
  | cons first rest ih =>
    cases rest with
    | nil => simp
    | cons second rest =>
      have tail := ih (by simp)
      simp only [List.cons_append] at tail ⊢
      rw [List.intercalate_cons_cons, tail, List.intercalate_cons_cons]
      simp

include valid

theorem ofSegment_fileNames : names.map Component.ofSegment = ofNames names := by
  refine List.map_congr_left fun n member => ?_
  obtain ⟨full, dot, dots, _⟩ := valid n member
  simp [Component.ofSegment, full, dot, dots]

theorem steps_spell (some : names ≠ []) : steps (spell (absolute names)) = absolute names := by
  have cut : Text.splitOn '/' (['/'].intercalate names) = names := by
    rw [Text.splitOn_eq]
    exact List.splitOn_intercalate '/' (fun n member => (valid n member).2.2.2) some
  rw [spell_absolute, steps, cut, ofSegment_fileNames valid, absolute]

theorem spell_last (some : names ≠ []) : (spell (absolute names)).getLast? ≠ Option.some '/' := by
  obtain ⟨full, _, _, whole⟩ := valid _ (List.getLast_mem some)
  rw [spell_absolute]
  have split := List.dropLast_concat_getLast some
  intro ends
  have last : (names.getLast some).getLast? = Option.some '/' := by
    by_cases one : names.dropLast = []
    · rw [one, List.nil_append] at split
      rw [← split, List.intercalate_singleton] at ends
      rw [List.getLast?_cons, List.getLast?_eq_some_getLast full] at ends
      rw [List.getLast?_eq_some_getLast full]
      simpa using ends
    · rw [← split, intercalate_concat _ _ one] at ends
      rw [List.getLast?_cons, List.getLast?_append, List.getLast?_cons,
        List.getLast?_eq_some_getLast full] at ends
      rw [List.getLast?_eq_some_getLast full]
      simpa using ends
  exact whole (List.mem_of_getLast? last)

theorem joinText_spell {n : Text} (name : n.IsFileName) :
    joinText (spell (absolute names)) n = spell (absolute (names ++ [n])) := by
  obtain ⟨full, _, _, whole⟩ := name
  have relative : ∀ rest, n ≠ '/' :: rest := by
    rintro rest rfl
    simp at whole
  unfold joinText
  split
  · exact absurd rfl (relative _)
  · by_cases top : names = []
    · subst top
      simp [spell_absolute]
    · rw [if_neg]
      · rw [spell_absolute, spell_absolute, intercalate_concat _ _ top, List.cons_append]
      · rw [not_or]
        exact ⟨by simp [spell_absolute], spell_last valid top⟩

theorem asksDirectory_spell (some : names ≠ []) :
    asksDirectory (spell (absolute names)) = false := by
  simp [asksDirectory, spell_last valid some]

end Written

end Path
end PodSite
