import PodSite.Slug
import PodSite.Proofs.Path
import PodSite.Proofs.Text.Casing
import PodSite.Proofs.Text.Runs
import PodSite.Proofs.Text.Trim

/-!
Slugs are a normal form of titles: words of letters and digits in lower case with single hyphens
between them. A text in this form is its own slug, so a link may name a part by the title or by the
slug of the title.
-/
namespace PodSite

/-- Cut at its hyphens, a text that is not empty falls into words of letters and digits. None of the
words is empty, so the hyphens are single ones and stand between words. -/
def IsSlug (s : Text) : Prop :=
  s = [] ∨ ∀ word ∈ Text.splitOn '-' s, word ≠ [] ∧ ∀ c ∈ word, isSlugChar c = true

instance : DecidablePred IsSlug := fun s =>
  inferInstanceAs (Decidable
    (s = [] ∨ ∀ word ∈ Text.splitOn '-' s, word ≠ [] ∧ ∀ c ∈ word, isSlugChar c = true))

theorem isSlugChar_hyphen : isSlugChar '-' = false := by decide +kernel

theorem isSlug_iff_words {s : Text} :
    IsSlug s ↔ ∃ words : List Text,
      (∀ word ∈ words, word ≠ [] ∧ ∀ c ∈ word, isSlugChar c = true) ∧
        s = ['-'].intercalate words := by
  constructor
  · rintro (rfl | areWords)
    · exact ⟨[], by simp, rfl⟩
    · refine ⟨_, areWords, ?_⟩
      rw [Text.splitOn_eq, List.intercalate_splitOn]
  · rintro ⟨words, areWords, rfl⟩
    by_cases none : words = []
    · exact .inl (by rw [none, List.intercalate_nil])
    · have unbroken : ∀ word ∈ words, '-' ∉ word := by
        intro word member hyphen
        have letter := (areWords word member).2 '-' hyphen
        rw [isSlugChar_hyphen] at letter
        contradiction
      refine .inr ?_
      rwa [Text.splitOn_eq, List.splitOn_intercalate '-' unbroken none]

theorem IsSlug.solid {front back : Text} (isSlug : IsSlug (front ++ '-' :: back)) :
    front ≠ [] ∧ back ≠ [] := by
  rcases isSlug with empty | areWords
  · simp at empty
  · rw [Text.splitOn_eq, List.splitOn_append_cons_self] at areWords
    constructor
    · rintro rfl
      exact (areWords [] (by simp)).1 rfl
    · rintro rfl
      exact (areWords [] (by simp)).1 rfl

theorem IsSlug.trimChar_hyphen {s : Text} (isSlug : IsSlug s) : Text.trimChar '-' s = s := by
  apply Text.trimChar_eq_self
  · rintro c first rfl
    obtain ⟨back, rfl⟩ := List.head?_eq_some_iff.mp first
    have leading : IsSlug ([] ++ '-' :: back) := isSlug
    exact leading.solid.1 rfl
  · rintro c last rfl
    obtain ⟨front, rfl⟩ := List.getLast?_eq_some_iff.mp last
    exact isSlug.solid.2 rfl

namespace Slug

theorem isSlug_runs (t : Text) : IsSlug (['-'].intercalate (Text.runs isSlugChar t)) :=
  isSlug_iff_words.mpr ⟨_, fun _ isRun =>
    ⟨Text.ne_nil_of_mem_runs isRun, fun _ member => (Text.mem_runs isRun member).1⟩, rfl⟩

theorem isSlug_ofText (t : Text) : IsSlug (ofText t) := isSlug_runs (Text.lowered t)

theorem mem_ofText {t : Text} {c : Char} (member : c ∈ ofText t) :
    c = '-' ∨ isSlugChar c = true ∧ c ∈ Text.lowered t := by
  rcases Text.mem_intercalate member with hyphen | ⟨run, isRun, inRun⟩
  · exact .inl (List.mem_singleton.mp hyphen)
  · exact .inr (Text.mem_runs isRun inRun)

theorem lowered_ofText (t : Text) : Text.lowered (ofText t) = ofText t := by
  rw [Text.lowered_eq_self_iff]
  intro c member
  rcases mem_ofText member with rfl | ⟨-, small⟩
  · decide
  · exact Text.lowerChar_of_mem_lowered small

theorem ofText_eq_self_iff {s : Text} : ofText s = s ↔ IsSlug s ∧ Text.lowered s = s := by
  constructor
  · intro same
    rw [← same]
    exact ⟨isSlug_ofText s, lowered_ofText s⟩
  · rintro ⟨isSlug, small⟩
    obtain ⟨words, areWords, joined⟩ := isSlug_iff_words.mp isSlug
    rw [ofText, small, joined, Text.runs_intercalate isSlugChar_hyphen areWords]

def hyphenated : Text → Text
  | [] => []
  | [c] => if isSlugChar c then [c] else ['-']
  | c :: d :: rest =>
    if isSlugChar c then c :: hyphenated (d :: rest)
    else if isSlugChar d then '-' :: hyphenated (d :: rest)
    else hyphenated (d :: rest)

def lead : Text → Text
  | [] => []
  | c :: _ => if isSlugChar c then [] else ['-']

theorem lead_hyphens (t : Text) : ∀ c ∈ lead t, c = '-' := by
  unfold lead
  split
  · simp
  · split <;> simp

theorem runs_joined {c d : Char} (here : isSlugChar c = true) (next : isSlugChar d = true)
    (rest : Text) :
    ['-'].intercalate (Text.runs isSlugChar (c :: d :: rest)) =
      c :: ['-'].intercalate (Text.runs isSlugChar (d :: rest)) := by
  rw [Text.runs, if_pos here, if_pos next]
  cases Text.runs isSlugChar (d :: rest) with
  | nil => simp
  | cons first more => exact List.intercalate_cons_cons_left

theorem hyphenated_eq (t : Text) :
    ∃ back : Text, (∀ c ∈ back, c = '-') ∧
      hyphenated t = lead t ++ ['-'].intercalate (Text.runs isSlugChar t) ++ back := by
  fun_induction hyphenated t with
  | case1 => exact ⟨[], by simp, rfl⟩
  | case2 c word => exact ⟨[], by simp, by simp [lead, Text.runs, word]⟩
  | case3 c other => exact ⟨[], by simp, by simp [lead, Text.runs, other]⟩
  | case4 c d rest word ih =>
    obtain ⟨back, hyphens, joined⟩ := ih
    by_cases next : isSlugChar d = true
    · refine ⟨back, hyphens, ?_⟩
      rw [joined, runs_joined word next, lead, lead, if_pos word, if_pos next]
      simp
    · rw [lead, if_neg next] at joined
      rw [joined, lead, if_pos word, Text.runs, if_pos word, if_neg next]
      -- the hyphen stands between two words or, behind the last one, is left at the end
      cases Text.runs isSlugChar (d :: rest) with
      | nil => exact ⟨'-' :: back, by simpa using hyphens, by simp⟩
      | cons first more =>
        exact ⟨back, hyphens, by simp [List.intercalate_cons_cons]⟩
  | case5 c d rest other word ih =>
    obtain ⟨back, hyphens, joined⟩ := ih
    have skipped := Text.runs_cons_neg (Bool.eq_false_iff.mpr other) (d :: rest)
    rw [lead, if_pos word] at joined
    exact ⟨back, hyphens, by rw [joined, skipped, lead, if_neg other]; simp⟩
  | case6 c d rest other next ih =>
    obtain ⟨back, hyphens, joined⟩ := ih
    have skipped := Text.runs_cons_neg (Bool.eq_false_iff.mpr other) (d :: rest)
    rw [lead, if_neg next] at joined
    exact ⟨back, hyphens, by rw [joined, skipped, lead, if_neg other]⟩

theorem trimChar_hyphenated (t : Text) :
    Text.trimChar '-' (hyphenated t) = ['-'].intercalate (Text.runs isSlugChar t) := by
  obtain ⟨back, hyphens, joined⟩ := hyphenated_eq t
  rw [joined, Text.trimChar_around (lead_hyphens t) _ hyphens, (isSlug_runs t).trimChar_hyphen]

/-- The slug of a text is its lower case with one hyphen for every run of other characters and none
at the ends. It has the form of a slug and is its own slug, as the texts of this form in lower case
are and no others. -/
theorem ofText_normalises (t : Text) :
    ofText t = Text.trimChar '-' (hyphenated (Text.lowered t)) ∧ IsSlug (ofText t) ∧
      ofText (ofText t) = ofText t ∧ (ofText t = t ↔ IsSlug t ∧ Text.lowered t = t) := by
  have isSlug := isSlug_ofText t
  have settled : ofText (ofText t) = ofText t :=
    ofText_eq_self_iff.mpr ⟨isSlug, lowered_ofText t⟩
  exact ⟨(trimChar_hyphenated (Text.lowered t)).symm, isSlug, settled, ofText_eq_self_iff⟩

example : ofText "-- İzmir & ΑΣ --".toList = "i-zmir-ας".toList := by decide +kernel

end Slug
end PodSite
