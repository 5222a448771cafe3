import PodSite.Text.Basic

/-!
The runs of a text, and texts joined of parts. Words with a character between them that no word has
are the runs of the text that they are joined to.
-/
namespace PodSite.Text

theorem mem_runs {p : Char → Bool} {t run : Text} (isRun : run ∈ runs p t) {c : Char}
    (member : c ∈ run) : p c = true ∧ c ∈ t := by
  induction t generalizing run with
  | nil => simp [runs] at isRun
  | cons d rest ih =>
    have further : ∀ {run}, run ∈ runs p rest → c ∈ run → p c = true ∧ c ∈ d :: rest := by
      intro run isRun member
      exact (ih isRun member).imp_right (List.mem_cons_of_mem d)
    have here : p d = true → c = d → p c = true ∧ c ∈ d :: rest := by
      rintro holds rfl
      exact ⟨holds, by simp⟩
    cases rest with
    | nil =>
      rw [runs] at isRun
      split at isRun
      · rename_i holds
        rw [List.mem_singleton.mp isRun] at member
        exact here holds (List.mem_singleton.mp member)
      · simp at isRun
    | cons e rest =>
      rw [runs] at isRun
      split at isRun
      · rename_i holds
        split at isRun
        · split at isRun
          · rw [List.mem_singleton.mp isRun] at member
            exact here holds (List.mem_singleton.mp member)
          · rename_i first more later
            rcases List.mem_cons.mp isRun with rfl | other
            · rcases List.mem_cons.mp member with same | inFirst
              · exact here holds same
              · exact further (by simp [later]) inFirst
            · exact further (by simp [later, other]) member
        · rcases List.mem_cons.mp isRun with rfl | other
          · exact here holds (List.mem_singleton.mp member)
          · exact further other member
      · exact further isRun member

theorem mem_intercalate {sep : Text} {parts : List Text} {c : Char}
    (member : c ∈ sep.intercalate parts) : c ∈ sep ∨ ∃ part ∈ parts, c ∈ part := by
  induction parts with
  | nil => simp at member
  | cons part rest ih =>
    cases rest with
    | nil => exact .inr ⟨part, by simp, by simpa using member⟩
    | cons second rest =>
      rw [List.intercalate_cons_cons, List.mem_append, List.mem_append] at member
      rcases member with (here | between) | later
      · exact .inr ⟨part, by simp, here⟩
      · exact .inl between
      · rcases ih later with between | ⟨other, isPart, inOther⟩
        · exact .inl between
        · exact .inr ⟨other, List.mem_cons_of_mem part isPart, inOther⟩

theorem ne_nil_of_mem_runs {p : Char → Bool} {t run : Text} (isRun : run ∈ runs p t) :
    run ≠ [] := by
  fun_induction runs p t generalizing run with
  | case1 => simp at isRun
  | case2 c holds => simp [List.mem_singleton.mp isRun]
  | case3 c fails => simp at isRun
  | case4 c d rest holds => simp [List.mem_singleton.mp isRun]
  | case5 c d rest holds next first more found ih =>
    rcases List.mem_cons.mp isRun with rfl | other
    · simp
    · exact ih (by simp [found, other])
  | case6 c d rest holds fails ih =>
    rcases List.mem_cons.mp isRun with rfl | other
    · simp
    · exact ih other
  | case7 c d rest fails ih => exact ih isRun

theorem runs_cons_neg {p : Char → Bool} {c : Char} (apart : p c = false) (rest : Text) :
    runs p (c :: rest) = runs p rest := by
  cases rest with
  | nil => simp [runs, apart]
  | cons d rest => simp [runs, apart]

theorem runs_word {p : Char → Bool} {word rest : Text} (solid : word ≠ [])
    (within : ∀ c ∈ word, p c = true) (ends : ∀ c ∈ rest.head?, p c = false) :
    runs p (word ++ rest) = word :: runs p rest := by
  induction word with
  | nil => contradiction
  | cons c tail ih =>
    have here : p c = true := within c (by simp)
    cases tail with
    | nil =>
      cases rest with
      | nil => simp [runs, here]
      | cons d rest => simp [runs, here, ends d rfl]
    | cons d tail =>
      have next : p d = true := within d (by simp)
      have later := ih (by simp) fun e member => within e (List.mem_cons_of_mem c member)
      rw [List.cons_append] at later
      rw [List.cons_append, List.cons_append, runs, if_pos here, if_pos next, later]

theorem runs_intercalate {p : Char → Bool} {words : List Text} {sep : Char} (apart : p sep = false)
    (areWords : ∀ word ∈ words, word ≠ [] ∧ ∀ c ∈ word, p c = true) :
    runs p ([sep].intercalate words) = words := by
  induction words with
  | nil => rfl
  | cons word others ih =>
    obtain ⟨⟨solid, within⟩, later⟩ := List.forall_mem_cons.mp areWords
    cases others with
    | nil =>
      have alone : runs p (word ++ []) = word :: runs p [] := runs_word solid within (by simp)
      rw [List.append_nil] at alone
      rw [List.intercalate_singleton]
      exact alone
    | cons next others =>
      rw [List.intercalate_cons_cons, List.append_assoc, List.singleton_append,
        runs_word solid within (by simpa using apart), runs_cons_neg apart, ih later]

end PodSite.Text
