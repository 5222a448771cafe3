import PodSite.Proofs.Markup.NormalForm

/-!
Sources one after the other. Where every region of the first is ended by a cut line, the paragraphs
of both together are those of the first and then those of the second: the cut line ends the last
paragraph, and what comes next begins with a command. Lines of a program in between leave no trace.
-/
namespace PodSite

namespace Text

theorem lines_eq_nil {t : Text} : lines t = [] ↔ t = [] := by
  fun_cases lines t <;> simp

theorem lines_cons_append {c : Char} {rest : Text} (unbroken : c ≠ '\n')
    (plain : ∀ after, c = '\r' → rest = '\n' :: after → False) (full : rest ≠ []) (t : Text) :
    lines (c :: (rest ++ t)) = match lines (rest ++ t) with
      | [] => [[c]]
      | line :: more => (c :: line) :: more := by
  obtain ⟨d, rest, rfl⟩ := List.exists_cons_of_ne_nil full
  refine lines.eq_4 c _ (fun after carriage feed => ?_) unbroken
  exact plain rest carriage (by rw [(List.cons.inj feed).1])

theorem lines_single_feed {c : Char} (unbroken : c ≠ '\n') (plain : c ≠ '\r') (t : Text) :
    lines (c :: '\n' :: t) = [c] :: lines t := by
  rw [lines_cons unbroken plain, lines]

theorem lines_parted (a b : Text) : lines (a ++ '\n' :: b) = lines (a ++ ['\n']) ++ lines b := by
  fun_induction lines a with
  | case1 => simp [lines]
  | case2 rest ih => simpa [lines] using ih
  | case3 rest ih => simpa [lines] using ih
  | case4 c rest plain unbroken none ih =>
    obtain rfl := lines_eq_nil.mp none
    by_cases carriage : c = '\r'
    · subst carriage
      simp [lines]
    · simp [lines_single_feed unbroken carriage, lines]
  | case5 c rest plain unbroken line more some ih =>
    have full : rest ≠ [] := mt lines_eq_nil.mpr (by simp [some])
    obtain ⟨first, others, parts⟩ := List.exists_cons_of_ne_nil
      (mt lines_eq_nil.mp (List.append_ne_nil_of_left_ne_nil full ['\n']))
    rw [List.cons_append, lines_cons_append unbroken plain full, ih, List.cons_append,
      lines_cons_append unbroken plain full, parts]
    rfl

/-- How the lines of a text change when a line feed is added at its end: it ends the last line,
which loses a carriage return there, or adds an empty one. -/
inductive Ended : List Text → List Text → Prop where
  | empty : Ended [] [[]]
  | last (line : Text) : Ended [line] [line]
  | carriage (line : Text) : Ended [line ++ ['\r']] [line]
  | cons (line : Text) {ls ls' : List Text} (later : Ended ls ls') :
      Ended (line :: ls) (line :: ls')

theorem lines_ended (a : Text) : Ended (lines a) (lines (a ++ ['\n'])) := by
  fun_induction lines a with
  | case1 => exact .empty
  | case2 rest ih => simpa [lines] using ih.cons []
  | case3 rest ih => simpa [lines] using ih.cons []
  | case4 c rest plain unbroken none ih =>
    obtain rfl := lines_eq_nil.mp none
    by_cases carriage : c = '\r'
    · subst carriage
      exact .carriage []
    · simpa [lines_single_feed unbroken carriage, lines] using Ended.last [c]
  | case5 c rest plain unbroken line more some ih =>
    have full : rest ≠ [] := mt lines_eq_nil.mpr (by simp [some])
    rw [some] at ih
    rw [List.cons_append, lines_cons_append unbroken plain full]
    generalize lines (rest ++ ['\n']) = ended at ih
    cases ih with
    | last => exact .last (c :: line)
    | carriage line => exact .carriage (c :: line)
    | cons _ later => exact .cons (c :: line) later

end Text

namespace Markup

def opensRegion (line : Text) : Bool := (commandOf? line).isSome && !isCut line

/-- The source ends outside of its regions: a line that opens one has a cut line after it. -/
def Closed (source : Text) : Prop :=
  ∀ line back, line :: back <:+ Text.lines (dropByteOrderMark source) →
    opensRegion line = true → ∃ cut ∈ back, isCut cut = true

/-- Whether the end of the lines is inside a region, where their start may be. -/
def insideAfter (inside : Bool) : List Text → Bool
  | [] => inside
  | line :: rest => insideAfter (if inside then !isCut line else opensRegion line) rest

section Lines

theorem insideAfter_append (inside : Bool) (front back : List Text) :
    insideAfter inside (front ++ back) = insideAfter (insideAfter inside front) back := by
  induction front generalizing inside with
  | nil => rfl
  | cons line rest ih => exact ih _

theorem insideAfter_eq_false {ls : List Text} {inside : Bool} : insideAfter inside ls = false ↔
    (inside = true → ∃ cut ∈ ls, isCut cut = true) ∧
      ∀ line back, line :: back <:+ ls → opensRegion line = true →
        ∃ cut ∈ back, isCut cut = true := by
  induction ls generalizing inside with
  | nil => simp [insideAfter]
  | cons line rest ih =>
    have uncut : opensRegion line = true → isCut line = false :=
      fun opens => by simpa using (Bool.and_eq_true_iff.mp opens).2
    rw [insideAfter, ih]
    constructor
    · rintro ⟨within, later⟩
      refine ⟨fun start => ?_, fun opening back suffix opens => ?_⟩
      · by_cases cut : isCut line = true
        · exact ⟨line, List.mem_cons_self, cut⟩
        · obtain ⟨end_, listed, cut⟩ := within (by simpa [start] using cut)
          exact ⟨end_, List.mem_cons_of_mem line listed, cut⟩
      · rcases List.suffix_cons_iff.mp suffix with whole | suffix
        · obtain ⟨rfl, rfl⟩ := List.cons.inj whole
          exact within (by simp [opens, uncut opens])
        · exact later opening back suffix opens
    · rintro ⟨within, opened⟩
      refine ⟨fun start => ?_, fun opening back suffix => ?_⟩
      · cases inside with
        | false => exact opened line rest (List.suffix_refl _) (by simpa using start)
        | true =>
          obtain ⟨end_, listed, cut⟩ := within rfl
          rcases List.mem_cons.mp listed with rfl | listed
          · simp [cut] at start
          · exact ⟨end_, listed, cut⟩
      · exact opened opening back (List.suffix_cons_iff.mpr (Or.inr suffix))

theorem closed_iff {source : Text} :
    Closed source ↔ insideAfter false (Text.lines (dropByteOrderMark source)) = false := by
  rw [insideAfter_eq_false]
  simp [Closed]

instance : DecidablePred Closed := fun _ => decidable_of_iff _ closed_iff.symm

theorem commandOf?_carriage (line : Text) : commandOf? (line ++ ['\r']) = commandOf? line := by
  match line with
  | [] => rfl
  | [c] =>
    have alone : commandOf? [c] = none := by
      unfold commandOf?
      split
      · rename_i shape
        cases shape
      · rfl
    rw [alone]
    exact commandOf?_eq_none.mpr fun opens => absurd opens.2 (by decide)
  | c :: d :: rest =>
    have same : (rest ++ ['\r']).takeWhile isCommandChar = rest.takeWhile isCommandChar := by
      rw [List.takeWhile_append]
      split
      · rename_i whole
        rw [show ['\r'].takeWhile isCommandChar = [] from rfl, List.append_nil,
          (List.takeWhile_prefix isCommandChar).eq_of_length whole]
      · rfl
    by_cases mark : c = '='
    · subst mark
      simp only [List.cons_append, commandOf?, same]
    · rw [List.cons_append, List.cons_append, commandOf?_eq_none.mpr (fun opens => mark opens.1),
        commandOf?_eq_none.mpr (fun opens => mark opens.1)]

theorem regionLines_append (inside : Bool) (front back : List Text) :
    regionLines inside (front ++ back) =
      regionLines inside front ++ regionLines (insideAfter inside front) back := by
  induction front generalizing inside with
  | nil => rfl
  | cons line rest ih =>
    simp only [List.cons_append, regionLines, insideAfter, ih, opensRegion]
    cases inside with
    | true => cases isCut line <;> simp
    | false => cases (commandOf? line).isSome && !isCut line <;> simp

theorem regionLines_cons (inside : Bool) (line : Text) (rest : List Text) :
    regionLines inside (line :: rest) =
      regionLines inside [line] ++ regionLines (insideAfter inside [line]) rest :=
  regionLines_append inside [line] rest

theorem regionLines_single (inside : Bool) {line : Text}
    (outside : insideAfter inside [line] = false) :
    regionLines inside [line] = if inside then ['\n'] else [] := by
  cases inside with
  | true =>
    have cut : isCut line = true := by simpa [insideAfter] using outside
    simp [regionLines, cut]
  | false =>
    have code : ((commandOf? line).isSome && !isCut line) = false := outside
    simp only [regionLines, code, Bool.false_eq_true, ↓reduceIte]

/-- Where the end is outside, a line feed at the end of a source makes no difference. -/
theorem regionLines_ended {ls ls' : List Text} (ended : Text.Ended ls ls') {inside : Bool}
    (outside : insideAfter inside ls = false) :
    regionLines inside ls' = regionLines inside ls ∧ insideAfter inside ls' = false := by
  induction ended generalizing inside with
  | empty =>
    obtain rfl : inside = false := outside
    exact ⟨rfl, rfl⟩
  | last line => exact ⟨rfl, outside⟩
  | carriage line =>
    have cut : isCut (line ++ ['\r']) = isCut line := by rw [isCut, commandOf?_carriage, isCut]
    have opens : opensRegion (line ++ ['\r']) = opensRegion line := by
      rw [opensRegion, commandOf?_carriage, cut, opensRegion]
    have alike : insideAfter inside [line] = false := by
      rwa [insideAfter, cut, opens] at outside
    rw [regionLines_single inside alike, regionLines_single inside outside]
    exact ⟨rfl, alike⟩
  | @cons line ls ls' later ih =>
    obtain ⟨same, ends⟩ := ih outside
    rw [regionLines_cons inside line ls, regionLines_cons inside line ls']
    exact ⟨congrArg _ same, ends⟩

theorem regionLines_code {ls : List Text} (code : ∀ line ∈ ls, opensRegion line = false) :
    regionLines false ls = [] ∧ insideAfter false ls = false := by
  induction ls with
  | nil => exact ⟨rfl, rfl⟩
  | cons line rest ih =>
    obtain ⟨here, later⟩ := List.forall_mem_cons.mp code
    rw [regionLines_cons, regionLines_single false here, insideAfter, insideAfter]
    simpa [here, insideAfter] using ih later

end Lines

section Texts

theorem dropByteOrderMark_append (a b : Text) :
    dropByteOrderMark (a ++ '\n' :: b) = dropByteOrderMark a ++ '\n' :: b := by
  cases a with
  | nil => rfl
  | cons c a =>
    unfold dropByteOrderMark
    split <;> split <;> simp_all

theorem dropByteOrderMark_plain {t : Text} (unmarked : t.head? ≠ some '\uFEFF') :
    dropByteOrderMark t = t := by
  unfold dropByteOrderMark
  split
  · exact absurd rfl unmarked
  · rfl

/-- The markup of a closed source, and of another after it. -/
theorem regionLines_after {a : Text} (closed : Closed a) (b : Text) :
    let ls := Text.lines (dropByteOrderMark (a ++ '\n' :: b))
    regionLines false ls = ofSource .lines a ++ regionLines false (Text.lines b) ∧
      insideAfter false ls = insideAfter false (Text.lines b) := by
  intro ls
  have parted : ls = Text.lines (dropByteOrderMark a ++ ['\n']) ++ Text.lines b := by
    rw [← Text.lines_parted, ← dropByteOrderMark_append]
  obtain ⟨same, outside⟩ := regionLines_ended (Text.lines_ended _) (closed_iff.mp closed)
  rw [parted, regionLines_append, insideAfter_append, same, outside]
  exact ⟨rfl, rfl⟩

theorem regionLines_single_feed (inside : Bool) (line : Text) :
    regionLines inside [line] = [] ∨ ∃ front, regionLines inside [line] = front ++ ['\n'] := by
  simp only [regionLines]
  split
  · split
    · exact Or.inr ⟨[], rfl⟩
    · exact Or.inr ⟨line, rfl⟩
  · split
    · exact Or.inr ⟨line, rfl⟩
    · exact Or.inl rfl

theorem lines_regionLines_append (inside : Bool) (ls : List Text) (t : Text) :
    Text.lines (regionLines inside ls ++ t) =
      Text.lines (regionLines inside ls) ++ Text.lines t := by
  induction ls generalizing inside with
  | nil => rfl
  | cons line rest ih =>
    rw [regionLines_cons inside line rest]
    rcases regionLines_single_feed inside line with none | ⟨front, kept⟩
    · rw [none, List.nil_append, ih]
    · have behind : ∀ u, Text.lines (front ++ ['\n'] ++ u) =
          Text.lines (front ++ ['\n']) ++ Text.lines u := by
        intro u
        rw [List.append_assoc]
        exact Text.lines_parted front u
      rw [kept, List.append_assoc, behind, behind, ih, List.append_assoc]

theorem lines_regionLines_outside {inside : Bool} {ls : List Text}
    (outside : insideAfter inside ls = false) :
    (inside = false ∧ regionLines inside ls = []) ∨
      ∃ front, Text.lines (regionLines inside ls) = front ++ [[]] := by
  induction ls generalizing inside with
  | nil => exact Or.inl ⟨outside, rfl⟩
  | cons line rest ih =>
    rw [regionLines_cons inside line rest]
    rcases @ih (insideAfter inside [line]) outside with ⟨left, none⟩ | ⟨front, kept⟩
    · rw [none, List.append_nil, regionLines_single inside left]
      cases inside with
      | true => exact Or.inr ⟨[], rfl⟩
      | false => exact Or.inl ⟨rfl, rfl⟩
    · refine Or.inr ⟨Text.lines (regionLines inside [line]) ++ front, ?_⟩
      rw [lines_regionLines_append, List.append_assoc, kept]

theorem lines_command {line : Text} (command : (commandOf? line).isSome = true) (rest : Text) :
    ∃ first others, Text.lines (line ++ '\n' :: rest) = first :: others ∧
      (commandOf? first).isSome = true := by
  obtain ⟨name, named⟩ := Option.isSome_iff_exists.mp command
  unfold commandOf? at named
  split at named
  · rename_i c line
    split at named
    · rename_i letter
      have inner : ∀ t, ∃ first others, Text.lines (c :: t) = (c :: first) :: others := by
        intro t
        have unbroken : c ≠ '\n' := by
          rintro rfl
          cases letter
        have plain : c ≠ '\r' := by
          rintro rfl
          cases letter
        rw [Text.lines_cons unbroken plain]
        cases Text.lines t with
        | nil => exact ⟨[], [], rfl⟩
        | cons first others => exact ⟨first, others, rfl⟩
      obtain ⟨first, others, shape⟩ := inner (line ++ '\n' :: rest)
      refine ⟨'=' :: c :: first, others, ?_, by simp [commandOf?, letter]⟩
      rw [List.cons_append, List.cons_append, Text.lines_cons (by decide) (by decide), shape]
    · cases named
  · cases named

theorem lines_regionLines_start (ls : List Text) :
    regionLines false ls = [] ∨ ∃ first others,
      Text.lines (regionLines false ls) = first :: others ∧ (commandOf? first).isSome = true := by
  induction ls with
  | nil => exact Or.inl rfl
  | cons line rest ih =>
    cases opens : opensRegion line with
    | false =>
      rw [regionLines_cons, regionLines_single false opens]
      simpa [insideAfter, opens] using ih
    | true =>
      have region : regionLines false (line :: rest) = line ++ '\n' :: regionLines true rest := by
        unfold opensRegion at opens
        simp only [regionLines, opens, Bool.false_eq_true, ↓reduceIte]
      rw [region]
      exact Or.inr (lines_command (Bool.and_eq_true_iff.mp opens).1 _)

end Texts

section Groups

theorem lineGroups_solid {first : Text} (solid : Text.isAllBlank first = false)
    (others : List Text) :
    ∃ group more, lineGroups (first :: others) = (first :: group) :: more := by
  cases others with
  | nil => exact ⟨[], [], by simp [lineGroups, solid]⟩
  | cons next others =>
    rw [lineGroups, if_neg (by simp [solid])]
    split
    · exact ⟨[], _, rfl⟩
    · split
      · exact ⟨[], [], rfl⟩
      · exact ⟨_, _, rfl⟩

theorem lineGroups_parted {blank : Text} (white : Text.isAllBlank blank = true)
    (front back : List Text) :
    lineGroups (front ++ blank :: back) = lineGroups front ++ lineGroups back := by
  fun_induction lineGroups front with
  | case1 => rw [List.nil_append, lineGroups_white white, List.nil_append]
  | case2 line clear => simp [lineGroups, clear, lineGroups_white white]
  | case3 line solid => simp [lineGroups, solid, white, lineGroups_white white]
  | case4 line next rest clear ih => simpa [lineGroups, clear] using ih
  | case5 line next rest solid clear ih => simpa [lineGroups, solid, clear] using ih
  | case6 line next rest solid beside none ih =>
    obtain ⟨group, more, some⟩ := lineGroups_solid (by simpa using beside) rest
    rw [some] at none
    cases none
  | case7 line next rest solid beside first more groups ih =>
    rw [groups] at ih
    simp only [List.cons_append] at ih ⊢
    simp [lineGroups, solid, beside, ih]

theorem cons_append (p : Paragraph) (ps : List Paragraph) {qs : List Paragraph}
    (other : ∀ a more, qs ≠ .verbatim a :: more) : p.cons (ps ++ qs) = p.cons ps ++ qs := by
  cases p with
  | command name text => rfl
  | prose text => rfl
  | verbatim text =>
    cases ps with
    | cons first ps => cases first <;> rfl
    | nil =>
      cases qs with
      | nil => rfl
      | cons q qs =>
        cases q with
        | verbatim a => exact absurd rfl (other a qs)
        | command name text => rfl
        | prose text => rfl

theorem foldr_cons_append (ps : List Paragraph) {name text : Text} (qs : List Paragraph) :
    (ps ++ .command name text :: qs).foldr Paragraph.cons [] =
      ps.foldr Paragraph.cons [] ++ (.command name text :: qs).foldr Paragraph.cons [] := by
  induction ps with
  | nil => rfl
  | cons p ps ih =>
    rw [List.cons_append, List.foldr_cons, ih]
    refine cons_append p _ fun a more same => ?_
    cases same

end Groups

theorem paragraphs_append {ls : List Text} (outside : insideAfter false ls = false)
    (ls' : List Text) :
    paragraphs (regionLines false ls ++ regionLines false ls') =
      paragraphs (regionLines false ls) ++ paragraphs (regionLines false ls') := by
  rcases lines_regionLines_outside outside with ⟨_, none⟩ | ⟨front, ends⟩
  · rw [none]
    rfl
  rcases lines_regionLines_start ls' with none | ⟨first, others, starts, command⟩
  · rw [none, List.append_nil]
    exact (List.append_nil _).symm
  obtain ⟨name, named⟩ := Option.isSome_iff_exists.mp command
  have solid : Text.isAllBlank first = false := by
    obtain ⟨rest, shape, _⟩ := commandOf?_eq_some named
    rw [shape]
    rfl
  obtain ⟨group, more, groups⟩ := lineGroups_solid solid others
  have parted : ∀ back, lineGroups (front ++ [[]] ++ back) =
      lineGroups front ++ lineGroups back := by
    intro back
    rw [List.append_assoc]
    exact lineGroups_parted rfl front back
  have alone : lineGroups (front ++ [[]]) = lineGroups front := by
    rw [lineGroups_parted rfl, lineGroups, List.append_nil]
  rw [paragraphs, paragraphs, paragraphs, lines_regionLines_append, ends, starts, parted, alone,
    groups, List.filterMap_append, List.filterMap_cons, paragraphOf?, ofLines_command named]
  exact foldr_cons_append _ _

/-- A closed source and another after it have the paragraphs of both, and a program between them
adds none. -/
theorem paragraphs_ofSource_append {a b : Text} (closed : Closed a)
    (unmarked : b.head? ≠ some '\uFEFF') :
    let read := fun source => paragraphs (ofSource .lines source)
    read (a ++ '\n' :: b) = read a ++ read b ∧
      ∀ code, (∀ line ∈ Text.lines code, opensRegion line = false) →
        read (a ++ '\n' :: code ++ '\n' :: b) = read a ++ read b := by
  intro read
  have follows : ∀ {a : Text}, Closed a → read (a ++ '\n' :: b) = read a ++ read b := by
    intro a closed
    have later : ofSource .lines b = regionLines false (Text.lines b) := by
      rw [ofSource, dropByteOrderMark_plain unmarked]
    have markup : ofSource .lines (a ++ '\n' :: b) = ofSource .lines a ++ ofSource .lines b := by
      rw [later]
      exact (regionLines_after closed b).1
    simp only [read, markup]
    exact paragraphs_append (closed_iff.mp closed) _
  refine ⟨follows closed, fun code program => ?_⟩
  obtain ⟨none, outside⟩ := regionLines_code program
  obtain ⟨region, inside⟩ := regionLines_after closed code
  have still : Closed (a ++ '\n' :: code) := closed_iff.mpr (inside.trans outside)
  have same : ofSource .lines (a ++ '\n' :: code) = ofSource .lines a := by
    rw [none, List.append_nil] at region
    exact region
  rw [follows still]
  simp only [read, same]

theorem paragraphs_ofSource_append_literal :
    let read := fun source => paragraphs (ofSource .lines source)
    let a := "\uFEFFuse A;\r\n=head1 A\r\n\n  one\n=cut\r".toList
    let b := "=cut\n=pod\n\n  two".toList
    let code := "\uFEFF=pod\n  three\n=cut".toList
    Closed a ∧ read a = [.command "head1".toList "A".toList, .verbatim "  one".toList] ∧
      read b = [.command "pod".toList [], .verbatim "  two".toList] ∧
      read (a ++ '\n' :: b) = read a ++ read b ∧
      read (a ++ '\n' :: code ++ '\n' :: b) = read a ++ read b := by
  intro read a b code
  have closed : Closed a := by decide +kernel
  obtain ⟨together, apart⟩ := paragraphs_ofSource_append closed
    (show b.head? ≠ some '\uFEFF' by decide +kernel)
  exact ⟨closed, by decide +kernel, by decide +kernel, together, apart code (by decide +kernel)⟩

end Markup
end PodSite
