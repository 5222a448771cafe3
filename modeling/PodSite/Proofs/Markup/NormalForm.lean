import PodSite.Markup.Paragraph
import PodSite.Proofs.Inline.Print

/-!
Paragraphs written out as text again, with an empty line between them. Reading that text gives the
same paragraphs: blanks at the ends of lines, white lines and the gaps between literal paragraphs
are settled by the first reading.
-/
namespace PodSite

namespace Text

structure Written (line : Text) : Prop where
  solid : isAllBlank line = false
  unbroken : '\n' ∉ line
  plain : '\r' ∉ line

section Lines

theorem lines_cons {c : Char} (unbroken : c ≠ '\n') (plain : c ≠ '\r') (rest : Text) :
    lines (c :: rest) = match lines rest with
      | [] => [[c]]
      | line :: more => (c :: line) :: more :=
  lines.eq_4 c rest (fun _ carriage _ => plain carriage) unbroken

theorem lines_append_feed {line : Text} (unbroken : '\n' ∉ line) (plain : '\r' ∉ line)
    (rest : Text) : lines (line ++ '\n' :: rest) = line :: lines rest := by
  induction line with
  | nil => rw [List.nil_append, lines]
  | cons c line ih =>
    rw [List.mem_cons, not_or] at unbroken plain
    rw [List.cons_append, lines_cons (Ne.symm unbroken.1) (Ne.symm plain.1), ih unbroken.2 plain.2]

theorem lines_unbroken {line : Text} (some : line ≠ []) (unbroken : '\n' ∉ line)
    (plain : '\r' ∉ line) : lines line = [line] := by
  induction line with
  | nil => exact absurd rfl some
  | cons c line ih =>
    rw [List.mem_cons, not_or] at unbroken plain
    rw [lines_cons (Ne.symm unbroken.1) (Ne.symm plain.1)]
    cases line with
    | nil => rw [lines]
    | cons d line => rw [ih (List.cons_ne_nil d line) unbroken.2 plain.2]

theorem mem_lines {t line : Text} (plain : '\r' ∉ t) (member : line ∈ lines t) :
    '\n' ∉ line ∧ '\r' ∉ line := by
  induction t generalizing line with
  | nil => simp [lines] at member
  | cons c t ih =>
    rw [List.mem_cons, not_or] at plain
    have later : ∀ {line}, line ∈ lines t → '\n' ∉ line ∧ '\r' ∉ line := ih plain.2
    by_cases feed : c = '\n'
    · subst feed
      rw [lines, List.mem_cons] at member
      rcases member with rfl | member
      · simp
      · exact later member
    · rw [lines_cons feed (Ne.symm plain.1)] at member
      have single : '\n' ∉ [c] ∧ '\r' ∉ [c] := by
        simp [Ne.symm feed, plain.1]
      cases parts : lines t with
      | nil =>
        rw [parts, List.mem_singleton] at member
        exact member ▸ single
      | cons first more =>
        rw [parts] at member later
        rcases List.mem_cons.mp member with rfl | member
        · have rest := later List.mem_cons_self
          simp [Ne.symm feed, plain.1, rest]
        · exact later (List.mem_cons_of_mem first member)

theorem Written.ne_nil {line : Text} (written : Written line) : line ≠ [] := by
  rintro rfl
  cases written.solid

theorem lines_joined_append {first : Text} {others : List Text}
    (written : ∀ l ∈ first :: others, Written l) (rest : Text) :
    lines (['\n'].intercalate (first :: others) ++ '\n' :: rest) =
      (first :: others) ++ lines rest := by
  induction others generalizing first with
  | nil =>
    have here := written first List.mem_cons_self
    rw [List.intercalate_singleton, lines_append_feed here.unbroken here.plain]
    rfl
  | cons next others ih =>
    obtain ⟨here, later⟩ := List.forall_mem_cons.mp written
    rw [List.intercalate_cons_cons, List.append_assoc, List.append_assoc]
    exact (lines_append_feed here.unbroken here.plain _).trans (congrArg _ (ih later))

theorem lines_joined {first : Text} {others : List Text}
    (written : ∀ l ∈ first :: others, Written l) :
    lines (['\n'].intercalate (first :: others)) = first :: others := by
  induction others generalizing first with
  | nil =>
    have here := written first List.mem_cons_self
    rw [List.intercalate_singleton, lines_unbroken here.ne_nil here.unbroken here.plain]
  | cons next others ih =>
    obtain ⟨here, later⟩ := List.forall_mem_cons.mp written
    rw [List.intercalate_cons_cons, List.append_assoc]
    exact (lines_append_feed here.unbroken here.plain _).trans (congrArg _ (ih later))

end Lines

section Trimming

theorem Written.part {line part : Text} (written : Written line)
    (inside : ∀ c ∈ part, c ∈ line) (solid : isAllBlank part = false) : Written part :=
  ⟨solid, fun member => written.unbroken (inside _ member),
    fun member => written.plain (inside _ member)⟩

theorem Written.trimStart {line : Text} (written : Written line) : Written line.trimStart :=
  written.part (fun _ => (List.dropWhile_sublist isBlank).mem)
    ((isAllBlank_trimStart line).trans written.solid)

theorem Written.trimEnd {line : Text} (written : Written line) : Written line.trimEnd :=
  written.part (fun _ => (List.rdropWhile_prefix isBlank line).mem)
    ((isAllBlank_trimEnd line).trans written.solid)

theorem isAllBlank_joined {first : Text} {others : List Text} (solid : isAllBlank first = false) :
    isAllBlank (['\n'].intercalate (first :: others)) = false := by
  cases others with
  | nil => rwa [List.intercalate_singleton]
  | cons next others =>
    rw [List.intercalate_cons_cons, isAllBlank, List.append_assoc, List.all_append]
    rw [isAllBlank] at solid
    rw [solid, Bool.false_and]

theorem head?_joined {first : Text} (some : first ≠ []) (others : List Text) :
    (['\n'].intercalate (first :: others)).head? = first.head? := by
  cases others with
  | nil => rw [List.intercalate_singleton]
  | cons next others =>
    rw [List.intercalate_cons_cons, List.append_assoc, List.head?_append_of_ne_nil _ some]

theorem joined_ne_nil {first : Text} (some : first ≠ []) (others : List Text) :
    ['\n'].intercalate (first :: others) ≠ [] := by
  intro empty
  have start := head?_joined some others
  rw [empty, List.head?_nil] at start
  exact some (List.head?_eq_none_iff.mp start.symm)

theorem trimStart_joined {first : Text} (solid : isAllBlank first = false) (others : List Text) :
    trimStart (['\n'].intercalate (first :: others)) =
      ['\n'].intercalate (trimStart first :: others) := by
  cases others with
  | nil => rw [List.intercalate_singleton, List.intercalate_singleton]
  | cons next others =>
    rw [List.intercalate_cons_cons, List.intercalate_cons_cons, List.append_assoc,
      trimStart_append solid, List.append_assoc]

theorem trimEnd_joined {first : Text} {others : List Text}
    (written : ∀ l ∈ first :: others, Written l) :
    ∃ first' others', trimEnd (['\n'].intercalate (first :: others)) =
      ['\n'].intercalate (first' :: others') ∧ ∀ l ∈ first' :: others', Written l := by
  induction others generalizing first with
  | nil =>
    refine ⟨first.trimEnd, [], ?_, ?_⟩
    · rw [List.intercalate_singleton, List.intercalate_singleton]
    · simpa using (written first List.mem_cons_self).trimEnd
  | cons next others ih =>
    obtain ⟨here, later⟩ := List.forall_mem_cons.mp written
    obtain ⟨next', others', ended, kept⟩ := ih later
    refine ⟨first, next' :: others', ?_, List.forall_mem_cons.mpr ⟨here, kept⟩⟩
    rw [List.intercalate_cons_cons, List.intercalate_cons_cons, ← ended]
    exact trimEnd_append _ (isAllBlank_joined (later next List.mem_cons_self).solid)

theorem trim_joined {first : Text} {others : List Text}
    (written : ∀ l ∈ first :: others, Written l) :
    ∃ first' others', trim (['\n'].intercalate (first :: others)) =
      ['\n'].intercalate (first' :: others') ∧ ∀ l ∈ first' :: others', Written l := by
  obtain ⟨here, later⟩ := List.forall_mem_cons.mp written
  rw [trim, trimStart_joined here.solid]
  exact trimEnd_joined (List.forall_mem_cons.mpr ⟨here.trimStart, later⟩)

end Trimming
end Text

namespace Markup

open Text (Written)

section Groups

theorem lineGroups_white {blank : Text} (white : Text.isAllBlank blank = true)
    (rest : List Text) : lineGroups (blank :: rest) = lineGroups rest := by
  cases rest with
  | nil => simp [lineGroups, white]
  | cons next rest => rw [lineGroups, if_pos white]

theorem lineGroups_append {first : Text} {others rest : List Text}
    (solid : ∀ l ∈ first :: others, Text.isAllBlank l = false)
    (ends : ∀ l ∈ rest.head?, Text.isAllBlank l = true) :
    lineGroups ((first :: others) ++ rest) = (first :: others) :: lineGroups rest := by
  induction others generalizing first with
  | nil =>
    have here := solid first List.mem_cons_self
    cases rest with
    | nil => simp [lineGroups, here]
    | cons blank rest => simp [lineGroups, here, ends blank rfl]
  | cons next others ih =>
    obtain ⟨here, later⟩ := List.forall_mem_cons.mp solid
    have beside := later next List.mem_cons_self
    have group := ih later
    rw [List.cons_append] at group
    simp only [List.cons_append, lineGroups, here, beside, group, Bool.false_eq_true, ↓reduceIte]

theorem mem_lineGroups {ls group : List Text} (member : group ∈ lineGroups ls) :
    group ≠ [] ∧ ∀ l ∈ group, l ∈ ls ∧ Text.isAllBlank l = false := by
  have widen : ∀ {line : Text} {ls group : List Text},
      (∀ l ∈ group, l ∈ ls ∧ Text.isAllBlank l = false) →
        ∀ l ∈ group, l ∈ line :: ls ∧ Text.isAllBlank l = false :=
    fun inside l listed => ⟨List.mem_cons_of_mem _ (inside l listed).1, (inside l listed).2⟩
  fun_induction lineGroups ls generalizing group with
  | case1 => cases member
  | case2 line white => cases member
  | case3 line solid =>
    obtain rfl := List.mem_singleton.mp member
    simpa using solid
  | case4 line next rest white ih =>
    obtain ⟨some, inside⟩ := ih member
    exact ⟨some, widen inside⟩
  | case5 line next rest solid white ih =>
    rcases List.mem_cons.mp member with rfl | member
    · simpa using solid
    · obtain ⟨some, inside⟩ := ih member
      exact ⟨some, widen inside⟩
  | case6 line next rest solid beside none ih =>
    obtain rfl := List.mem_singleton.mp member
    simpa using solid
  | case7 line next rest solid beside first more groups ih =>
    rw [groups] at ih
    rcases List.mem_cons.mp member with rfl | member
    · refine ⟨List.cons_ne_nil _ _, List.forall_mem_cons.mpr ⟨?_, widen (ih List.mem_cons_self).2⟩⟩
      exact ⟨List.mem_cons_self, Bool.eq_false_iff.mpr solid⟩
    · obtain ⟨some, inside⟩ := ih (List.mem_cons_of_mem first member)
      exact ⟨some, widen inside⟩

end Groups

/-- The text of a paragraph as one would write it. -/
def Paragraph.print : Paragraph → Text
  | .command name text => '=' :: name ++ if text.isEmpty then [] else '\n' :: text
  | .verbatim text => text
  | .prose text => text

def print (ps : List Paragraph) : Text := "\n\n".toList.intercalate (ps.map Paragraph.print)

section Reading

def Paragraph.Printed (p : Paragraph) : Prop :=
  ∃ first others, (∀ l ∈ first :: others, Written l) ∧
    p.print = ['\n'].intercalate (first :: others) ∧ Paragraph.ofLines first others = p

theorem lineGroups_print {p : Paragraph} (printed : p.Printed) :
    ∃ group, paragraphOf? group = some p ∧ lineGroups (Text.lines p.print) = [group] ∧
      ∀ rest, lineGroups (Text.lines (p.print ++ "\n\n".toList ++ rest)) =
        group :: lineGroups (Text.lines rest) := by
  obtain ⟨first, others, written, shape, read⟩ := printed
  have solid := fun l member => (written l member).solid
  refine ⟨first :: others, congrArg some read, ?_, fun rest => ?_⟩
  · have whole : lineGroups ((first :: others) ++ []) = (first :: others) :: lineGroups [] :=
      lineGroups_append solid (by simp)
    rw [List.append_nil] at whole
    rw [shape, Text.lines_joined written, whole, lineGroups]
  · have feed : "\n\n".toList ++ rest = '\n' :: '\n' :: rest := rfl
    rw [shape, List.append_assoc, feed, Text.lines_joined_append written, Text.lines,
      lineGroups_append solid (by simp [Text.isAllBlank]), lineGroups_white rfl]

theorem paragraphOf?_print {ps : List Paragraph} (printed : ∀ p ∈ ps, p.Printed) :
    (lineGroups (Text.lines (print ps))).filterMap paragraphOf? = ps := by
  induction ps with
  | nil => rfl
  | cons p ps ih =>
    obtain ⟨here, later⟩ := List.forall_mem_cons.mp printed
    obtain ⟨group, read, alone, front⟩ := lineGroups_print here
    cases ps with
    | nil =>
      rw [print, List.map_singleton, List.intercalate_singleton, alone]
      simp [read]
    | cons q ps =>
      have next := ih later
      rw [print, List.map_cons] at next
      rw [print, List.map_cons, List.map_cons, List.intercalate_cons_cons, front,
        List.filterMap_cons_some read, next]

/-- Literal paragraphs are printed with an empty line between them, whether they are one or two. -/
theorem print_cons (p : Paragraph) (ps : List Paragraph) : print (p.cons ps) = print (p :: ps) := by
  unfold Paragraph.cons
  split
  · rename_i a b more
    cases more with
    | nil => simp [print, Paragraph.print, List.intercalate_cons_cons]
    | cons q more => simp [print, Paragraph.print, List.intercalate_cons_cons]
  · rfl

theorem print_front (p : Paragraph) {ps : List Paragraph} (some : ps ≠ []) :
    print (p :: ps) = p.print ++ "\n\n".toList ++ print ps := by
  cases ps with
  | nil => exact absurd rfl some
  | cons q ps =>
    rw [print, print, List.map_cons, List.map_cons, List.intercalate_cons_cons]

theorem cons_ne_nil (p : Paragraph) (ps : List Paragraph) : p.cons ps ≠ [] := by
  unfold Paragraph.cons
  split
  · exact List.cons_ne_nil _ _
  · exact List.cons_ne_nil _ _

theorem print_foldr_cons (ps : List Paragraph) :
    print (ps.foldr Paragraph.cons []) = print ps := by
  induction ps with
  | nil => rfl
  | cons p ps ih =>
    rw [List.foldr_cons, print_cons]
    cases ps with
    | nil => rfl
    | cons q ps =>
      rw [List.foldr_cons] at ih ⊢
      rw [print_front p (cons_ne_nil q _), print_front p (List.cons_ne_nil q ps), ih]

end Reading

def Indented (t : Text) : Prop := t.head? = some ' ' ∨ t.head? = some '\t'

section Commands

theorem commandOf?_eq_some {line name : Text} (command : commandOf? line = some name) :
    ∃ rest, line = '=' :: name ++ rest ∧ commandOf? ('=' :: name) = some name := by
  unfold commandOf? at command
  split at command
  · rename_i c rest
    split at command
    · rename_i letter
      cases command
      refine ⟨rest.dropWhile isCommandChar, ?_, ?_⟩
      · rw [List.cons_append, List.cons_append, List.takeWhile_append_dropWhile]
      · have whole : (rest.takeWhile isCommandChar).takeWhile isCommandChar =
            rest.takeWhile isCommandChar := List.takeWhile_idem
        rw [commandOf?, if_pos letter, whole]
    · cases command
  · cases command

theorem ofLines_command {first name : Text} (command : commandOf? first = some name)
    (others : List Text) :
    Paragraph.ofLines first others =
      .command name (Text.trim (['\n'].intercalate
        (Text.trim (first.drop (name.length + 1)) :: others))) := by
  unfold Paragraph.ofLines
  simp only [command]

theorem ofLines_verbatim {first : Text}
    (indented : Indented first) (others : List Text) :
    Paragraph.ofLines first others =
      .verbatim (['\n'].intercalate ((first :: others).map Text.trimEnd)) := by
  cases first with
  | nil => simp [Indented] at indented
  | cons c first =>
    rcases indented with space | tab
    · cases space
      rfl
    · cases tab
      rfl

theorem ofLines_prose {first : Text} (command : commandOf? first = none)
    (running : ¬Indented first) (others : List Text) :
    Paragraph.ofLines first others = .prose (['\n'].intercalate (first :: others)) := by
  unfold Paragraph.ofLines
  simp only [command]
  split
  · exact absurd (Or.inl rfl) running
  · exact absurd (Or.inr rfl) running
  · rfl

theorem command_text {first : Text} {others : List Text}
    (written : ∀ l ∈ first :: others, Written l) (n : Nat) :
    let text := Text.trim (['\n'].intercalate (Text.trim (first.drop n) :: others))
    text = [] ∨ ∃ first' others', text = ['\n'].intercalate (first' :: others') ∧
      ∀ l ∈ first' :: others', Written l := by
  intro text
  obtain ⟨here, later⟩ := List.forall_mem_cons.mp written
  cases solid : Text.isAllBlank (first.drop n) with
  | true =>
    -- nothing follows the name, so the text starts on the next line if there is one
    have empty : Text.trim (first.drop n) = [] := Text.trim_eq_nil.mpr solid
    cases others with
    | nil =>
      refine Or.inl ?_
      simp only [text, empty]
      rfl
    | cons next others =>
      have same : text = Text.trim (['\n'].intercalate (next :: others)) := by
        simp only [text, empty]
        rw [List.intercalate_cons_cons]
        rfl
      rw [same]
      exact Or.inr (Text.trim_joined later)
  | false =>
    have head : Written (Text.trim (first.drop n)) :=
      (here.part (fun _ => List.mem_of_mem_drop) solid).trimStart.trimEnd
    exact Or.inr (Text.trim_joined (List.forall_mem_cons.mpr ⟨head, later⟩))

theorem command_printed {first name : Text} {others : List Text}
    (written : ∀ l ∈ first :: others, Written l) (command : commandOf? first = some name) :
    (Paragraph.ofLines first others).Printed := by
  obtain ⟨rest, shape, named⟩ := commandOf?_eq_some command
  have start : Written ('=' :: name) := by
    refine (written first List.mem_cons_self).part (fun c member => ?_) rfl
    rw [shape]
    exact List.mem_append_left rest member
  have bare : ('=' :: name).drop (name.length + 1) = [] := by simp
  rw [ofLines_command command]
  rcases command_text written (name.length + 1) with empty | ⟨first', others', text, inside⟩
  · rw [empty]
    refine ⟨'=' :: name, [], by simpa using start, ?_, ?_⟩
    · simp [Paragraph.print]
    · rw [ofLines_command named, bare]
      rfl
  · have trimmed := Text.trim_trim
      (['\n'].intercalate (Text.trim (first.drop (name.length + 1)) :: others))
    rw [text] at trimmed ⊢
    have some := Text.joined_ne_nil (inside first' List.mem_cons_self).ne_nil others'
    refine ⟨'=' :: name, first' :: others', List.forall_mem_cons.mpr ⟨start, inside⟩, ?_, ?_⟩
    · rw [List.intercalate_cons_cons, Paragraph.print, if_neg (by simpa using some)]
      simp
    · rw [ofLines_command named, bare, List.intercalate_cons_cons]
      exact congrArg _ trimmed

theorem indented_trimEnd {line : Text} (written : Written line) (indented : Indented line) :
    Indented line.trimEnd := by
  obtain ⟨back, split⟩ : ∃ back, line.trimEnd ++ back = line :=
    List.rdropWhile_prefix Text.isBlank line
  unfold Indented at indented ⊢
  rwa [← split, List.head?_append_of_ne_nil _ written.trimEnd.ne_nil] at indented

theorem verbatim_printed {first : Text} {others : List Text}
    (written : ∀ l ∈ first :: others, Written l)
    (indented : Indented first) :
    (Paragraph.ofLines first others).Printed := by
  have kept := indented_trimEnd (written first List.mem_cons_self) indented
  rw [ofLines_verbatim indented, List.map_cons]
  refine ⟨first.trimEnd, others.map Text.trimEnd, ?_, rfl, ?_⟩
  · rw [← List.map_cons, List.forall_mem_map]
    exact fun l member => (written l member).trimEnd
  · rw [ofLines_verbatim kept, List.map_cons, List.map_map, Text.trimEnd_trimEnd]
    simp only [Function.comp_def, Text.trimEnd_trimEnd]

theorem ofLines_printed {first : Text} {others : List Text}
    (written : ∀ l ∈ first :: others, Written l) : (Paragraph.ofLines first others).Printed := by
  cases command : commandOf? first with
  | some name => exact command_printed written command
  | none =>
    by_cases indented : Indented first
    · exact verbatim_printed written indented
    · have prose := ofLines_prose command indented others
      exact ⟨first, others, written, by rw [prose]; rfl, rfl⟩

end Commands

def Paragraph.Regular : Paragraph → Prop
  | .command _ text => ∀ line ∈ Text.lines text, Text.isAllBlank line = false
  | .verbatim text => Indented text
  | .prose text =>
    ¬Indented text ∧ commandOf? text = none ∧
      ∀ line ∈ Text.lines text, Text.isAllBlank line = false

/-- What the paragraphs of a text are like. -/
structure Canonical (ps : List Paragraph) : Prop where
  /-- No two literal paragraphs follow each other. -/
  apart : ∀ front a b back, ps ≠ front ++ .verbatim a :: .verbatim b :: back
  regular : ∀ p ∈ ps, p.Regular

section Shapes

theorem commandOf?_eq_none {c d : Char} {rest : Text} :
    commandOf? (c :: d :: rest) = none ↔ ¬(c = '=' ∧ Text.isAsciiLetter d = true) := by
  unfold commandOf?
  split
  · rename_i shape
    cases shape
    simp
  · rename_i other
    refine iff_of_true rfl fun opens => ?_
    exact other d rest (by rw [opens.1])

theorem commandOf?_joined {first : Text} (some : first ≠ []) (others : List Text)
    (running : commandOf? first = none) :
    commandOf? (['\n'].intercalate (first :: others)) = none := by
  cases others with
  | nil => rwa [List.intercalate_singleton]
  | cons next others =>
    rw [List.intercalate_cons_cons, List.append_assoc]
    match first with
    | [] => exact absurd rfl some
    | [c] => exact commandOf?_eq_none.mpr fun opens => absurd opens.2 (by decide)
    | c :: d :: first => exact commandOf?_eq_none.mpr (commandOf?_eq_none.mp running)

theorem ofLines_regular {first : Text} {others : List Text}
    (written : ∀ l ∈ first :: others, Written l) : (Paragraph.ofLines first others).Regular := by
  have here := written first List.mem_cons_self
  cases command : commandOf? first with
  | some name =>
    rw [ofLines_command command, Paragraph.Regular]
    rcases command_text written (name.length + 1) with empty | ⟨first', others', text, inside⟩
    · rw [empty]
      simp [Text.lines]
    · rw [text, Text.lines_joined inside]
      exact fun l member => (inside l member).solid
  | none =>
    by_cases indented : Indented first
    · rw [ofLines_verbatim indented, Paragraph.Regular, List.map_cons, Indented,
        Text.head?_joined here.trimEnd.ne_nil]
      exact indented_trimEnd here indented
    · rw [ofLines_prose command indented, Paragraph.Regular, Indented,
        Text.head?_joined here.ne_nil, Text.lines_joined written]
      exact ⟨indented, commandOf?_joined here.ne_nil others command,
        fun l member => (written l member).solid⟩

theorem Canonical.cons {p : Paragraph} {ps : List Paragraph} (regular : p.Regular)
    (canonical : Canonical ps) : Canonical (p.cons ps) := by
  unfold Paragraph.cons
  split
  · rename_i a b more
    obtain ⟨here, later⟩ := List.forall_mem_cons.mp canonical.regular
    constructor
    · intro front x y back split
      cases front with
      | nil =>
        obtain ⟨_, rfl⟩ := List.cons.inj split
        exact canonical.apart [] b y back rfl
      | cons first front =>
        obtain ⟨_, rfl⟩ := List.cons.inj split
        exact canonical.apart (.verbatim b :: front) x y back rfl
    · refine List.forall_mem_cons.mpr ⟨?_, later⟩
      have some : a ≠ [] := by
        rintro rfl
        simp [Paragraph.Regular, Indented] at regular
      rw [Paragraph.Regular, Indented] at regular ⊢
      rwa [List.append_assoc, List.head?_append_of_ne_nil _ some]
  · rename_i single
    constructor
    · intro front x y back split
      cases front with
      | nil =>
        obtain ⟨rfl, rfl⟩ := List.cons.inj split
        exact single x y back rfl rfl
      | cons first front =>
        obtain ⟨_, rfl⟩ := List.cons.inj split
        exact canonical.apart front x y back rfl
    · exact List.forall_mem_cons.mpr ⟨regular, canonical.regular⟩

theorem canonical_foldr {ps : List Paragraph} (regular : ∀ p ∈ ps, p.Regular) :
    Canonical (ps.foldr Paragraph.cons []) := by
  induction ps with
  | nil => exact ⟨by simp, by simp⟩
  | cons p ps ih =>
    obtain ⟨here, later⟩ := List.forall_mem_cons.mp regular
    exact (ih later).cons here

end Shapes

theorem mem_groups {m : Text} (plain : '\r' ∉ m) {p : Paragraph}
    (member : p ∈ (lineGroups (Text.lines m)).filterMap paragraphOf?) :
    ∃ first others, (∀ l ∈ first :: others, Written l) ∧ p = Paragraph.ofLines first others := by
  obtain ⟨group, listed, read⟩ := List.mem_filterMap.mp member
  obtain ⟨some, inside⟩ := mem_lineGroups listed
  cases group with
  | nil => exact absurd rfl some
  | cons first others =>
    refine ⟨first, others, fun l member => ?_, (Option.some.inj read).symm⟩
    obtain ⟨line, solid⟩ := inside l member
    obtain ⟨unbroken, plain⟩ := Text.mem_lines plain line
    exact ⟨solid, unbroken, plain⟩

/-- Paragraphs have a normal form: printed and read again they are the same. -/
theorem paragraphs_print {m : Text} (plain : '\r' ∉ m) :
    paragraphs (print (paragraphs m)) = paragraphs m ∧ Canonical (paragraphs m) := by
  have printed : ∀ p ∈ (lineGroups (Text.lines m)).filterMap paragraphOf?, p.Printed := by
    intro p member
    obtain ⟨first, others, written, rfl⟩ := mem_groups plain member
    exact ofLines_printed written
  have regular : ∀ p ∈ (lineGroups (Text.lines m)).filterMap paragraphOf?, p.Regular := by
    intro p member
    obtain ⟨first, others, written, rfl⟩ := mem_groups plain member
    exact ofLines_regular written
  refine ⟨?_, canonical_foldr regular⟩
  conv_lhs => rw [paragraphs, paragraphs, print_foldr_cons, paragraphOf?_print printed]
  rfl

theorem paragraphs_print_mixed :
    let m := "=item \n two\t\n\n  x \n \u00A0\n\ty\n\nz\n".toList
    paragraphs m =
        [.command "item".toList "two".toList, .verbatim "  x\n\n\ty".toList, .prose "z".toList] ∧
      print (paragraphs m) = "=item\ntwo\n\n  x\n\n\ty\n\nz".toList ∧
      paragraphs (print (paragraphs m)) = paragraphs m ∧ Canonical (paragraphs m) :=
  ⟨by decide +kernel, by decide +kernel, paragraphs_print (by decide +kernel)⟩

end Markup
end PodSite
