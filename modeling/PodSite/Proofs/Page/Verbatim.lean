import Mathlib.Data.List.Forall2
import PodSite.Page.Body
import PodSite.Proofs.Html.Visible
import PodSite.Proofs.Markup.Regions

/-!
Literal paragraphs on a page. Their lines have no white space at their ends, and only the lines
between merged paragraphs are empty. So the indentation that is taken off is the same for all lines
with text, however it is made of spaces and tabs, and a reader of the page sees the rest as it was.
-/
namespace PodSite

namespace Text

structure Trimmed (line : Text) : Prop where
  unbroken : '\n' ∉ line
  solid : ∀ c ∈ line.getLast?, isBlank c = false

section Lines

theorem Trimmed.nil : Trimmed [] := ⟨by simp, by simp⟩

theorem Trimmed.tail {c : Char} {line : Text} (trimmed : Trimmed (c :: line)) : Trimmed line := by
  constructor
  · intro member
    exact trimmed.unbroken (List.mem_cons_of_mem c member)
  · intro d last
    apply trimmed.solid
    rw [List.getLast?_cons, Option.mem_def.mp last]
    rfl

/-- A carriage return in front of a line feed would end the line, but it is white space. -/
theorem lines_trimmed_cons {c : Char} {line : Text} (trimmed : Trimmed (c :: line)) (rest : Text) :
    lines (c :: (line ++ rest)) = match lines (line ++ rest) with
      | [] => [[c]]
      | first :: more => (c :: first) :: more := by
  have unbroken : c ≠ '\n' := by
    rintro rfl
    exact trimmed.unbroken List.mem_cons_self
  apply lines.eq_4 c (line ++ rest) ?_ unbroken
  rintro after rfl next
  cases line with
  | nil =>
    have solid := trimmed.solid '\r' rfl
    cases solid
  | cons d line =>
    obtain ⟨rfl, -⟩ := List.cons.inj next
    exact trimmed.unbroken (by simp)

theorem lines_append_trimmed {line : Text} (trimmed : Trimmed line) (rest : Text) :
    lines (line ++ '\n' :: rest) = line :: lines rest := by
  induction line with
  | nil => rw [List.nil_append, lines]
  | cons c line ih =>
    rw [List.cons_append, lines_trimmed_cons trimmed, ih trimmed.tail]

theorem lines_trimmed {line : Text} (trimmed : Trimmed line) (full : line ≠ []) :
    lines line = [line] := by
  induction line with
  | nil => exact absurd rfl full
  | cons c line ih =>
    have read := lines_trimmed_cons trimmed []
    rw [List.append_nil] at read
    rw [read]
    cases line with
    | nil => rw [lines]
    | cons d line => rw [ih trimmed.tail (List.cons_ne_nil d line)]

theorem feed_notMem_lines {t line : Text} (member : line ∈ lines t) : '\n' ∉ line := by
  fun_induction lines t generalizing line with
  | case1 => cases member
  | case2 rest ih | case3 rest ih =>
    rcases List.mem_cons.mp member with rfl | member
    · simp
    · exact ih member
  | case4 c rest plain unbroken none ih =>
    rw [List.mem_singleton.mp member]
    simp [Ne.symm unbroken]
  | case5 c rest plain unbroken first more some ih =>
    rw [some] at ih
    rcases List.mem_cons.mp member with rfl | member
    · simp [Ne.symm unbroken, ih List.mem_cons_self]
    · exact ih (List.mem_cons_of_mem first member)

end Lines

structure LiteralLines (ls : List Text) : Prop where
  trimmed : ∀ l ∈ ls, Trimmed l
  last : ∃ l ∈ ls.getLast?, l ≠ []

section Literal
variable {ls ms : List Text}

theorem LiteralLines.ne_nil (literal : LiteralLines ls) : ls ≠ [] := by
  rintro rfl
  obtain ⟨l, last, -⟩ := literal.last
  cases last

theorem joined_append (some : ls ≠ []) (more : ms ≠ []) :
    ['\n'].intercalate (ls ++ ms) = ['\n'].intercalate ls ++ '\n' :: ['\n'].intercalate ms := by
  induction ls with
  | nil => exact absurd rfl some
  | cons l ls ih =>
    cases ls with
    | nil =>
      obtain ⟨m, ms, rfl⟩ := List.exists_cons_of_ne_nil more
      rw [List.singleton_append, List.intercalate_cons_cons, List.intercalate_singleton]
      simp
    | cons next ls =>
      have later := ih (List.cons_ne_nil next ls)
      rw [List.cons_append] at later
      rw [List.cons_append, List.cons_append, List.intercalate_cons_cons, later,
        List.intercalate_cons_cons]
      simp

theorem lines_literal (literal : LiteralLines ls) : lines (['\n'].intercalate ls) = ls := by
  obtain ⟨trimmed, l, last, full⟩ := literal
  induction ls with
  | nil => cases last
  | cons first ls ih =>
    obtain ⟨here, later⟩ := List.forall_mem_cons.mp trimmed
    cases ls with
    | nil =>
      cases last
      rw [List.intercalate_singleton, lines_trimmed here full]
    | cons next ls =>
      rw [List.intercalate_cons_cons, List.append_assoc, List.singleton_append,
        lines_append_trimmed here, ih later last]

/-- Two literal paragraphs with an empty line between them are one. -/
theorem LiteralLines.merge (front : LiteralLines ls) (back : LiteralLines ms) :
    LiteralLines (ls ++ [] :: ms) := by
  obtain ⟨m, ms, rfl⟩ := List.exists_cons_of_ne_nil back.ne_nil
  constructor
  · intro l member
    rcases List.mem_append.mp member with member | member
    · exact front.trimmed l member
    · rcases List.mem_cons.mp member with rfl | member
      · exact .nil
      · exact back.trimmed l member
  · rw [List.getLast?_append_of_ne_nil _ (List.cons_ne_nil _ _), List.getLast?_cons_cons]
    exact back.last

end Literal
end Text

namespace Markup
open Text (Trimmed LiteralLines)

def IsLiteral (t : Text) : Prop := ∃ ls, LiteralLines ls ∧ t = ['\n'].intercalate ls

section Paragraphs

theorem trimmed_trimEnd {line : Text} (unbroken : '\n' ∉ line) : Trimmed line.trimEnd := by
  constructor
  · intro member
    exact unbroken ((Text.trimEnd_sublist line).mem member)
  · intro c last
    obtain ⟨some, rfl⟩ := List.mem_getLast?_eq_getLast last
    exact Bool.eq_false_iff.mpr (List.rdropWhile_last_not Text.isBlank line some)

theorem ofLines_literal {first v : Text} {others : List Text}
    (unbroken : ∀ l ∈ first :: others, '\n' ∉ l)
    (solid : ∀ l ∈ first :: others, Text.isAllBlank l = false)
    (literal : Paragraph.ofLines first others = .verbatim v) : IsLiteral v := by
  have joined : v = ['\n'].intercalate ((first :: others).map Text.trimEnd) := by
    unfold Paragraph.ofLines at literal
    split at literal
    · cases literal
    · split at literal
      · cases literal
        rfl
      · cases literal
        rfl
      · cases literal
  refine ⟨_, ⟨?_, ?_⟩, joined⟩
  · intro l member
    obtain ⟨line, listed, rfl⟩ := List.mem_map.mp member
    exact trimmed_trimEnd (unbroken line listed)
  · obtain ⟨line, last⟩ : ∃ line, (first :: others).getLast? = some line :=
      ⟨_, List.getLast?_eq_some_getLast (List.cons_ne_nil first others)⟩
    refine ⟨line.trimEnd, by rw [List.getLast?_map, last]; rfl, ?_⟩
    rw [ne_eq, Text.trimEnd_eq_nil, solid line (List.mem_of_getLast? last)]
    exact Bool.false_ne_true

theorem isLiteral_merge {a b : Text} (front : IsLiteral a) (back : IsLiteral b) :
    IsLiteral (a ++ "\n\n".toList ++ b) := by
  obtain ⟨ls, before, rfl⟩ := front
  obtain ⟨ms, after, rfl⟩ := back
  refine ⟨ls ++ [] :: ms, before.merge after, ?_⟩
  obtain ⟨m, ms, rfl⟩ := List.exists_cons_of_ne_nil after.ne_nil
  rw [Text.joined_append before.ne_nil (List.cons_ne_nil _ _), List.intercalate_cons_cons]
  simp

theorem isLiteral_cons {p : Paragraph} {ps : List Paragraph}
    (here : ∀ v, p = .verbatim v → IsLiteral v) (later : ∀ v, .verbatim v ∈ ps → IsLiteral v) :
    ∀ v, .verbatim v ∈ p.cons ps → IsLiteral v := by
  intro v read
  unfold Paragraph.cons at read
  split at read
  · rename_i a b more
    rcases List.mem_cons.mp read with same | member
    · cases same
      exact isLiteral_merge (here a rfl) (later b List.mem_cons_self)
    · exact later v (List.mem_cons_of_mem _ member)
  · rcases List.mem_cons.mp read with same | member
    · exact here v same.symm
    · exact later v member

theorem isLiteral_foldr {ps : List Paragraph} (each : ∀ v, .verbatim v ∈ ps → IsLiteral v) :
    ∀ v, .verbatim v ∈ ps.foldr Paragraph.cons [] → IsLiteral v := by
  induction ps with
  | nil =>
    intro v read
    cases read
  | cons p ps ih =>
    apply isLiteral_cons
    · rintro v rfl
      exact each v List.mem_cons_self
    · exact ih fun v member => each v (List.mem_cons_of_mem p member)

theorem isLiteral_of_paragraphs {markup v : Text} (read : .verbatim v ∈ paragraphs markup) :
    IsLiteral v := by
  apply isLiteral_foldr ?_ v read
  intro v member
  obtain ⟨group, listed, made⟩ := List.mem_filterMap.mp member
  obtain ⟨some, inside⟩ := mem_lineGroups listed
  cases group with
  | nil => exact absurd rfl some
  | cons first others =>
    apply ofLines_literal ?_ ?_ (Option.some.inj made)
    · intro l member
      exact Text.feed_notMem_lines (inside l member).1
    · intro l member
      exact (inside l member).2

end Paragraphs
end Markup

namespace Page
open Text (Trimmed LiteralLines)

def untabbed (t : Text) : Text := Text.replaceChar '\t' (List.replicate 8 ' ') t

section Tabs

theorem untabbed_append (a b : Text) : untabbed (a ++ b) = untabbed a ++ untabbed b :=
  List.flatMap_append

theorem untabbed_single {c : Char} (other : c ≠ '\t') : untabbed [c] = [c] := by
  simp [untabbed, Text.replaceChar, other]

theorem untabbed_joined (ls : List Text) :
    untabbed (['\n'].intercalate ls) = ['\n'].intercalate (ls.map untabbed) := by
  induction ls with
  | nil => rfl
  | cons l ls ih =>
    cases ls with
    | nil => rw [List.map_singleton, List.intercalate_singleton, List.intercalate_singleton]
    | cons next ls =>
      rw [List.map_cons] at ih
      rw [List.map_cons, List.map_cons, List.intercalate_cons_cons, List.intercalate_cons_cons,
        untabbed_append, untabbed_append, ih, untabbed_single (by decide)]

theorem trimmed_untabbed {line : Text} (trimmed : Trimmed line) : Trimmed (untabbed line) := by
  constructor
  · intro member
    obtain ⟨c, listed, inside⟩ := List.mem_flatMap.mp member
    split at inside
    · have space := List.eq_of_mem_replicate inside
      cases space
    · exact trimmed.unbroken (List.mem_singleton.mp inside ▸ listed)
  · rcases List.eq_nil_or_concat' line with rfl | ⟨front, c, rfl⟩
    · simp [untabbed, Text.replaceChar]
    · have solid := trimmed.solid c (by simp)
      have other : c ≠ '\t' := by
        rintro rfl
        cases solid
      rw [untabbed_append, untabbed_single other, List.getLast?_concat]
      intro d last
      cases last
      exact solid

theorem untabbed_eq_nil {line : Text} : untabbed line = [] ↔ line = [] := by
  constructor
  · intro empty
    cases line with
    | nil => rfl
    | cons c line =>
      rw [← List.singleton_append, untabbed_append, List.append_eq_nil_iff] at empty
      by_cases tab : c = '\t'
      · rw [tab] at empty
        cases empty.1
      · rw [untabbed_single tab] at empty
        cases empty.1
  · rintro rfl
    rfl

theorem literalLines_untabbed {ls : List Text} (literal : LiteralLines ls) :
    LiteralLines (ls.map untabbed) := by
  constructor
  · intro l member
    obtain ⟨line, listed, rfl⟩ := List.mem_map.mp member
    exact trimmed_untabbed (literal.trimmed line listed)
  · obtain ⟨l, last, full⟩ := literal.last
    refine ⟨untabbed l, by rw [List.getLast?_map, Option.mem_def.mp last]; rfl, ?_⟩
    rwa [ne_eq, untabbed_eq_nil]

end Tabs

def indentOf (line : Text) : Nat := (line.takeWhile (· == ' ')).length

/-- The least indentation of the lines with text. -/
def commonIndent (ls : List Text) : Nat :=
  ((ls.filter fun l => !Text.isAllBlank l).map indentOf).min?.getD 0

def dropIndent (k : Nat) (line : Text) : Text := line.drop (min (indentOf line) k)

section Indents

theorem outdent_eq (t : Text) :
    outdent t = ['\n'].intercalate ((Text.lines (untabbed t)).map
      (dropIndent (commonIndent (Text.lines (untabbed t))))) := rfl

theorem solid_of_trimmed {line : Text} (trimmed : Trimmed line) (full : line ≠ []) :
    Text.isAllBlank line = false := by
  have last := trimmed.solid _ (List.getLast_mem_getLast? full)
  rw [Text.isAllBlank, List.all_eq_false]
  exact ⟨_, List.getLast_mem full, by simp [last]⟩

theorem commonIndent_spec {ls : List Text} (literal : LiteralLines ls) :
    (∀ l ∈ ls, l ≠ [] → commonIndent ls ≤ indentOf l) ∧
      ∃ l ∈ ls, l ≠ [] ∧ indentOf l = commonIndent ls := by
  have shown : ∀ {l}, l ∈ ls → l ≠ [] → l ∈ ls.filter fun l => !Text.isAllBlank l := by
    intro l member full
    rw [List.mem_filter, solid_of_trimmed (literal.trimmed l member) full]
    exact ⟨member, rfl⟩
  obtain ⟨l, last, full⟩ := literal.last
  have some : (ls.filter fun l => !Text.isAllBlank l).map indentOf ≠ [] :=
    List.ne_nil_of_mem (List.mem_map_of_mem (shown (List.mem_of_getLast? last) full))
  obtain ⟨k, least⟩ := Option.isSome_iff_exists.mp (List.isSome_min?_of_ne_nil some)
  have same : commonIndent ls = k := by rw [commonIndent, least, Option.getD_some]
  obtain ⟨member, bound⟩ := List.min?_eq_some_iff.mp least
  rw [same]
  constructor
  · intro l member full
    exact bound _ (List.mem_map_of_mem (shown member full))
  · obtain ⟨l, listed, indent⟩ := List.mem_map.mp member
    obtain ⟨inside, solid⟩ := List.mem_filter.mp listed
    refine ⟨l, inside, ?_, indent⟩
    rintro rfl
    cases solid

theorem dropIndent_nil (k : Nat) : dropIndent k [] = [] := rfl

theorem eq_append_dropIndent {k : Nat} {line : Text} (enough : k ≤ indentOf line) :
    line = List.replicate k ' ' ++ dropIndent k line := by
  have spaces : line.take k = List.replicate k ' ' := by
    have inside : line.take k <+: line.takeWhile (· == ' ') :=
      List.prefix_of_prefix_length_le (List.take_prefix k line) (List.takeWhile_prefix _)
        ((List.length_take_le k line).trans enough)
    refine List.eq_replicate_iff.mpr ⟨?_, ?_⟩
    · have bound := (List.takeWhile_prefix (l := line) (· == ' ')).length_le
      rw [List.length_take]
      unfold indentOf at enough
      omega
    · intro c member
      simpa using List.mem_takeWhile_imp (inside.subset member)
  rw [dropIndent, Nat.min_eq_right enough, ← spaces, List.take_append_drop]

theorem dropIndent_ne_nil {k : Nat} {line : Text} (trimmed : Trimmed line) (full : line ≠ [])
    (enough : k ≤ indentOf line) : dropIndent k line ≠ [] := by
  intro empty
  have spaces := eq_append_dropIndent enough
  rw [empty, List.append_nil] at spaces
  have solid := solid_of_trimmed trimmed full
  rw [spaces, Text.isAllBlank, List.all_replicate] at solid
  cases k with
  | zero => exact full spaces
  | succ k => simp [Text.isBlank] at solid

theorem head?_dropIndent (line : Text) : (dropIndent (indentOf line) line).head? ≠ some ' ' := by
  have split : line.takeWhile (· == ' ') ++ line.dropWhile (· == ' ') = line :=
    List.takeWhile_append_dropWhile
  have rest : dropIndent (indentOf line) line = line.dropWhile (· == ' ') := by
    rw [dropIndent, Nat.min_self]
    calc
      line.drop (indentOf line) =
          (line.takeWhile (· == ' ') ++ line.dropWhile (· == ' ')).drop (indentOf line) := by
        rw [split]
      _ = line.dropWhile (· == ' ') := List.drop_left
  intro space
  have stops := List.head?_dropWhile_not (· == ' ') line
  rw [← rest, space] at stops
  cases stops

theorem trimmed_dropIndent {k : Nat} {line : Text} (trimmed : Trimmed line) :
    Trimmed (dropIndent k line) := by
  constructor
  · intro member
    exact trimmed.unbroken (List.mem_of_mem_drop member)
  · intro c last
    rw [dropIndent, List.getLast?_drop] at last
    split at last
    · cases last
    · exact trimmed.solid c last

/-- How a line is shown: without `k` spaces in front, unless it is empty. -/
def Outdented (k : Nat) (line shown : Text) : Prop :=
  (line = [] ↔ shown = []) ∧ (line ≠ [] → line = List.replicate k ' ' ++ shown)

theorem outdented_dropIndent {ls : List Text} (literal : LiteralLines ls) {line : Text}
    (member : line ∈ ls) :
    Outdented (commonIndent ls) line (dropIndent (commonIndent ls) line) := by
  have enough := (commonIndent_spec literal).1 line member
  constructor
  · constructor
    · rintro rfl
      exact dropIndent_nil _
    · intro empty
      by_contra full
      exact dropIndent_ne_nil (literal.trimmed line member) full (enough full) empty
  · intro full
    exact eq_append_dropIndent (enough full)

theorem literalLines_dropIndent {ls : List Text} (literal : LiteralLines ls) :
    LiteralLines (ls.map (dropIndent (commonIndent ls))) := by
  constructor
  · intro l member
    obtain ⟨line, listed, rfl⟩ := List.mem_map.mp member
    exact trimmed_dropIndent (literal.trimmed line listed)
  · obtain ⟨l, last, full⟩ := literal.last
    have shown := outdented_dropIndent literal (List.mem_of_getLast? last)
    refine ⟨_, by rw [List.getLast?_map, Option.mem_def.mp last]; rfl, ?_⟩
    exact fun empty => full (shown.1.mpr empty)

end Indents

theorem lines_outdent {v : Text} (literal : Markup.IsLiteral v) :
    ∃ ls, LiteralLines ls ∧ Text.lines (untabbed v) = ls ∧
      Text.lines (outdent v) = ls.map (dropIndent (commonIndent ls)) := by
  obtain ⟨ls, trimmed, rfl⟩ := literal
  have spaced := literalLines_untabbed trimmed
  have before : Text.lines (untabbed (['\n'].intercalate ls)) = ls.map untabbed := by
    rw [untabbed_joined, Text.lines_literal spaced]
  refine ⟨ls.map untabbed, spaced, before, ?_⟩
  rw [outdent_eq, before, Text.lines_literal (literalLines_dropIndent spaced)]

theorem write_verbatim (s : Inline.Setting) (v : Text) :
    Html.write (blockHtml s (.verbatim v)) =
      "<pre>".toList ++ Html.escape (outdent v) ++ "</pre>\n".toList := by
  have element : Html.writeNode (.plain .preformatted [.text (outdent v)]) =
      "<pre>".toList ++ (Html.escape (outdent v) ++ []) ++ "</pre>".toList := by
    rw [Html.plain, Html.writeNode, Html.write, Html.write, Html.writeNode, List.append_assoc,
      List.append_assoc]
    rfl
  rw [blockHtml, Html.write, Html.write, Html.write, element, Html.newline, Html.writeNode,
    List.append_nil, List.append_nil, List.append_assoc]
  rfl

/-- A literal paragraph is shown line by line, with tabs as eight spaces and without the indentation
that its lines share: one of them starts with no space any more. The page holds it escaped. -/
theorem verbatim_outdented {markup v : Text} (read : .verbatim v ∈ Markup.paragraphs markup) :
    (∃ k, List.Forall₂ (Outdented k)
      (Text.lines (Text.replaceChar '\t' (List.replicate 8 ' ') v)) (Text.lines (outdent v))) ∧
    (∃ line ∈ Text.lines (outdent v), ∃ c ∈ line.head?, c ≠ ' ') ∧
    ∀ s, ∃ content, Html.write (blockHtml s (.verbatim v)) =
      "<pre>".toList ++ content ++ "</pre>\n".toList ∧ '<' ∉ content ∧
        Html.decode content = outdent v := by
  obtain ⟨ls, literal, before, after⟩ := lines_outdent (Markup.isLiteral_of_paragraphs read)
  rw [after]
  refine ⟨⟨commonIndent ls, ?_⟩, ?_, ?_⟩
  · rw [show Text.lines (Text.replaceChar _ _ v) = ls from before, List.forall₂_map_right_iff,
      List.forall₂_same]
    exact fun line member => outdented_dropIndent literal member
  · obtain ⟨l, member, full, least⟩ := (commonIndent_spec literal).2
    have shown := outdented_dropIndent literal member
    obtain ⟨c, rest, start⟩ := List.exists_cons_of_ne_nil (mt shown.1.mpr full)
    refine ⟨_, List.mem_map_of_mem member, c, by rw [start]; rfl, ?_⟩
    have unspaced := head?_dropIndent l
    rw [least, start] at unspaced
    simpa using unspaced
  · intro s
    have read := Html.decode_escape (outdent v) []
    rw [List.append_nil] at read
    refine ⟨_, write_verbatim s v, (Html.escape_plain _).1, read.trans ?_⟩
    simp [Html.decode]

theorem verbatim_outdented_mixed :
    let markup := "x\n\n\tif a <\rb:  \r\n    \u3000c &&\td\n \u00A0\n      e\u2003\n   f".toList
    let v := "\tif a <\rb:\n    \u3000c &&\td\n\n      e\n   f".toList
    .verbatim v ∈ Markup.paragraphs markup ∧
      outdent v = "     if a <\rb:\n \u3000c &&        d\n\n   e\nf".toList ∧
      (∃ k, List.Forall₂ (Outdented k)
        (Text.lines (Text.replaceChar '\t' (List.replicate 8 ' ') v)) (Text.lines (outdent v))) ∧
      ∃ line ∈ Text.lines (outdent v), ∃ c ∈ line.head?, c ≠ ' ' := by
  intro markup v
  have read : .verbatim v ∈ Markup.paragraphs markup := by decide +kernel
  obtain ⟨indent, start, _⟩ := verbatim_outdented read
  exact ⟨read, by decide +kernel, indent, start⟩

end Page
end PodSite
