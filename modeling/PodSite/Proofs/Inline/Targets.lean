import PodSite.Proofs.Inline.Labels
import PodSite.Proofs.Text.Cut
import PodSite.Proofs.Text.Trim

/-!
Links to pages, written out. A link has an optional label, the name of a page and a part of it that
may be quoted, with white space around each of them. Reading such a text gives the label, the name
and the part back, unless the whole looks like an address.
-/
namespace PodSite.Link

structure Margin where
  before : Text
  after : Text
  blank : Text.isAllBlank before = true ∧ Text.isAllBlank after = true

def Margin.empty : Margin := ⟨[], [], rfl, rfl⟩

def Margin.around (m : Margin) (t : Text) : Text := m.before ++ t ++ m.after

/-- The white space in a link: around its label, the name of the page, the part of it, and around
the quotes that the part stands in. -/
structure Spacing where
  label : Margin
  name : Margin
  part : Margin
  quotes : Margin

def Spacing.empty : Spacing := ⟨.empty, .empty, .empty, .empty⟩

/-- A label, whose bars all stand inside of angle brackets. -/
structure Label where
  text : Text
  trimmed : Text.trim text = text
  bars : ∀ i < text.length, text[i]? = some '|' → 0 < (text.take i).foldl nest 0
  closed : text.foldl nest 0 = 0

structure PageName where
  text : Text
  trimmed : Text.trim text = text
  plain : ∀ c ∈ text, c ∉ "/|<>".toList
  unquoted : text.head? ≠ some '"'

structure Part where
  text : Text
  solid : text ≠ []
  plain : ∀ c ∈ text, c ∉ "|<>".toList
  front : ∀ c ∈ text.head?, Text.isBlank c = false ∧ c ≠ '"'
  back : ∀ c ∈ text.getLast?, Text.isBlank c = false ∧ c ≠ '"'

inductive PageForm where
  | page (name : PageName)
  | part (name : PageName) (part : Part)
  | quoted (name : PageName) (part : Part)
  /-- A quoted part of the present page. -/
  | own (part : Part)

def PageForm.target : PageForm → Target
  | page name => .page name.text none
  | part name p => .page name.text (some p.text)
  | quoted name p => .page name.text (some p.text)
  | own p => .page [] (some p.text)

def Spacing.quote (w : Spacing) (p : Part) : Text :=
  w.quotes.around ('"' :: w.part.around p.text ++ ['"'])

def PageForm.print (w : Spacing) : PageForm → Text
  | page name => w.name.around name.text
  | part name p => w.name.around name.text ++ '/' :: w.part.around p.text
  | quoted name p => w.name.around name.text ++ '/' :: w.quote p
  | own p => w.quote p

def print (w : Spacing) (label : Option Label) (form : PageForm) : Text :=
  match label with
  | some l => w.label.around l.text ++ '|' :: form.print w
  | none => form.print w

namespace Margin
variable (m : Margin) {t : Text} {c : Char}

theorem trim_around (t : Text) : Text.trim (m.around t) = Text.trim t :=
  Text.trim_around m.blank.1 t m.blank.2

theorem mem_around (member : c ∈ m.around t) : Text.isBlank c = true ∨ c ∈ t := by
  rw [around, List.mem_append, List.mem_append] at member
  rcases member with (before | inside) | after
  · exact .inl (List.all_eq_true.mp m.blank.1 c before)
  · exact .inr inside
  · exact .inl (List.all_eq_true.mp m.blank.2 c after)

theorem notMem_around (solid : Text.isBlank c = false) (outside : c ∉ t) : c ∉ m.around t := by
  intro member
  rcases m.mem_around member with blank | inside
  · simp [solid] at blank
  · exact outside inside

theorem head?_around (solid : t ≠ []) (first : c ∈ (m.around t).head?) :
    Text.isBlank c = true ∨ c ∈ t.head? := by
  rw [around, List.append_assoc] at first
  cases before : m.before with
  | nil =>
    rw [before, List.nil_append, List.head?_append_of_ne_nil _ solid] at first
    exact .inr first
  | cons b rest =>
    rw [before] at first
    cases first
    exact .inl (List.all_eq_true.mp m.blank.1 c (by simp [before]))

theorem getLast?_around (solid : t ≠ []) (last : c ∈ (m.around t).getLast?) :
    Text.isBlank c = true ∨ c ∈ t.getLast? := by
  rw [around] at last
  cases after : m.after with
  | nil =>
    rw [after, List.append_nil, List.getLast?_append_of_ne_nil _ solid] at last
    exact .inr last
  | cons b rest =>
    rw [after, List.getLast?_append_of_ne_nil _ (List.cons_ne_nil b rest), ← after] at last
    exact .inl (List.all_eq_true.mp m.blank.2 c (List.mem_of_mem_getLast? last))

end Margin

theorem splitLabel?_inside {front : Text} (depth : Nat) (rest : Text)
    (inside : ∀ i < front.length, front[i]? = some '|' → 0 < (front.take i).foldl nest depth) :
    splitLabel? depth (front ++ rest) =
      (splitLabel? (front.foldl nest depth) rest).map fun cut => (front ++ cut.1, cut.2) := by
  induction front generalizing depth with
  | nil => simp
  | cons c front ih =>
    have first : ¬(c = '|' ∧ depth = 0) := by
      rintro ⟨rfl, rfl⟩
      exact absurd (inside 0 (by simp) rfl) (by simp)
    have later := ih (nest depth c) fun i bound bar => inside (i + 1) (by simpa using bound) bar
    rw [List.cons_append, splitLabel?, if_neg first]
    change (splitLabel? (nest depth c) (front ++ rest)).map _ = _
    rw [later, Option.map_map]
    rfl

theorem foldl_nest_plain {t : Text} (depth : Nat) (plain : '<' ∉ t ∧ '>' ∉ t) :
    t.foldl nest depth = depth := by
  induction t with
  | nil => rfl
  | cons c t ih =>
    simp only [List.mem_cons, not_or] at plain
    have same : nest depth c = depth := by
      rw [nest, if_neg (Ne.symm plain.1.1), if_neg (Ne.symm plain.2.1)]
    rw [List.foldl_cons, same, ih ⟨plain.1.2, plain.2.2⟩]

theorem splitLabel?_blank {blanks : Text} (blank : Text.isAllBlank blanks = true) (depth : Nat)
    (rest : Text) :
    splitLabel? depth (blanks ++ rest) =
      (splitLabel? depth rest).map fun cut => (blanks ++ cut.1, cut.2) := by
  have other : ∀ c, Text.isBlank c = false → c ∉ blanks := fun c solid =>
    Inline.Counted.not_mem_blanks (List.all_eq_true.mp blank) solid
  rw [splitLabel?_inside, foldl_nest_plain depth ⟨other '<' (by decide), other '>' (by decide)⟩]
  intro i _ bar
  exact absurd (List.mem_of_getElem? bar) (other '|' (by decide))

theorem splitLabel?_label (m : Margin) (l : Label) (rest : Text) :
    splitLabel? 0 (m.around l.text ++ '|' :: rest) = some (m.around l.text, rest) := by
  have bar : splitLabel? 0 ('|' :: rest) = some ([], rest) := rfl
  rw [Margin.around, List.append_assoc, List.append_assoc, splitLabel?_blank m.blank.1,
    splitLabel?_inside 0 _ l.bars, l.closed, splitLabel?_blank m.blank.2, bar]
  simp

theorem splitLabel?_barless {t : Text} (depth : Nat) (barless : '|' ∉ t) :
    splitLabel? depth t = none := by
  have passed := splitLabel?_inside depth [] fun i _ bar =>
    absurd (List.mem_of_getElem? bar) barless
  rw [List.append_nil] at passed
  exact passed

def endsScheme : Text → Bool
  | ':' :: d :: _ => d != ':'
  | _ => false

theorem isAddress_cons (c : Char) (rest : Text) :
    isAddress (c :: rest) =
      (Text.isAsciiLetter c && endsScheme (rest.dropWhile isSchemeChar)) := rfl

def StopsScheme (c : Char) : Prop := isSchemeChar c = false ∧ c ≠ ':'

instance : DecidablePred StopsScheme := fun c =>
  inferInstanceAs (Decidable (isSchemeChar c = false ∧ c ≠ ':'))

theorem stopsScheme_blank {c : Char} (blank : Text.isBlank c = true) : StopsScheme c := by
  have other : ∀ d, Text.isBlank d = false → c ≠ d := by
    rintro d solid rfl
    simp [blank] at solid
  have letters : Text.isAsciiAlphanumeric c = false := by
    by_contra letter
    rw [Text.isBlank_of_alphanumeric (by simpa using letter)] at blank
    cases blank
  refine ⟨?_, other ':' (by decide)⟩
  simp [isSchemeChar, letters, other '+' (by decide), other '.' (by decide), other '-' (by decide)]

theorem endsScheme_stop {c : Char} (stops : StopsScheme c) (rest : Text) :
    endsScheme ((c :: rest).dropWhile isSchemeChar) = false := by
  rw [List.dropWhile_cons_of_neg (by simp [stops.1])]
  unfold endsScheme
  split
  · rename_i same
    cases same
    exact absurd rfl stops.2
  · rfl

section Follow
variable {c d : Char} (rest rest' : Text)

theorem endsScheme_follow (stops : StopsScheme c) (stops' : StopsScheme d) (t : Text) :
    endsScheme ((t ++ c :: rest).dropWhile isSchemeChar) =
      endsScheme ((t ++ d :: rest').dropWhile isSchemeChar) := by
  induction t with
  | nil => rw [List.nil_append, List.nil_append, endsScheme_stop stops, endsScheme_stop stops']
  | cons b t ih =>
    rw [List.cons_append, List.cons_append]
    by_cases scheme : isSchemeChar b = true
    · rw [List.dropWhile_cons_of_pos scheme, List.dropWhile_cons_of_pos scheme, ih]
    · rw [List.dropWhile_cons_of_neg scheme, List.dropWhile_cons_of_neg scheme]
      by_cases colon : b = ':'
      · subst colon
        cases t with
        | nil =>
          have ends : (c != ':') = true := bne_iff_ne.mpr stops.2
          have ends' : (d != ':') = true := bne_iff_ne.mpr stops'.2
          exact ends.trans ends'.symm
        | cons e t => rfl
      · simp [endsScheme, colon]

/-- Whether a text is an address does not depend on what follows a character that stops a scheme. -/
theorem isAddress_follow (stops : StopsScheme c) (stops' : StopsScheme d) (t : Text) :
    isAddress (t ++ c :: rest) = isAddress (t ++ d :: rest') := by
  have letter : ∀ {e : Char}, StopsScheme e → Text.isAsciiLetter e = false := by
    intro e stop
    have none := stop.1
    simp only [isSchemeChar, Text.isAsciiAlphanumeric, Bool.or_eq_false_iff] at none
    exact none.1.1.1.1
  cases t with
  | nil => simp [isAddress_cons, letter stops, letter stops']
  | cons a t =>
    rw [List.cons_append, List.cons_append, isAddress_cons, isAddress_cons,
      endsScheme_follow rest rest' stops stops']

end Follow

theorem partOf?_trimEnd (t : Text) : partOf? (Text.trimEnd t) = partOf? t := by
  rw [partOf?, partOf?, Text.trim_trimEnd]

theorem partOf?_trim (t : Text) : partOf? (Text.trim t) = partOf? t := by
  rw [partOf?, partOf?, Text.trim_trim]

namespace Part
variable (p : Part) (m : Margin)

theorem trim_text : Text.trim p.text = p.text :=
  Text.trim_eq_self (fun c first => (p.front c first).1) (fun c last => (p.back c last).1)

theorem partOf?_eq {t : Text} (bare : Text.trim (Text.trimChar '"' (Text.trim t)) = p.text) :
    partOf? t = some p.text := by
  unfold partOf?
  rw [bare]
  split
  · exact absurd (by assumption) p.solid
  · rfl

theorem partOf?_around : partOf? (m.around p.text) = some p.text := by
  have unquoted : Text.trimChar '"' p.text = p.text :=
    Text.trimChar_eq_self (fun c first => (p.front c first).2) (fun c last => (p.back c last).2)
  apply p.partOf?_eq
  rw [m.trim_around, p.trim_text, unquoted, p.trim_text]

theorem around_unquoted :
    (∀ c ∈ (m.around p.text).head?, c ≠ '"') ∧ ∀ c ∈ (m.around p.text).getLast?, c ≠ '"' := by
  have other : ∀ c, Text.isBlank c = true → c ≠ '"' := by
    rintro c blank rfl
    exact absurd blank (by decide)
  constructor
  · intro c first
    exact (m.head?_around p.solid first).elim (other c) fun inside => (p.front c inside).2
  · intro c last
    exact (m.getLast?_around p.solid last).elim (other c) fun inside => (p.back c inside).2

theorem trim_quote (w : Spacing) :
    Text.trim (w.quote p) = '"' :: w.part.around p.text ++ ['"'] := by
  rw [Spacing.quote, w.quotes.trim_around]
  apply Text.trim_eq_self
  · intro c first
    cases first
    decide
  · intro c last
    rw [List.getLast?_concat] at last
    cases last
    decide

theorem partOf?_quote (w : Spacing) : partOf? (w.quote p) = some p.text := by
  obtain ⟨front, back⟩ := p.around_unquoted w.part
  apply p.partOf?_eq
  rw [p.trim_quote, Text.trimChar_quoted front back, w.part.trim_around, p.trim_text]

end Part

namespace PageName
variable (name : PageName) (m : Margin)

theorem notMem {c : Char} (mark : c ∈ "/|<>".toList) : c ∉ name.text :=
  fun member => name.plain c member mark

theorem trimStart_around :
    ∃ blanks, Text.isAllBlank blanks = true ∧
      Text.trimStart (m.around name.text) = name.text ++ blanks := by
  rw [Margin.around, List.append_assoc, Text.trimStart_blank m.blank.1]
  cases solid : Text.isAllBlank name.text with
  | true =>
    have nothing : name.text = [] := name.trimmed.symm.trans (Text.trim_eq_nil.mpr solid)
    refine ⟨[], rfl, ?_⟩
    rw [nothing, List.nil_append, List.nil_append]
    exact Text.trimStart_eq_nil.mpr m.blank.2
  | false =>
    refine ⟨m.after, m.blank.2, ?_⟩
    rw [Text.trimStart_append solid, Text.trimStart_of_trim name.trimmed]

end PageName

/-- A name, a slash and a part, however the part is written. -/
theorem targetOf_slashed (m : Margin) (name : PageName) (t : Text) {t' : Text}
    (page : isAddress (name.text ++ '/' :: t') = false) :
    targetOf (Text.trim (m.around name.text ++ '/' :: t)) = .page name.text (partOf? t) := by
  obtain ⟨blanks, blank, front⟩ := name.trimStart_around m
  have cut : Text.trim (m.around name.text ++ '/' :: t) =
      name.text ++ blanks ++ '/' :: Text.trimEnd t := by
    rw [Text.trim_through (by decide), front]
  -- the slash stops a scheme, and so does white space in front of it
  have other : isAddress (name.text ++ blanks ++ '/' :: Text.trimEnd t) = false := by
    have slash : StopsScheme '/' := by decide
    rw [← page]
    cases blanks with
    | nil => rw [List.append_nil, isAddress_follow _ _ slash slash]
    | cons b blanks =>
      have stops : StopsScheme b := stopsScheme_blank (List.all_eq_true.mp blank b (by simp))
      rw [List.append_assoc, List.cons_append, isAddress_follow _ _ stops slash]
  have unquoted : (name.text ++ blanks ++ '/' :: Text.trimEnd t).head? ≠ some '"' := by
    intro first
    rw [List.append_assoc] at first
    cases text : name.text with
    | nil =>
      cases blanks with
      | nil => simp [text] at first
      | cons b blanks =>
        rw [text] at first
        cases first
        exact absurd (List.all_eq_true.mp blank '"' (by simp)) (by decide)
    | cons c rest =>
      rw [text, List.cons_append] at first
      exact name.unquoted (by rw [text]; exact first)
  have unslashed : ∀ c ∈ name.text ++ blanks, (c == '/') = false := by
    intro c member
    rw [beq_eq_false_iff_ne]
    rintro rfl
    rcases List.mem_append.mp member with inside | after
    · exact name.notMem (by decide) inside
    · exact absurd (List.all_eq_true.mp blank _ after) (by decide)
  have whole : Text.trim (name.text ++ blanks) = name.text := by
    have trimmed := Text.trim_around (a := []) rfl name.text blank
    rw [List.nil_append, name.trimmed] at trimmed
    exact trimmed
  rw [cut, targetOf, other, if_neg Bool.false_ne_true, if_neg unquoted,
    Text.splitOnce?_first _ unslashed (by simp)]
  simp only [whole, partOf?_trimEnd]

theorem PageForm.targetOf_print (w : Spacing) (form : PageForm)
    (page : isAddress (form.print .empty) = false) :
    targetOf (Text.trim (form.print w)) = form.target := by
  have bare : ∀ t : Text, Margin.empty.around t = t := fun t => List.append_nil t
  cases form with
  | page name =>
    rw [print, Spacing.empty, bare] at page
    have unslashed : ∀ c ∈ name.text, (c == '/') = false := by
      intro c member
      rw [beq_eq_false_iff_ne]
      rintro rfl
      exact name.notMem (by decide) member
    rw [print, w.name.trim_around, name.trimmed, targetOf, page, if_neg Bool.false_ne_true,
      if_neg name.unquoted, Text.splitOnce?_none unslashed]
    rfl
  | part name p =>
    rw [print, Spacing.empty, bare] at page
    rw [print, targetOf_slashed w.name name _ page, p.partOf?_around]
    rfl
  | quoted name p =>
    rw [print, Spacing.empty, bare] at page
    rw [print, targetOf_slashed w.name name _ page, p.partOf?_quote]
    rfl
  | own p =>
    have other : isAddress (Text.trim (w.quote p)) = false := by
      rw [p.trim_quote, List.cons_append, isAddress_cons]
      rfl
    have quoted : (Text.trim (w.quote p)).head? = some '"' := by
      rw [p.trim_quote]
      rfl
    rw [print, targetOf, other, if_neg Bool.false_ne_true, if_pos quoted, partOf?_trim,
      p.partOf?_quote]
    rfl

theorem PageForm.print_barless (w : Spacing) (form : PageForm) : '|' ∉ form.print w := by
  have solid : Text.isBlank '|' = false := by decide
  have name : ∀ name : PageName, '|' ∉ w.name.around name.text := fun name =>
    w.name.notMem_around solid (name.notMem (by decide))
  have part : ∀ p : Part, '|' ∉ w.part.around p.text := fun p =>
    w.part.notMem_around solid fun member => p.plain _ member (by decide)
  have quote : ∀ p : Part, '|' ∉ w.quote p := fun p =>
    w.quotes.notMem_around solid (by simp [part p])
  cases form with
  | page n => exact name n
  | part n p => simp [print, name n, part p]
  | quoted n p => simp [print, name n, quote p]
  | own p => exact quote p

/-- Reading a link to a page undoes printing it, whatever white space stands around its label, its
name and its part. -/
theorem ofText_print (w : Spacing) (label : Option Label) (form : PageForm)
    (page : isAddress (form.print .empty) = false) :
    ofText (print w label form) = ⟨label.map (·.text), form.target⟩ := by
  have target := form.targetOf_print w page
  cases label with
  | none =>
    have whole : splitLabel? 0 (form.print w) = none :=
      splitLabel?_barless 0 (form.print_barless w)
    rw [print, ofText, whole]
    simp only [target, Option.map_none]
  | some l =>
    rw [print, ofText, splitLabel?_label]
    simp only [target, w.label.trim_around, l.trimmed, Option.map_some]

def nestedLabel : Label :=
  ⟨"see B<a|b>".toList, by decide, by decide, by decide⟩

def nestedForm : PageForm :=
  .quoted ⟨"A::B c".toList, by decide, by simp, by decide⟩
    ⟨"x/\"y\" z".toList, by decide, by simp, by simp [Text.isBlank], by simp [Text.isBlank]⟩

def wideSpacing : Spacing :=
  ⟨⟨[' '], ['\t'], by decide⟩, ⟨[], ['\u00A0'], by decide⟩, ⟨[' '], [' '], by decide⟩,
    ⟨['\n', ' '], [' '], by decide⟩⟩

theorem ofText_print_nested :
    isAddress (nestedForm.print .empty) = false ∧
      print wideSpacing (some nestedLabel) nestedForm =
        " see B<a|b>\t|A::B c\u00A0/\n \" x/\"y\" z \" ".toList ∧
      ofText (print wideSpacing (some nestedLabel) nestedForm) =
        ⟨some "see B<a|b>".toList, .page "A::B c".toList (some "x/\"y\" z".toList)⟩ := by
  have page : isAddress (nestedForm.print .empty) = false := by decide
  exact ⟨page, by decide, ofText_print wideSpacing (some nestedLabel) nestedForm page⟩

end PodSite.Link
