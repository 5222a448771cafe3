import Mathlib.Data.List.Basic
import PodSite.Proofs.Inline.Leaves
import PodSite.Proofs.Text.Trim

/-!
Inline markup written out again. Nodes in canonical form are printed with one pair of angle brackets
around each code, and reading the text gives the nodes back.
-/
namespace PodSite

namespace Text

theorem digitValue?_ten {c : Char} (digit : c.isDigit = true) :
    digitValue? 10 c = some (c.toNat - 48) := by
  have bounds : 48 ≤ c.toNat ∧ c.toNat ≤ 57 := by
    simp only [Char.isDigit, Bool.and_eq_true, decide_eq_true_eq] at digit
    exact ⟨digit.1, digit.2⟩
  unfold digitValue?
  simp only [bounds, and_self, ↓reduceIte]
  rw [if_pos (by omega)]

theorem digitsValue?_ten {t : Text} (digits : ∀ c ∈ t, c.isDigit = true) (high : Nat) :
    digitsValue? 10 high t = some (Nat.ofDigitChars 10 t high) := by
  induction t generalizing high with
  | nil => rfl
  | cons c t ih =>
    have first := digitValue?_ten (digits c (by simp))
    have later := ih fun d member => digits d (by simp [member])
    rw [digitsValue?, first, Option.bind_some, later, Nat.ofDigitChars_cons, Nat.mul_comm]
    rfl

theorem decimal_digits (n : Nat) : ∀ c ∈ decimal n, c.isDigit = true :=
  fun _ member => Nat.isDigit_of_mem_toDigits (by decide) (by decide) member

theorem decimal_asciiDigits (n : Nat) : (decimal n).all isAsciiDigit = true := by
  rw [List.all_eq_true]
  intro c member
  have digit := decimal_digits n c member
  simp only [Char.isDigit, Bool.and_eq_true, decide_eq_true_eq] at digit
  simp only [isAsciiDigit, Bool.and_eq_true, decide_eq_true_eq]
  exact digit

theorem decimal_ne_nil (n : Nat) : decimal n ≠ [] := Nat.toDigits_ne_nil

theorem number?_decimal (n : Nat) : number? 10 (decimal n) = some n := by
  have unsigned : '+' ∉ decimal n := Html.decimal_notMem n (by decide)
  unfold number?
  split
  · rename_i rest same
    rw [same] at unsigned
    simp at unsigned
  · rw [if_neg (by simpa using decimal_ne_nil n), digitsValue?_ten (decimal_digits n)]
    exact congrArg some Nat.ofDigitChars_ten_toDigits

theorem decimal_head {n : Nat} (positive : 0 < n) : (decimal n).head? ≠ some '0' := by
  induction n using Nat.strongRecOn with
  | ind n ih =>
    unfold decimal at ih ⊢
    rw [Nat.toDigits_eq_if (by decide)]
    split
    · rename_i small
      have digit : ∀ k < 10, 0 < k → [Nat.digitChar k].head? ≠ some '0' := by decide
      exact digit n small positive
    · rename_i large
      have front := ih (n / 10) (by omega) (by omega)
      rwa [List.head?_append_of_ne_nil _ Nat.toDigits_ne_nil]

theorem trim_alphanumeric {t : Text} (letters : t.all isAsciiAlphanumeric = true) : trim t = t := by
  have solid : ∀ c ∈ t, isBlank c = false := fun c member =>
    isBlank_of_alphanumeric (List.all_eq_true.mp letters c member)
  apply trim_eq_self
  · intro c first
    exact solid c (List.mem_of_mem_head? first)
  · intro c last
    exact solid c (List.mem_of_mem_getLast? last)

end Text

def Style.letter : Style → Char
  | .bold => 'B'
  | .italic => 'I'
  | .code => 'C'
  | .file => 'F'
  | .unbroken => 'S'

namespace Inline

theorem codeNumber?_decimal (n : Nat) : codeNumber? (Text.decimal n) = some n := by
  -- a zero in front makes a number octal or hexadecimal, and only zero itself has one
  by_cases zero : n = 0
  · subst zero
    decide
  have head := Text.decimal_head (Nat.pos_of_ne_zero zero)
  unfold codeNumber?
  split
  · rename_i same
    simp [same] at head
  · rename_i same
    simp [same] at head
  · rename_i same
    simp [same] at head
  · rw [if_pos (Text.decimal_asciiDigits n), Text.number?_decimal]

theorem charOfCode?_toNat (c : Char) : charOfCode? c.toNat = some c := by
  have valid : c.toNat < 0xD800 ∨ (0xDFFF < c.toNat ∧ c.toNat < 0x110000) := c.valid
  rw [charOfCode?, if_pos valid, Char.ofNat_toNat]

theorem ofCharacterCode_decimal (c : Char) :
    ofCharacterCode (Text.decimal c.toNat) = .character [c] := by
  have unnamed : namedCharacters.lookup (Text.decimal c.toNat) = none := by
    have lettered : ∀ pair ∈ namedCharacters, pair.1.all Text.isAsciiDigit = false := by decide
    rw [List.lookup_eq_none_iff]
    intro pair listed
    rw [bne_iff_ne]
    intro same
    have digits := lettered pair listed
    rw [← same, Text.decimal_asciiDigits] at digits
    contradiction
  unfold ofCharacterCode
  simp only [unnamed, codeNumber?_decimal, Option.bind_some, charOfCode?_toNat]

/-- A code with single angle brackets. -/
def spelled (letter : Char) (content : Text) : Text := letter :: '<' :: (content ++ ['>'])

mutual
def printNode : Inline → Text
  | .text t => t
  | .styled style content => spelled style.letter (print content)
  | .character t => t.flatMap fun c => spelled 'E' (Text.decimal c.toNat)
  | .entity name => spelled 'E' name
  | .link raw => spelled 'L' raw
def print : List Inline → Text
  | [] => []
  | node :: rest => printNode node ++ print rest
end

def startsWithText : List Inline → Bool
  | .text _ :: _ => true
  | _ => false

/-- Nodes in the form that printing keeps: texts are not empty, hold no angle bracket and do not
touch, a character is one, a reference is not read as a character, and the content of a link is
printed nodes of this form, without white space around it. -/
inductive Canonical : List Inline → Prop where
  | nil : Canonical []
  | text {t : Text} {rest : List Inline} (some : t ≠ []) (plain : Html.Plain t)
      (apart : startsWithText rest = false) (later : Canonical rest) : Canonical (.text t :: rest)
  | styled {style : Style} {content rest : List Inline} (inner : Canonical content)
      (later : Canonical rest) : Canonical (.styled style content :: rest)
  | character {c : Char} {rest : List Inline} (later : Canonical rest) :
      Canonical (.character [c] :: rest)
  | entity {name : Text} {rest : List Inline} (named : ofCharacterCode name = .entity name)
      (later : Canonical rest) : Canonical (.entity name :: rest)
  | link {content rest : List Inline} (inner : Canonical content)
      (front : ∀ c ∈ (print content).head?, Text.isBlank c = false)
      (back : ∀ c ∈ (print content).getLast?, Text.isBlank c = false)
      (later : Canonical rest) : Canonical (.link (print content) :: rest)

/-- What may follow a text without making a code of its last letter. -/
def Follows (t : Text) : Prop := t.head? ≠ some '<'

theorem spelled_append (letter : Char) (content rest : Text) :
    spelled letter content ++ rest = letter :: '<' :: (content ++ '>' :: rest) := by
  simp [spelled]

theorem follows_plain {t rest : Text} (plain : Html.Plain t) (follows : Follows rest) :
    Follows (t ++ rest) := by
  cases t with
  | nil => exact follows
  | cons c t => simpa [Follows, eq_comm] using (Html.plain_cons.mp plain).1.1

theorem follows_print {nodes : List Inline} (canonical : Canonical nodes) {rest : Text}
    (follows : Follows rest) : Follows (print nodes ++ rest) := by
  cases canonical with
  | nil => exact follows
  | @text t _ some plain _ _ =>
    obtain ⟨c, t, rfl⟩ := List.exists_cons_of_ne_nil some
    have first := (Html.plain_cons.mp plain).1.1
    simpa [print, printNode, Follows, eq_comm] using first
  | @styled style _ _ _ _ => cases style <;> simp [print, printNode, spelled, Style.letter, Follows]
  | character _ => simp [print, printNode, spelled, Follows]
  | entity _ _ => simp [print, printNode, spelled, Follows]
  | link _ _ _ _ => simp [print, printNode, spelled, Follows]

namespace Reader

structure Ready (r : Reader) : Prop where
  rested : r.skip = 0
  single : ∀ code ∈ r.codes.head?, code.closer = .angle

theorem step_enter {r : Reader} (ready : r.Ready) {c : Char} (other : c ≠ '>') (rest : Text) :
    r.step c rest = r.enter c rest := by
  unfold step
  rw [if_neg (by simp [ready.rested])]
  cases codes : r.codes with
  | nil => rfl
  | cons code outer =>
    have angle : code.closer = .angle := ready.single code (by simp [codes])
    have goesOn : code.closer.width? (c :: rest) = none := by
      simp [angle, Closer.width?, other]
    simp only [goesOn]

theorem opening?_eq_none {c : Char} {rest : Text} (follows : Follows rest) :
    opening? (c :: rest) = none := by
  unfold opening?
  split
  · rename_i same
    cases same
    simp [Follows] at follows
  · rfl

theorem run_text {r : Reader} (ready : r.Ready) {t rest : Text} (plain : Html.Plain t)
    (follows : Follows rest) :
    r.run (t ++ rest) = ({ r with text := t.reverse ++ r.text } : Reader).run rest := by
  induction t generalizing r with
  | nil => rfl
  | cons c t ih =>
    obtain ⟨⟨_, notGreater⟩, plain'⟩ := Html.plain_cons.mp plain
    have entered : r.step c (t ++ rest) = { r with text := c :: r.text } := by
      rw [step_enter ready (Ne.symm notGreater), enter,
        opening?_eq_none (follows_plain plain' follows)]
    have next : ({ r with text := c :: r.text } : Reader).Ready := ⟨ready.rested, ready.single⟩
    rw [List.cons_append, run, entered, ih next plain']
    simp

theorem opening?_single {letter : Char} (code : isCodeLetter letter = true) {rest : Text}
    (follows : Follows rest) : opening? (letter :: '<' :: rest) = some (.angle, 2) := by
  have angles : rest.takeWhile (· == '<') = [] := by
    cases rest with
    | nil => rfl
    | cons c rest =>
      have other : c ≠ '<' := by simpa [Follows] using follows
      simp [other]
  simp [opening?, code, angles]

def opened (r : Reader) (letter : Char) (start : Text) : OpenCode :=
  ⟨letter, .angle, start, flush r.nodes r.text⟩

theorem run_code {r : Reader} (ready : r.Ready) {letter : Char} (code : isCodeLetter letter = true)
    {content rest : Text} (follows : Follows (content ++ '>' :: rest)) {nodes : List Inline}
    {text : Text}
    (inner : (⟨r.opened letter (content ++ '>' :: rest) :: r.codes, [], [], 0⟩ : Reader).run
        (content ++ '>' :: rest) =
      (⟨r.opened letter (content ++ '>' :: rest) :: r.codes, nodes, text, 0⟩ : Reader).run
        ('>' :: rest))
    {node : Inline} (made : ofCode? letter (flush nodes text).reverse content = some node) :
    r.run (spelled letter content ++ rest) =
      (⟨r.codes, node :: flush r.nodes r.text, [], 0⟩ : Reader).run rest := by
  have entered : r.step letter ('<' :: (content ++ '>' :: rest)) =
      ⟨r.opened letter (content ++ '>' :: rest) :: r.codes, [], [], 1⟩ := by
    have other : letter ≠ '>' := by
      rintro rfl
      exact absurd code (by decide)
    rw [step_enter ready other, enter, opening?_single code follows]
    rfl
  have skipped : (⟨r.opened letter (content ++ '>' :: rest) :: r.codes, [], [], 1⟩ : Reader).step
      '<' (content ++ '>' :: rest) =
        ⟨r.opened letter (content ++ '>' :: rest) :: r.codes, [], [], 0⟩ := rfl
  have raw : (content ++ '>' :: rest).take
      ((content ++ '>' :: rest).length - ('>' :: rest).length) = content := by
    rw [List.length_append, Nat.add_sub_cancel, List.take_left]
  have closed : (r.opened letter (content ++ '>' :: rest)).close (flush nodes text) ('>' :: rest) =
      node :: flush r.nodes r.text := by
    simp only [OpenCode.close, opened, raw, made]
  rw [spelled_append, run, entered, run, skipped, inner, run, ← closed]
  rfl

theorem run_plainCode {r : Reader} (ready : r.Ready) {letter : Char}
    (code : isCodeLetter letter = true) {content : Text} (plain : Html.Plain content)
    {node : Inline} (made : ∀ nodes, ofCode? letter nodes content = some node) (rest : Text) :
    r.run (spelled letter content ++ rest) =
      (⟨r.codes, node :: flush r.nodes r.text, [], 0⟩ : Reader).run rest := by
  have closing : Follows ('>' :: rest) := by simp [Follows]
  have inside : (⟨r.opened letter (content ++ '>' :: rest) :: r.codes, [], [], 0⟩ : Reader).Ready :=
    ⟨rfl, by simp [opened]⟩
  exact run_code ready code (follows_plain plain closing) (run_text inside plain closing) (made _)

end Reader

theorem ofCode?_letter (style : Style) (content : List Inline) (raw : Text) :
    isCodeLetter style.letter = true ∧
      ofCode? style.letter content raw = some (.styled style content) := by
  cases style <;> exact ⟨by decide, rfl⟩

namespace Reader

def Reads (nodes : List Inline) : Prop :=
  ∀ {r : Reader}, r.Ready → (r.text = [] ∨ startsWithText nodes = false) →
    ∀ {rest : Text}, Follows rest →
      ∃ read text, r.run (print nodes ++ rest) = (⟨r.codes, read, text, 0⟩ : Reader).run rest ∧
        flush read text = nodes.reverse ++ flush r.nodes r.text

theorem reads_nil : Reads [] := by
  intro r ready _ rest _
  refine ⟨r.nodes, r.text, ?_, by simp⟩
  rw [print, List.nil_append, ← ready.rested]

theorem reads_text {t : Text} {later : List Inline} (some : t ≠ []) (plain : Html.Plain t)
    (apart : startsWithText later = false) (canonical : Canonical later) (reads : Reads later) :
    Reads (.text t :: later) := by
  intro r ready start rest follows
  -- text that the reader held already would run into this one
  have empty : r.text = [] := by simpa [startsWithText] using start
  have first := run_text ready plain (follows_print canonical follows)
  rw [empty, List.append_nil] at first
  have next : (⟨r.codes, r.nodes, t.reverse, r.skip⟩ : Reader).Ready := ⟨ready.rested, ready.single⟩
  obtain ⟨read, text, run, done⟩ := reads next (Or.inr apart) follows
  refine ⟨read, text, ?_, ?_⟩
  · rw [print, printNode, List.append_assoc, first, run]
  · rw [done]
    simp [flush, some, empty]

theorem reads_code {node : Inline} {later : List Inline} (reads : Reads later)
    (first : ∀ {r : Reader}, r.Ready → ∀ rest : Text,
      r.run (printNode node ++ rest) =
        (⟨r.codes, node :: flush r.nodes r.text, [], 0⟩ : Reader).run rest) :
    Reads (node :: later) := by
  intro r ready _ rest follows
  have next : (⟨r.codes, node :: flush r.nodes r.text, [], 0⟩ : Reader).Ready :=
    ⟨rfl, ready.single⟩
  -- after a code the reader holds no text, so the nodes that follow may start with one
  obtain ⟨read, text, run, done⟩ := reads next (Or.inl rfl) follows
  refine ⟨read, text, ?_, ?_⟩
  · rw [print, List.append_assoc, first ready, run]
  · rw [done]
    simp [flush]

theorem run_nested {content : List Inline} (canonical : Canonical content) (reads : Reads content)
    {letter : Char} (code : isCodeLetter letter = true) {node : Inline}
    (made : ofCode? letter content (print content) = some node) {r : Reader} (ready : r.Ready)
    (rest : Text) :
    r.run (spelled letter (print content) ++ rest) =
      (⟨r.codes, node :: flush r.nodes r.text, [], 0⟩ : Reader).run rest := by
  have closing : Follows ('>' :: rest) := by simp [Follows]
  have inside : (⟨r.opened letter (print content ++ '>' :: rest) :: r.codes, [], [], 0⟩ :
      Reader).Ready := ⟨rfl, by simp [opened]⟩
  obtain ⟨read, text, run, done⟩ := reads inside (Or.inl rfl) closing
  have all : (flush read text).reverse = content := by
    rw [done]
    simp [flush]
  exact run_code ready code (follows_print canonical closing) run (all ▸ made)

theorem reads_print {nodes : List Inline} (canonical : Canonical nodes) : Reads nodes := by
  induction canonical with
  | nil => exact reads_nil
  | text some plain apart canonical reads => exact reads_text some plain apart canonical reads
  | @styled style content later inner _ readsInner reads =>
    refine reads_code reads ?_
    intro r ready rest
    obtain ⟨code, made⟩ := ofCode?_letter style content (print content)
    exact run_nested inner readsInner code made ready rest
  | @character c later _ reads =>
    refine reads_code reads ?_
    intro r ready rest
    have made : ∀ nodes, ofCode? 'E' nodes (Text.decimal c.toNat) = some (.character [c]) := by
      intro nodes
      have letters : (Text.decimal c.toNat).all Text.isAsciiAlphanumeric = true := by
        rw [List.all_eq_true]
        intro d member
        have digit := List.all_eq_true.mp (Text.decimal_asciiDigits c.toNat) d member
        rw [Text.isAsciiAlphanumeric, digit, Bool.or_true]
      rw [ofCode?, Text.trim_alphanumeric letters, ofCharacterCode_decimal]
    have run := run_plainCode ready (by decide) (Html.decimal_plain c.toNat) made rest
    simpa [printNode] using run
  | @entity name later named _ reads =>
    refine reads_code reads ?_
    intro r ready rest
    obtain ⟨_, _, letters, _⟩ := ofCharacterCode_entity named
    have made : ∀ nodes, ofCode? 'E' nodes name = some (.entity name) := by
      intro nodes
      rw [ofCode?, Text.trim_alphanumeric letters, named]
    exact run_plainCode ready (by decide) (alphanumeric_plain letters) made rest
  | @link content later inner front back _ readsInner reads =>
    refine reads_code reads ?_
    intro r ready rest
    have made : ofCode? 'L' content (print content) = some (.link (print content)) := by
      rw [ofCode?, Text.trim_eq_self front back]
    exact run_nested inner readsInner (by decide) made ready rest

end Reader

/-- Reading undoes printing. -/
theorem parse_print {nodes : List Inline} (canonical : Canonical nodes) :
    parse (print nodes) = nodes := by
  have start : Reader.initial.Ready := ⟨rfl, by simp [Reader.initial]⟩
  have ending : Follows [] := by simp [Follows]
  obtain ⟨read, text, run, done⟩ := Reader.reads_print canonical start (Or.inl rfl) ending
  rw [List.append_nil] at run
  rw [parse, run, Reader.run, Reader.finish, Reader.initial, Reader.closeAll, done]
  simp [Reader.initial, flush]

def sampleNodes : List Inline :=
  [.text "See B ".toList,
    .styled .bold [.text "E".toList, .styled .code [], .character ['<'], .text "L".toList],
    .link (print [.styled .italic [.text "at".toList], .text "|Foo::Bar/".toList,
      .entity "eacute".toList]),
    .styled .unbroken [.styled .file [.text " x ".toList]], .character ['0'], .text "!".toList]

theorem sampleNodes_canonical : Canonical sampleNodes := by
  have label : Canonical [.styled .italic [.text "at".toList], .text "|Foo::Bar/".toList,
      .entity "eacute".toList] :=
    .styled (.text (by decide) (by decide) rfl .nil)
      (.text (by decide) (by decide) rfl (.entity rfl .nil))
  have bold : Canonical [.text "E".toList, .styled .code [], .character ['<'],
      .text "L".toList] :=
    .text (by decide) (by decide) rfl
      (.styled .nil (.character (.text (by decide) (by decide) rfl .nil)))
  have spaced : Canonical [.styled .file [.text " x ".toList]] :=
    .styled (.text (by decide) (by decide) rfl .nil) .nil
  have first : ∀ c ∈ some 'I', Text.isBlank c = false := by simp [Text.isBlank]
  have last : ∀ c ∈ some '>', Text.isBlank c = false := by simp [Text.isBlank]
  refine .text (by decide) (by decide) rfl (.styled bold (.link label first last ?_))
  exact .styled spaced (.character (.text (by decide) (by decide) rfl .nil))

theorem parse_print_sample :
    print sampleNodes =
        "See B B<EC<>E<60>L>L<I<at>|Foo::Bar/E<eacute>>S<F< x >>E<48>!".toList ∧
      parse (print sampleNodes) = sampleNodes :=
  ⟨by decide, parse_print sampleNodes_canonical⟩

end Inline
end PodSite
