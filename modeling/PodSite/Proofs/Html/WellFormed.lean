import PodSite.Proofs.Html.Tags

/-!
A check of written page content. It goes through the text once and keeps the elements that are open:
tags are those of page bodies and close in the order in which they opened, attribute values are
quoted, and elsewhere every special character is written as a reference.
-/
namespace PodSite.Html

def elementNames : List Text :=
  ["h1", "h2", "h3", "h4", "h5", "h6", "p", "pre", "ul", "ol", "li", "dl", "dt", "dd", "strong",
    "em", "code", "a"].map String.toList

def isReferenceName (name : Text) : Bool :=
  name == "#39".toList || (!name.isEmpty && name.all Text.isAsciiAlphanumeric)

/-- Where the check stands. In a tag it keeps the name, with a slash in front if the tag closes an
element. -/
inductive Place where
  | between
  | reference (name : Text)
  | tagName (name : Text)
  | attributeName (tag : Text) (begun : Bool)
  | equals (tag : Text)
  | value (tag : Text)
  | afterValue (tag : Text)
deriving DecidableEq, Repr

structure Check where
  opened : List Text
  place : Place
deriving DecidableEq, Repr

namespace Check

def openTag? (opened : List Text) (name : Text) : Option Check :=
  if name = "img".toList then some ⟨opened, .between⟩
  else if name ∈ elementNames then some ⟨name :: opened, .between⟩
  else none

def closeTag? (opened : List Text) (name : Text) : Option Check :=
  match opened with
  | innermost :: outer => if name = innermost then some ⟨outer, .between⟩ else none
  | [] => none

def step (s : Check) (c : Char) : Option Check :=
  match s.place with
  | .between =>
    if c = '<' then some { s with place := .tagName [] }
    else if c = '&' then some { s with place := .reference [] }
    else if c = '>' ∨ c = '"' ∨ c = '\'' then none
    else some s
  | .reference name =>
    if c = ';' then if isReferenceName name then some { s with place := .between } else none
    else some { s with place := .reference (name ++ [c]) }
  | .tagName name =>
    if c = '>' then
      match name with
      | '/' :: closed => closeTag? s.opened closed
      | name => openTag? s.opened name
    else if c = ' ' then some { s with place := .attributeName name false }
    else some { s with place := .tagName (name ++ [c]) }
  | .attributeName tag begun =>
    if c = '=' then if begun then some { s with place := .equals tag } else none
    else if Text.isAsciiLetter c then some { s with place := .attributeName tag true }
    else none
  | .equals tag => if c = '"' then some { s with place := .value tag } else none
  | .value tag =>
    if c = '"' then some { s with place := .afterValue tag }
    else if c = '<' ∨ c = '>' ∨ c = '\'' then none
    else some s
  | .afterValue tag =>
    if c = ' ' then some { s with place := .attributeName tag false }
    else if c = '>' then openTag? s.opened tag
    else none

def run (s : Check) : Text → Option Check
  | [] => some s
  | c :: rest => (s.step c).bind fun next => next.run rest

theorem run_append (s : Check) (a b : Text) :
    s.run (a ++ b) = (s.run a).bind fun next => next.run b := by
  induction a generalizing s with
  | nil => rfl
  | cons c a ih =>
    rw [List.cons_append, run, run]
    cases s.step c with
    | none => rfl
    | some next => simpa using ih next

theorem run_stay {s : Check} {t : Text} (stays : ∀ c ∈ t, s.step c = some s) :
    s.run t = some s := by
  induction t with
  | nil => rfl
  | cons c t ih =>
    rw [run, stays c (by simp), Option.bind_some]
    exact ih fun d member => stays d (by simp [member])

end Check

/-- A fragment of a page body: all that it opens it closes, and nothing in it is left unescaped. -/
def WellFormed (t : Text) : Prop := (⟨[], .between⟩ : Check).run t = some ⟨[], .between⟩

instance : DecidablePred WellFormed := fun t =>
  inferInstanceAs (Decidable ((⟨[], .between⟩ : Check).run t = some ⟨[], .between⟩))

example : WellFormed "<p>1 &lt; <a href=\"?b&amp;c\">2</a></p>".toList := by decide

example : ∀ t ∈ ["<p>a", "<p><em>a</p></em>", "a > b", "a & b;", "<b>a</b>", "<a href=\"'\">a</a>"],
    ¬ WellFormed t.toList := by decide

def Passes (t : Text) : Prop :=
  ∀ opened, (⟨opened, .between⟩ : Check).run t = some ⟨opened, .between⟩

theorem Passes.wellFormed {t : Text} (passes : Passes t) : WellFormed t := passes []

theorem passes_nil : Passes [] := fun _ => rfl

theorem Passes.append {a b : Text} (first : Passes a) (later : Passes b) : Passes (a ++ b) := by
  intro opened
  rw [Check.run_append, first opened, Option.bind_some, later opened]

section Texts

theorem run_reference (opened : List Text) (front : Text) {name : Text} (inside : ';' ∉ name) :
    (⟨opened, .reference front⟩ : Check).run name = some ⟨opened, .reference (front ++ name)⟩ := by
  induction name generalizing front with
  | nil => simp [Check.run]
  | cons c name ih =>
    simp only [List.mem_cons, not_or] at inside
    have next : (⟨opened, .reference front⟩ : Check).step c =
        some ⟨opened, .reference (front ++ [c])⟩ := by
      simp [Check.step, Ne.symm inside.1]
    rw [Check.run, next, Option.bind_some, ih _ inside.2]
    simp

theorem passes_reference {name : Text} (valid : isReferenceName name = true) :
    Passes ('&' :: name ++ [';']) := by
  intro opened
  have inside : ';' ∉ name := by
    intro member
    rw [isReferenceName, Bool.or_eq_true, Bool.and_eq_true, beq_iff_eq] at valid
    rcases valid with rfl | ⟨_, letters⟩
    · exact absurd member (by decide)
    · exact absurd (List.all_eq_true.mp letters _ member) (by decide)
  have start : (⟨opened, .between⟩ : Check).step '&' = some ⟨opened, .reference []⟩ := rfl
  have stop : (⟨opened, .reference name⟩ : Check).run [';'] = some ⟨opened, .between⟩ := by
    simp [Check.run, Check.step, valid]
  rw [List.cons_append, Check.run, start, Option.bind_some, Check.run_append,
    run_reference opened [] inside, Option.bind_some, List.nil_append, stop]

theorem passes_escapeChar (c : Char) : Passes (escapeChar c) := by
  rcases escapeChar_cases c with ⟨name, special, written⟩ | ⟨ordinary, written⟩
  · have valid : ∀ pair ∈ specials, isReferenceName pair.2 = true := by decide
    rw [written]
    exact passes_reference (valid _ special)
  · rw [written]
    intro opened
    have stays : (⟨opened, .between⟩ : Check).step c = some ⟨opened, .between⟩ := by
      simp [Check.step, ordinary]
    rw [Check.run, stays]
    rfl

theorem passes_escape (t : Text) : Passes (escape t) := by
  induction t with
  | nil => exact passes_nil
  | cons c t ih =>
    rw [escape, List.flatMap_cons]
    exact (passes_escapeChar c).append ih

end Texts

section Tags

def IsAttributeName (name : Text) : Prop := name ≠ [] ∧ name.all Text.isAsciiLetter = true

instance : DecidablePred IsAttributeName := fun name =>
  inferInstanceAs (Decidable (name ≠ [] ∧ name.all Text.isAsciiLetter = true))

/-- An attribute with a name of letters and a value that needs no more escapes. -/
structure Fits (a : Attribute) : Prop where
  named : IsAttributeName a.name
  quoted : Quoted a.value

theorem run_tagName (opened : List Text) (front : Text) {name : Text} (blank : ' ' ∉ name)
    (bracket : '>' ∉ name) :
    (⟨opened, .tagName front⟩ : Check).run name = some ⟨opened, .tagName (front ++ name)⟩ := by
  induction name generalizing front with
  | nil => simp [Check.run]
  | cons c name ih =>
    simp only [List.mem_cons, not_or] at blank bracket
    have next : (⟨opened, .tagName front⟩ : Check).step c =
        some ⟨opened, .tagName (front ++ [c])⟩ := by
      simp [Check.step, Ne.symm blank.1, Ne.symm bracket.1]
    rw [Check.run, next, Option.bind_some, ih _ blank.2 bracket.2]
    simp

theorem run_attribute (opened : List Text) (tag : Text) {a : Attribute} (fits : Fits a) :
    (⟨opened, .attributeName tag false⟩ : Check).run (a.name ++ ['=', '"'] ++ a.value ++ ['"']) =
      some ⟨opened, .afterValue tag⟩ := by
  obtain ⟨named, letters⟩ := fits.named
  have letter : ∀ begun, ∀ c ∈ a.name, (⟨opened, .attributeName tag begun⟩ : Check).step c =
      some ⟨opened, .attributeName tag true⟩ := by
    intro begun c member
    have isLetter := List.all_eq_true.mp letters c member
    have notEquals : c ≠ '=' := by
      rintro rfl
      exact absurd isLetter (by decide)
    simp [Check.step, notEquals, isLetter]
  have name : (⟨opened, .attributeName tag false⟩ : Check).run a.name =
      some ⟨opened, .attributeName tag true⟩ := by
    obtain ⟨c, more, whole⟩ := List.exists_cons_of_ne_nil named
    rw [whole] at letter ⊢
    rw [Check.run, letter false c (by simp), Option.bind_some]
    exact Check.run_stay fun d member => letter true d (by simp [member])
  have equals : (⟨opened, .attributeName tag true⟩ : Check).run ['=', '"'] =
      some ⟨opened, .value tag⟩ := rfl
  have value : (⟨opened, .value tag⟩ : Check).run a.value = some ⟨opened, .value tag⟩ := by
    refine Check.run_stay fun c member => ?_
    obtain ⟨notLess, notGreater, notQuote, notApostrophe⟩ := fits.quoted c member
    simp [Check.step, notLess, notGreater, notQuote, notApostrophe]
  have closing : (⟨opened, .value tag⟩ : Check).run ['"'] = some ⟨opened, .afterValue tag⟩ := rfl
  simp only [Check.run_append, name, equals, value, closing, Option.bind_some]

theorem run_attributes (opened : List Text) {tag : Text} {attributes : List Attribute}
    (fits : ∀ a ∈ attributes, Fits a) {place : Place}
    (blank : (⟨opened, place⟩ : Check).step ' ' = some ⟨opened, .attributeName tag false⟩)
    (bracket : (⟨opened, place⟩ : Check).step '>' = Check.openTag? opened tag) :
    (⟨opened, place⟩ : Check).run (writeAttributes attributes ++ ['>']) =
      Check.openTag? opened tag := by
  induction attributes generalizing place with
  | nil =>
    rw [writeAttributes, List.flatMap_nil, List.nil_append, Check.run, bracket]
    cases Check.openTag? opened tag <;> rfl
  | cons a rest ih =>
    have later : (⟨opened, .afterValue tag⟩ : Check).run (writeAttributes rest ++ ['>']) =
        Check.openTag? opened tag :=
      ih (fun b member => fits b (by simp [member])) rfl rfl
    have first : (⟨opened, place⟩ : Check).run (writeAttribute a) =
        some ⟨opened, .afterValue tag⟩ := by
      rw [writeAttribute, List.cons_append, List.cons_append, List.cons_append, Check.run, blank,
        Option.bind_some, run_attribute opened tag (fits a (by simp))]
    have split : writeAttributes (a :: rest) ++ ['>'] =
        writeAttribute a ++ (writeAttributes rest ++ ['>']) := by
      rw [writeAttributes, List.flatMap_cons, List.append_assoc]
      rfl
    rw [split, Check.run_append, first, Option.bind_some, later]

def IsTagName (name : Text) : Prop := ' ' ∉ name ∧ '>' ∉ name ∧ name.head? ≠ some '/'

theorem run_opening (opened : List Text) {name : Text} (valid : IsTagName name)
    {attributes : List Attribute} (fits : ∀ a ∈ attributes, Fits a) :
    (⟨opened, .between⟩ : Check).run ('<' :: name ++ writeAttributes attributes ++ ['>']) =
      Check.openTag? opened name := by
  obtain ⟨blank, bracket, slash⟩ := valid
  have start : (⟨opened, .between⟩ : Check).step '<' = some ⟨opened, .tagName []⟩ := rfl
  have ending : (⟨opened, .tagName name⟩ : Check).step '>' = Check.openTag? opened name := by
    cases name with
    | nil => rfl
    | cons c name =>
      have other : c ≠ '/' := by simpa using slash
      simp [Check.step, other]
  have tail : (⟨opened, .tagName name⟩ : Check).run (writeAttributes attributes ++ ['>']) =
      Check.openTag? opened name := run_attributes opened fits rfl ending
  rw [List.cons_append, List.cons_append, List.append_assoc, Check.run, start, Option.bind_some,
    Check.run_append, run_tagName opened [] blank bracket, Option.bind_some, List.nil_append, tail]

theorem run_closing (opened : List Text) {name : Text} (valid : IsTagName name) :
    (⟨name :: opened, .between⟩ : Check).run (['<', '/'] ++ name ++ ['>']) =
      some ⟨opened, .between⟩ := by
  have start : (⟨name :: opened, .between⟩ : Check).run ['<', '/'] =
      some ⟨name :: opened, .tagName ['/']⟩ := rfl
  have ending : (⟨name :: opened, .tagName ('/' :: name)⟩ : Check).run ['>'] =
      some ⟨opened, .between⟩ := by
    simp [Check.run, Check.step, Check.closeTag?]
  rw [Check.run_append, Check.run_append, start, Option.bind_some,
    run_tagName _ ['/'] valid.1 valid.2.1, Option.bind_some, List.singleton_append, ending]

theorem element_isTagName {name : Text} (known : name ∈ elementNames) : IsTagName name := by
  have all : ∀ name ∈ elementNames, ' ' ∉ name ∧ '>' ∉ name ∧ name.head? ≠ some '/' := by decide
  exact all name known

theorem passes_element {tag : Tag} (known : tag.name ∈ elementNames) {attributes : List Attribute}
    (fits : ∀ a ∈ attributes, Fits a) {content : List Html} (inner : Passes (write content)) :
    Passes (writeNode (.element tag attributes content)) := by
  intro opened
  have valid := element_isTagName known
  have element : Check.openTag? opened tag.name = some ⟨tag.name :: opened, .between⟩ := by
    have noImage : tag.name ≠ "img".toList := by
      intro same
      exact absurd (same ▸ known) (by decide)
    rw [Check.openTag?, if_neg noImage, if_pos known]
  have opening := run_opening opened valid fits
  rw [element] at opening
  have split : writeNode (.element tag attributes content) =
      ('<' :: tag.name ++ writeAttributes attributes ++ ['>']) ++
        (write content ++ (['<', '/'] ++ tag.name ++ ['>'])) := by
    simp [writeNode]
  rw [split, Check.run_append, opening, Option.bind_some, Check.run_append, inner,
    Option.bind_some, run_closing opened valid]

theorem passes_image {attributes : List Attribute} (fits : ∀ a ∈ attributes, Fits a) :
    Passes (writeNode (.image attributes)) := by
  have valid : IsTagName "img".toList := by
    unfold IsTagName
    decide
  intro opened
  exact run_opening opened valid fits

theorem passes_cons {node : Html} {rest : List Html} (first : Passes (writeNode node))
    (later : Passes (write rest)) : Passes (write (node :: rest)) := by
  rw [write]
  exact first.append later

theorem passes_write {nodes : List Html} (passes : ∀ node ∈ nodes, Passes (writeNode node)) :
    Passes (write nodes) := by
  induction nodes with
  | nil => exact passes_nil
  | cons node rest ih =>
    have later := ih fun other member => passes other (by simp [member])
    exact passes_cons (passes node (by simp)) later

end Tags
end PodSite.Html
