import PodSite.Proofs.Html.Visible
import PodSite.Proofs.Text.Cut

/-!
A page as a reader sees it, symbol by symbol. A named reference is one symbol, which differs from
the characters that spell it. So a reference that is escaped once too often can be told from one
that is not.
-/
namespace PodSite.Html

inductive Symbol where
  | char (c : Char)
  | named (name : Text)
deriving DecidableEq, Repr

namespace Symbol

/-- A character as it is seen: a space that does not break a line looks like any other. -/
def ofChar (c : Char) : Symbol := char (if c = '\u00A0' then ' ' else c)

def ofName? (name : Text) : Option Symbol :=
  match specials.find? fun special => special.2 = name with
  | some special => some (ofChar special.1)
  | none =>
    if name = "nbsp".toList then some (ofChar '\u00A0')
    else if !name.isEmpty && name.all Text.isAsciiAlphanumeric then some (named name)
    else none

def spelled : Symbol → List Symbol
  | char c => [char c]
  | named name => ('&' :: name ++ [';']).map ofChar

end Symbol

def reference? (t : Text) : Option (Symbol × Nat) :=
  match Text.splitOnce? (· == ';') t with
  | some (name, _) => (Symbol.ofName? name).map fun symbol => (symbol, name.length + 1)
  | none => none

/-- The symbols of a text without tags, after `skip` characters of a reference that was read. An
ampersand without a reference is a character. -/
def symbolsFrom : (skip : Nat) → Text → List Symbol
  | _, [] => []
  | skip + 1, _ :: rest => symbolsFrom skip rest
  | 0, c :: rest =>
    if c = '&' then
      match reference? rest with
      | some (symbol, width) => symbol :: symbolsFrom width rest
      | none => .char '&' :: symbolsFrom 0 rest
    else .ofChar c :: symbolsFrom 0 rest

def symbols (t : Text) : List Symbol := symbolsFrom 0 t

def displayed (t : Text) : List Symbol := symbols (withoutTags t)

theorem symbolsFrom_skip (t rest : Text) : symbolsFrom t.length (t ++ rest) = symbols rest := by
  induction t with
  | nil => rfl
  | cons c t ih => exact ih

theorem symbols_cons {c : Char} (other : c ≠ '&') (rest : Text) :
    symbols (c :: rest) = .ofChar c :: symbols rest := by
  rw [symbols, symbolsFrom, if_neg other]
  rfl

theorem symbols_reference {name : Text} {symbol : Symbol} (ends : ';' ∉ name)
    (known : Symbol.ofName? name = some symbol) (rest : Text) :
    symbols ('&' :: name ++ ';' :: rest) = symbol :: symbols rest := by
  have before : ∀ d ∈ name, (d == ';') = false := by
    intro d member
    rw [beq_eq_false_iff_ne]
    rintro rfl
    exact ends member
  have read : reference? (name ++ ';' :: rest) = some (symbol, name.length + 1) := by
    rw [reference?, Text.splitOnce?_first rest before (by simp)]
    simp only [known, Option.map_some]
  have skipped := symbolsFrom_skip (name ++ [';']) rest
  rw [List.length_append, List.length_singleton, List.append_assoc, List.singleton_append]
    at skipped
  rw [List.cons_append, symbols, symbolsFrom, if_pos rfl, read]
  exact congrArg (symbol :: ·) skipped

theorem symbols_escape (t rest : Text) :
    symbols (escape t ++ rest) = t.map .ofChar ++ symbols rest := by
  have known : ∀ special ∈ specials, ';' ∉ special.2 ∧
      Symbol.ofName? special.2 = some (.ofChar special.1) := by decide
  induction t with
  | nil => rfl
  | cons c t ih =>
    rw [escape, List.flatMap_cons, List.append_assoc]
    change symbols (escapeChar c ++ (escape t ++ rest)) = _
    rcases escapeChar_cases c with ⟨name, special, written⟩ | ⟨ordinary, written⟩
    · obtain ⟨ends, read⟩ := known _ special
      rw [written, List.append_assoc, List.singleton_append, symbols_reference ends read, ih]
      rfl
    · rw [written, List.singleton_append, symbols_cons ordinary.1, ih]
      rfl

mutual
/-- What is written of a tree outside of its tags. -/
def untagged : Html → Text
  | text t => escape t
  | reference name => '&' :: name ++ [';']
  | element _ _ content => untaggedAll content
  | image _ => []
  | raw t => t
def untaggedAll : List Html → Text
  | [] => []
  | node :: rest => untagged node ++ untaggedAll rest
end

mutual
theorem withoutTags_writeNode : (node : Html) → Clean node → (rest : Text) →
    withoutTags (writeNode node ++ rest) = untagged node ++ withoutTags rest
  | text t, _, rest => withoutTags_plain (escape_plain t).1 rest
  | reference name, clean, rest => by
    have plain : '<' ∉ writeNode (reference name) := by
      simp [writeNode, clean.1]
    exact withoutTags_plain plain rest
  | element tag attributes content, clean, rest => by
    have split : writeNode (element tag attributes content) ++ rest =
        '<' :: (tag.name ++ writeAttributes attributes) ++ '>' ::
          (write content ++ ('<' :: ('/' :: tag.name) ++ '>' :: rest)) := by
      simp [writeNode]
    rw [split, withoutTags_tag (opening_plain clean.1 tag), withoutTags_write content clean.2,
      withoutTags_tag (closing_plain tag), untagged]
  | image attributes, clean, rest => by
    have opening : '>' ∉ "img".toList ++ writeAttributes attributes :=
      (plain_append.mpr ⟨by decide, writeAttributes_plain clean⟩).2
    have split : writeNode (image attributes) ++ rest =
        '<' :: ("img".toList ++ writeAttributes attributes) ++ '>' :: rest := by
      simp [writeNode]
    rw [split, withoutTags_tag opening, untagged, List.nil_append]
theorem withoutTags_write : (nodes : List Html) → CleanAll nodes → (rest : Text) →
    withoutTags (write nodes ++ rest) = untaggedAll nodes ++ withoutTags rest
  | [], _, rest => rfl
  | node :: nodes, clean, rest => by
    rw [write, List.append_assoc, withoutTags_writeNode node clean.1,
      withoutTags_write nodes clean.2, untaggedAll, List.append_assoc]
end

mutual
def symbolsOf : Html → List Symbol
  | text t => t.map .ofChar
  | reference name => (Symbol.ofName? name).toList
  | element _ _ content => symbolsOfAll content
  | image _ => []
  | raw t => symbols t
def symbolsOfAll : List Html → List Symbol
  | [] => []
  | node :: rest => symbolsOf node ++ symbolsOfAll rest
end

/-- The references of a node are read as such, whatever stands after it. -/
def Legible (node : Html) : Prop :=
  ∀ rest, symbols (untagged node ++ rest) = symbolsOf node ++ symbols rest

theorem legible_text (t : Text) : Legible (text t) := symbols_escape t

theorem legible_reference {name : Text} {symbol : Symbol} (ends : ';' ∉ name)
    (known : Symbol.ofName? name = some symbol) : Legible (reference name) := by
  intro rest
  rw [untagged, List.append_assoc, List.singleton_append, symbols_reference ends known, symbolsOf,
    known]
  rfl

theorem symbols_untaggedAll {nodes : List Html} (each : ∀ node ∈ nodes, Legible node)
    (rest : Text) :
    symbols (untaggedAll nodes ++ rest) = symbolsOfAll nodes ++ symbols rest := by
  induction nodes with
  | nil => rfl
  | cons node nodes ih =>
    have later := ih fun other member => each other (List.mem_cons_of_mem _ member)
    rw [untaggedAll, symbolsOfAll, List.append_assoc, List.append_assoc,
      each node List.mem_cons_self, later]

theorem legible_element {tag : Tag} {attributes : List Attribute} {content : List Html}
    (each : ∀ node ∈ content, Legible node) : Legible (element tag attributes content) :=
  symbols_untaggedAll each

theorem displayed_write {nodes : List Html} (clean : CleanAll nodes)
    (each : ∀ node ∈ nodes, Legible node) : displayed (write nodes) = symbolsOfAll nodes := by
  have text := withoutTags_write nodes clean []
  have read := symbols_untaggedAll each []
  rw [List.append_nil] at text
  rw [displayed, text]
  exact read.trans (List.append_nil _)

theorem spelled_chars (t : Text) :
    (t.map Symbol.ofChar).flatMap Symbol.spelled = t.map .ofChar := by
  induction t with
  | nil => rfl
  | cons c t ih => rw [List.map_cons, List.flatMap_cons, ih]; rfl

/-- Spelling out changes what is seen just if a named reference is seen. -/
theorem spelled_eq_self_iff {seen : List Symbol} :
    seen.flatMap Symbol.spelled = seen ↔ ∀ name, .named name ∉ seen := by
  induction seen with
  | nil => simp
  | cons symbol seen ih =>
    rw [List.flatMap_cons]
    cases symbol with
    | char c => simp [Symbol.spelled, ih]
    | named name =>
      constructor
      · intro same
        cases (List.cons.inj same).1
      · intro none
        exact absurd List.mem_cons_self (none name)

end PodSite.Html
