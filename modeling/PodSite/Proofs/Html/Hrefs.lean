import PodSite.Proofs.Html.Tags

/-!
Where the links of a written page lead, read back from its text. In a tree whose text is escaped
they are the values of the `href` attributes, in document order.
-/
namespace PodSite

namespace Text

theorem dropPrefix?_eq_none {front t : Text} {c : Char} (inFront : c ∈ front) (missing : c ∉ t) :
    dropPrefix? front t = none := by
  fun_induction dropPrefix? front t with
  | case1 => simp at inFront
  | case2 => rfl
  | case3 a front t ih =>
    simp only [List.mem_cons, not_or] at inFront missing
    exact ih (inFront.resolve_left missing.1) missing.2
  | case4 => rfl

theorem splitAtFirst?_eq_none {mark t : Text} {c : Char} (inMark : c ∈ mark) (missing : c ∉ t) :
    splitAtFirst? mark t = none := by
  induction t with
  | nil => rw [splitAtFirst?, dropPrefix?_eq_none inMark missing, Option.map_none]
  | cons d rest ih =>
    rw [splitAtFirst?, dropPrefix?_eq_none inMark missing]
    dsimp only
    rw [ih fun member => missing (List.mem_cons_of_mem d member), Option.map_none]

end Text

namespace Html

def href? (tag : Text) : Option Text :=
  (Text.splitAtFirst? " href=\"".toList tag).map fun (_, value) => value.takeWhile (· != '"')

/-- Where the links of a written page lead, in their order. -/
def hrefs (page : Text) : List Text := (tags page).filterMap href?

def hrefsIn (nodes : List Html) : List Text := (tagsOfAll nodes).filterMap href?

theorem href?_eq_none {tag : Text} (missing : 'f' ∉ tag) : href? tag = none := by
  rw [href?, Text.splitAtFirst?_eq_none (by decide : 'f' ∈ " href=\"".toList) missing,
    Option.map_none]

theorem href?_anchor {value : Text} (unquoted : '"' ∉ value) :
    href? (Tag.anchor.name ++ writeAttributes [⟨"href".toList, value⟩]) = some value := by
  have written : Tag.anchor.name ++ writeAttributes [⟨"href".toList, value⟩] =
      'a' :: (" href=\"".toList ++ (value ++ ['"'])) := by
    rw [writeAttributes, List.flatMap_singleton, writeAttribute]
    rfl
  have cut : Text.splitAtFirst? " href=\"".toList ('a' :: (" href=\"".toList ++ (value ++ ['"']))) =
      some (['a'], value ++ ['"']) := by
    simp [Text.splitAtFirst?, Text.dropPrefix?]
  have kept : ∀ c ∈ value, (c != '"') = true := by
    intro c member
    exact bne_iff_ne.mpr fun same => unquoted (same ▸ member)
  rw [href?, written, cut, Option.map_some]
  simp only [List.takeWhile_append_of_pos kept]
  simp

theorem href?_closing (tag : Tag) : href? ('/' :: tag.name) = none := by
  apply href?_eq_none
  cases tag with
  | heading level =>
    have digits := decimal_notMem level (by decide : 'f'.isDigit = false)
    change 'f' ∉ '/' :: 'h' :: Text.decimal level
    simp [digits]
  | _ => decide

theorem hrefsIn_nil : hrefsIn [] = [] := by simp [hrefsIn, tagsOfAll]

theorem hrefsIn_text (t : Text) (rest : List Html) : hrefsIn (text t :: rest) = hrefsIn rest := by
  simp [hrefsIn, tagsOfAll, tagsOf]

theorem hrefsIn_reference (name : Text) (rest : List Html) :
    hrefsIn (reference name :: rest) = hrefsIn rest := by
  simp [hrefsIn, tagsOfAll, tagsOf]

theorem hrefsIn_element (tag : Tag) (attributes : List Attribute) (content rest : List Html) :
    hrefsIn (element tag attributes content :: rest) =
      (href? (tag.name ++ writeAttributes attributes)).toList ++ hrefsIn content ++
        hrefsIn rest := by
  rw [hrefsIn, tagsOfAll, tagsOf, List.cons_append, List.filterMap_cons]
  cases opening : href? (tag.name ++ writeAttributes attributes) with
  | none => simp [hrefsIn, href?_closing]
  | some value => simp [hrefsIn, href?_closing]

theorem hrefsIn_other {tag : Tag} {attributes : List Attribute}
    (missing : 'f' ∉ tag.name ++ writeAttributes attributes) (content rest : List Html) :
    hrefsIn (element tag attributes content :: rest) = hrefsIn content ++ hrefsIn rest := by
  rw [hrefsIn_element, href?_eq_none missing, Option.toList_none, List.nil_append]

theorem hrefs_writeNode {node : Html} (clean : Clean node) :
    hrefs (writeNode node) = hrefsIn [node] := by
  have read := tags_writeNode node clean []
  rw [List.append_nil] at read
  rw [hrefs, read, tags, tagsFrom, List.append_nil, hrefsIn, tagsOfAll, tagsOfAll, List.append_nil]

/-- The links of a written tree lead where those of the tree do. -/
theorem hrefs_write {nodes : List Html} (clean : CleanAll nodes) :
    hrefs (write nodes) = hrefsIn nodes := by
  have read := tags_write nodes clean []
  rw [List.append_nil] at read
  rw [hrefs, read, tags, tagsFrom, List.append_nil, hrefsIn]

theorem escape_unquoted (t : Text) : '"' ∉ escape t :=
  fun member => (escape_quoted t _ member).2.2.1 rfl

mutual
def hrefsOf : Html → List Text
  | element _ attributes content =>
    (attributes.filter (·.name = "href".toList)).map (·.value) ++ hrefsOfAll content
  -- what a source has written as it is may hold links, but none that was made for the page
  | _ => []
def hrefsOfAll : List Html → List Text
  | [] => []
  | node :: rest => hrefsOf node ++ hrefsOfAll rest
end

@[simp] theorem hrefsOfAll_nil : hrefsOfAll [] = [] := by rw [hrefsOfAll]

@[simp] theorem hrefsOfAll_cons (node : Html) (rest : List Html) :
    hrefsOfAll (node :: rest) = hrefsOf node ++ hrefsOfAll rest := by rw [hrefsOfAll]

@[simp] theorem hrefsOfAll_append (a b : List Html) :
    hrefsOfAll (a ++ b) = hrefsOfAll a ++ hrefsOfAll b := by
  induction a with
  | nil => simp
  | cons node a ih => simp [ih]

@[simp] theorem hrefsOf_text (t : Text) : hrefsOf (text t) = [] := by simp [hrefsOf]

@[simp] theorem hrefsOf_newline : hrefsOf newline = [] := hrefsOf_text _

@[simp] theorem hrefsOf_reference (name : Text) : hrefsOf (reference name) = [] := by
  simp [hrefsOf]

@[simp] theorem hrefsOf_raw (t : Text) : hrefsOf (raw t) = [] := by simp [hrefsOf]

@[simp] theorem hrefsOf_plain (tag : Tag) (content : List Html) :
    hrefsOf (plain tag content) = hrefsOfAll content := by
  simp [plain, hrefsOf]

def HrefsAll (may : Text → Prop) (nodes : List Html) : Prop := ∀ value ∈ hrefsOfAll nodes, may value

section Allowed
variable {may : Text → Prop}

theorem hrefsAll_nil : HrefsAll may [] := by
  intro value member
  simp at member

theorem hrefsAll_append {a b : List Html} (first : HrefsAll may a) (later : HrefsAll may b) :
    HrefsAll may (a ++ b) := by
  intro value member
  rw [hrefsOfAll_append] at member
  exact (List.mem_append.mp member).elim (first value) (later value)

theorem hrefsAll_single {node : Html} {content : List Html}
    (same : hrefsOf node = hrefsOfAll content) (inner : HrefsAll may content) :
    HrefsAll may [node] := by
  intro value member
  rw [hrefsOfAll_cons, same, hrefsOfAll_nil, List.append_nil] at member
  exact inner value member

theorem hrefsAll_of_eq_nil {nodes : List Html} (linkless : hrefsOfAll nodes = []) :
    HrefsAll may nodes := by
  intro value member
  rw [linkless] at member
  exact absurd member List.not_mem_nil

end Allowed

end Html
end PodSite
