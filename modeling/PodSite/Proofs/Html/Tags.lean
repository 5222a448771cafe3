import PodSite.Html.Basic

/-!
The tags of a written page, read back from its text. Text and attribute values are escaped, so in a
tree without raw parts angle brackets stand around tags only, and the tags of the text are those of
the elements in their order.
-/
namespace PodSite.Html

/-- The tags of a text: what stands between an opening angle bracket and the next closing one.
`tag` is what was read of one. -/
def tagsFrom : (tag : Option Text) → Text → List Text
  | _, [] => []
  | none, c :: rest => tagsFrom (if c = '<' then some [] else none) rest
  | some tag, c :: rest =>
    if c = '>' then tag :: tagsFrom none rest else tagsFrom (some (tag ++ [c])) rest

def tags (t : Text) : List Text := tagsFrom none t

def Plain (t : Text) : Prop := '<' ∉ t ∧ '>' ∉ t

instance : DecidablePred Plain := fun t => inferInstanceAs (Decidable ('<' ∉ t ∧ '>' ∉ t))

theorem plain_append {a b : Text} : Plain (a ++ b) ↔ Plain a ∧ Plain b := by
  unfold Plain
  simp only [List.mem_append, not_or]
  exact ⟨fun ⟨⟨h, i⟩, j, k⟩ => ⟨⟨h, j⟩, i, k⟩, fun ⟨⟨h, j⟩, i, k⟩ => ⟨⟨h, i⟩, j, k⟩⟩

theorem plain_cons {c : Char} {t : Text} : Plain (c :: t) ↔ ('<' ≠ c ∧ '>' ≠ c) ∧ Plain t := by
  unfold Plain
  simp only [List.mem_cons, not_or]
  exact ⟨fun ⟨⟨h, i⟩, j, k⟩ => ⟨⟨h, j⟩, i, k⟩, fun ⟨⟨h, j⟩, i, k⟩ => ⟨⟨h, i⟩, j, k⟩⟩

theorem tags_plain {t : Text} (plain : '<' ∉ t) (rest : Text) : tags (t ++ rest) = tags rest := by
  induction t with
  | nil => rfl
  | cons c t ih =>
    simp only [List.mem_cons, not_or] at plain
    rw [List.cons_append, tags, tagsFrom, if_neg (Ne.symm plain.1)]
    exact ih plain.2

theorem tagsFrom_some {t : Text} (plain : '>' ∉ t) (tag rest : Text) :
    tagsFrom (some tag) (t ++ '>' :: rest) = (tag ++ t) :: tags rest := by
  induction t generalizing tag with
  | nil => simp [tagsFrom, tags]
  | cons c t ih =>
    simp only [List.mem_cons, not_or] at plain
    rw [List.cons_append, tagsFrom, if_neg (Ne.symm plain.1), ih plain.2]
    simp

theorem tags_tag {t : Text} (plain : '>' ∉ t) (rest : Text) :
    tags ('<' :: t ++ '>' :: rest) = t :: tags rest := by
  rw [List.cons_append, tags, tagsFrom, if_pos rfl, tagsFrom_some plain, List.nil_append]

def specials : List (Char × Text) :=
  [('&', "amp".toList), ('<', "lt".toList), ('>', "gt".toList), ('"', "quot".toList),
    ('\'', "#39".toList)]

theorem escapeChar_cases (c : Char) :
    (∃ name, (c, name) ∈ specials ∧ escapeChar c = '&' :: name ++ [';']) ∨
      ((c ≠ '&' ∧ c ≠ '<' ∧ c ≠ '>' ∧ c ≠ '"' ∧ c ≠ '\'') ∧ escapeChar c = [c]) := by
  unfold escapeChar
  split
  · exact Or.inl ⟨"amp".toList, by decide, rfl⟩
  · exact Or.inl ⟨"lt".toList, by decide, rfl⟩
  · exact Or.inl ⟨"gt".toList, by decide, rfl⟩
  · exact Or.inl ⟨"quot".toList, by decide, rfl⟩
  · exact Or.inl ⟨"#39".toList, by decide, rfl⟩
  · rename_i notAmpersand notLess notGreater notQuote notApostrophe
    exact Or.inr ⟨⟨notAmpersand, notLess, notGreater, notQuote, notApostrophe⟩, rfl⟩

def Quoted (t : Text) : Prop := ∀ c ∈ t, c ≠ '<' ∧ c ≠ '>' ∧ c ≠ '"' ∧ c ≠ '\''

instance : DecidablePred Quoted := fun t => List.decidableBAll _ t

theorem escape_quoted (t : Text) : Quoted (escape t) := by
  intro c member
  obtain ⟨d, _, inChar⟩ := List.mem_flatMap.mp member
  rcases escapeChar_cases d with ⟨name, special, written⟩ | ⟨ordinary, written⟩
  · have quoted : ∀ pair ∈ specials, Quoted ('&' :: pair.2 ++ [';']) := by decide
    rw [written] at inChar
    exact quoted _ special c inChar
  · rw [written, List.mem_singleton] at inChar
    simpa [inChar] using ordinary.2

theorem Quoted.plain {t : Text} (quoted : Quoted t) : Plain t :=
  ⟨fun member => (quoted _ member).1 rfl, fun member => (quoted _ member).2.1 rfl⟩

theorem escape_plain (t : Text) : Plain (escape t) := (escape_quoted t).plain

theorem decimal_notMem (n : Nat) {c : Char} (other : c.isDigit = false) : c ∉ Text.decimal n := by
  intro member
  have digit := Nat.isDigit_of_mem_toDigits (by decide) (by decide) member
  rw [other] at digit
  contradiction

theorem decimal_plain (n : Nat) : Plain (Text.decimal n) :=
  ⟨decimal_notMem n (by decide), decimal_notMem n (by decide)⟩

theorem name_plain (tag : Tag) : Plain tag.name := by
  cases tag with
  | heading level => exact plain_cons.mpr ⟨by decide, decimal_plain level⟩
  | _ => decide

def PlainAttributes (attributes : List Attribute) : Prop :=
  ∀ a ∈ attributes, Plain a.name ∧ Plain a.value

instance (attributes : List Attribute) : Decidable (PlainAttributes attributes) :=
  inferInstanceAs (Decidable (∀ a ∈ attributes, Plain a.name ∧ Plain a.value))

theorem plainAttributes_single {name value : Text} (plainName : Plain name)
    (plainValue : Plain value) : PlainAttributes [⟨name, value⟩] := by
  intro a member
  rw [List.mem_singleton.mp member]
  exact ⟨plainName, plainValue⟩

theorem writeAttributes_plain {attributes : List Attribute} (plain : PlainAttributes attributes) :
    Plain (writeAttributes attributes) := by
  induction attributes with
  | nil => decide
  | cons a rest ih =>
    obtain ⟨name, value⟩ := plain a (by simp)
    have later := ih fun b member => plain b (by simp [member])
    have quoted : Plain (writeAttribute a) := by
      rw [writeAttribute, List.cons_append, List.cons_append, List.cons_append, plain_cons,
        plain_append, plain_append, plain_append]
      exact ⟨by decide, ⟨⟨name, by decide⟩, value⟩, by decide⟩
    rw [writeAttributes, List.flatMap_cons]
    exact plain_append.mpr ⟨quoted, later⟩

theorem opening_plain {attributes : List Attribute} (plain : PlainAttributes attributes)
    (tag : Tag) : '>' ∉ tag.name ++ writeAttributes attributes :=
  (plain_append.mpr ⟨name_plain tag, writeAttributes_plain plain⟩).2

theorem closing_plain (tag : Tag) : '>' ∉ '/' :: tag.name := by
  simp only [List.mem_cons, not_or]
  exact ⟨by decide, (name_plain tag).2⟩

mutual
/-- A tree without raw parts, whose references and attributes write no angle bracket. -/
def Clean : Html → Prop
  | text _ => True
  | reference name => Plain name
  | element _ attributes content => PlainAttributes attributes ∧ CleanAll content
  | image attributes => PlainAttributes attributes
  | raw _ => False
def CleanAll : List Html → Prop
  | [] => True
  | node :: rest => Clean node ∧ CleanAll rest
end

mutual
def tagsOf : Html → List Text
  | text _ => []
  | reference _ => []
  | element tag attributes content =>
    (tag.name ++ writeAttributes attributes) :: (tagsOfAll content ++ ['/' :: tag.name])
  | image attributes => ["img".toList ++ writeAttributes attributes]
  | raw _ => []
def tagsOfAll : List Html → List Text
  | [] => []
  | node :: rest => tagsOf node ++ tagsOfAll rest
end

mutual
theorem tags_writeNode : (node : Html) → Clean node → (rest : Text) →
    tags (writeNode node ++ rest) = tagsOf node ++ tags rest
  | text t, _, rest => tags_plain (escape_plain t).1 rest
  | reference name, clean, rest => by
    have plain : Plain (writeNode (reference name)) := by
      rw [writeNode, List.cons_append, plain_cons, plain_append]
      exact ⟨by decide, clean, by decide⟩
    exact tags_plain plain.1 rest
  | element tag attributes content, clean, rest => by
    have split : writeNode (element tag attributes content) ++ rest =
        '<' :: (tag.name ++ writeAttributes attributes) ++ '>' ::
          (write content ++ ('<' :: ('/' :: tag.name) ++ '>' :: rest)) := by
      simp [writeNode]
    rw [split, tags_tag (opening_plain clean.1 tag), tags_write content clean.2,
      tags_tag (closing_plain tag), tagsOf]
    simp
  | image attributes, clean, rest => by
    have opening : '>' ∉ "img".toList ++ writeAttributes attributes :=
      (plain_append.mpr ⟨by decide, writeAttributes_plain clean⟩).2
    have split : writeNode (image attributes) ++ rest =
        '<' :: ("img".toList ++ writeAttributes attributes) ++ '>' :: rest := by
      simp [writeNode]
    rw [split, tags_tag opening, tagsOf, List.singleton_append]
theorem tags_write : (nodes : List Html) → CleanAll nodes → (rest : Text) →
    tags (write nodes ++ rest) = tagsOfAll nodes ++ tags rest
  | [], _, rest => rfl
  | node :: nodes, clean, rest => by
    rw [write, List.append_assoc, tags_writeNode node clean.1, tags_write nodes clean.2, tagsOfAll,
      List.append_assoc]
end

theorem write_append (a b : List Html) : write (a ++ b) = write a ++ write b := by
  induction a with
  | nil => simp [write]
  | cons node a ih => simp [write, ih]

theorem cleanAll_iff {nodes : List Html} : CleanAll nodes ↔ ∀ node ∈ nodes, Clean node := by
  induction nodes with
  | nil => simp [CleanAll]
  | cons node rest ih => simp [CleanAll, ih]

end PodSite.Html
