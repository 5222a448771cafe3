import PodSite.Proofs.Html.Tags

/-!
Anchors that stand inside another one. Whether some do can be read from the tags of a written text,
and seen in the tree that was written.
-/
namespace PodSite.Html

def tagName (tag : Text) : Text := tag.takeWhile fun c => !Text.isBlank c && c != '/'

/-- No anchor is opened while another is open, from a place `inside` of one or not. -/
def anchorsApart : (inside : Bool) → List Text → Bool
  | _, [] => true
  | inside, tag :: rest =>
    if tagName tag = ['a'] then !inside && anchorsApart true rest
    else if tag = ['/', 'a'] then anchorsApart false rest
    else anchorsApart inside rest

def hasNoNestedAnchor (t : Text) : Bool := anchorsApart false (tags t)

mutual
/-- No anchor stands inside another one in the tree, which stands inside of one or not. -/
def apart (inside : Bool) : Html → Bool
  | element tag _ content =>
    if tag = .anchor then !inside && apartAll true content else apartAll inside content
  | _ => true
def apartAll (inside : Bool) : List Html → Bool
  | [] => true
  | node :: rest => apart inside node && apartAll inside rest
end

theorem tagName_attributes (name : Text) (attributes : List Attribute)
    (word : ∀ c ∈ name, (!Text.isBlank c && c != '/') = true) :
    tagName (name ++ writeAttributes attributes) = name := by
  unfold tagName
  rw [List.takeWhile_append_of_pos word]
  cases attributes with
  | nil => simp [writeAttributes]
  | cons a rest =>
    have blank : Text.isBlank ' ' = true := by decide
    simp [writeAttributes, writeAttribute, blank]

theorem heading_name (level : Nat) : (Tag.heading level).name = 'h' :: Text.decimal level := rfl

theorem name_letter (tag : Tag) : ∃ c rest, tag.name = c :: rest ∧ c ≠ '/' := by
  cases tag with
  | heading level => exact ⟨'h', _, heading_name level, by decide⟩
  | _ => exact ⟨_, _, rfl, by decide⟩

theorem tagName_opening (tag : Tag) (attributes : List Attribute) :
    tagName (tag.name ++ writeAttributes attributes) = ['a'] ↔ tag = .anchor := by
  cases tag with
  | heading level =>
    have first : (!Text.isBlank 'h' && 'h' != '/') = true := by decide
    rw [tagName, heading_name, List.cons_append, List.takeWhile_cons, if_pos first]
    simp
  | _ => rw [tagName_attributes _ _ (List.all_eq_true.mp (by decide))]; decide

theorem closing_anchor (tag : Tag) : '/' :: tag.name = ['/', 'a'] ↔ tag = .anchor := by
  cases tag with
  | heading level => simp [heading_name]
  | _ => decide

mutual
theorem anchorsApart_node (rest : List Text) : (node : Html) → (inside : Bool) →
    anchorsApart inside (tagsOf node ++ rest) = (apart inside node && anchorsApart inside rest)
  | text _, inside => by simp [tagsOf, apart]
  | reference _, inside => by simp [tagsOf, apart]
  | raw _, inside => by simp [tagsOf, apart]
  | image attributes, inside => by
    have name : tagName ("img".toList ++ writeAttributes attributes) = "img".toList :=
      tagName_attributes _ _ (List.all_eq_true.mp (by decide))
    have other : "img".toList ++ writeAttributes attributes ≠ ['/', 'a'] := by simp
    rw [tagsOf, List.singleton_append, anchorsApart, name, if_neg (by decide), if_neg other, apart]
    · simp
    · intro _ _ _ h
      cases h
  | element tag attributes content, inside => by
    have closing : ∀ within : Bool, anchorsApart within (('/' :: tag.name) :: rest) =
        if tag = .anchor then anchorsApart false rest else anchorsApart within rest := by
      intro within
      have name : tagName ('/' :: tag.name) ≠ ['a'] := by simp [tagName]
      rw [anchorsApart, if_neg name]
      simp only [closing_anchor]
    have whole : tagsOf (element tag attributes content) ++ rest =
        (tag.name ++ writeAttributes attributes) ::
          (tagsOfAll content ++ ('/' :: tag.name) :: rest) := by
      simp [tagsOf]
    rw [whole, anchorsApart, apart]
    simp only [tagName_opening]
    by_cases anchor : tag = .anchor
    · rw [if_pos anchor, if_pos anchor, anchorsApart_all _ content true, closing, if_pos anchor]
      cases inside <;> simp
    · have other : tag.name ++ writeAttributes attributes ≠ ['/', 'a'] := by
        obtain ⟨c, letters, name, letter⟩ := name_letter tag
        simp [name, letter]
      rw [if_neg anchor, if_neg other, if_neg anchor, anchorsApart_all _ content inside, closing,
        if_neg anchor]
theorem anchorsApart_all (rest : List Text) : (nodes : List Html) → (inside : Bool) →
    anchorsApart inside (tagsOfAll nodes ++ rest) =
      (apartAll inside nodes && anchorsApart inside rest)
  | [], inside => by simp [tagsOfAll, apartAll]
  | node :: nodes, inside => by
    rw [tagsOfAll, List.append_assoc, anchorsApart_node _ node inside,
      anchorsApart_all rest nodes inside, apartAll, Bool.and_assoc]
end

/-- Whether anchors nest in a written tree can be seen in the tree. -/
theorem hasNoNestedAnchor_write {nodes : List Html} (clean : CleanAll nodes) :
    hasNoNestedAnchor (write nodes) = apartAll false nodes := by
  have read := tags_write nodes clean []
  have walk := anchorsApart_all [] nodes false
  simp only [List.append_nil, tags, tagsFrom] at read
  simp only [List.append_nil, anchorsApart, Bool.and_true] at walk
  rw [hasNoNestedAnchor, tags, read, walk]

theorem apartAll_append (inside : Bool) (a b : List Html) :
    apartAll inside (a ++ b) = (apartAll inside a && apartAll inside b) := by
  induction a with
  | nil => simp [apartAll]
  | cons node a ih => simp [apartAll, ih, Bool.and_assoc]

mutual
theorem apart_outside : (node : Html) → apart true node = true → apart false node = true
  | element tag attributes content, without => by
    rw [apart] at without ⊢
    split
    · rename_i anchor
      simp [anchor] at without
    · rename_i other
      rw [if_neg other] at without
      exact apartAll_outside without
  | text _, _ => rfl
  | reference _, _ => rfl
  | image _, _ => rfl
  | raw _, _ => rfl
theorem apartAll_outside : {nodes : List Html} → apartAll true nodes = true →
    apartAll false nodes = true
  | [], _ => rfl
  | node :: rest, without => by
    rw [apartAll, Bool.and_eq_true] at without ⊢
    exact ⟨apart_outside node without.1, apartAll_outside without.2⟩
end

end PodSite.Html
