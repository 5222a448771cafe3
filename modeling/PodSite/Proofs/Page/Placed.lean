import PodSite.Page.Body
import PodSite.Page.Contents
import PodSite.Proofs.Html.Tags
import PodSite.Proofs.Outline.Anchors

/-!
What stands in a page. Every heading and every term of an outline is a part of the body, with its
anchor, and every heading has its link among the contents.
-/
namespace PodSite

namespace Html

mutual
def parts : Html → List Html
  | element tag attributes content => element tag attributes content :: partsAll content
  | text t => [text t]
  | reference name => [reference name]
  | image attributes => [image attributes]
  | raw t => [raw t]
def partsAll : List Html → List Html
  | [] => []
  | node :: rest => parts node ++ partsAll rest
end

theorem partsAll_append (a b : List Html) : partsAll (a ++ b) = partsAll a ++ partsAll b := by
  induction a with
  | nil => simp [partsAll]
  | cons node a ih => simp [partsAll, ih]

theorem mem_partsAll_append {part : Html} {a b : List Html} :
    part ∈ partsAll (a ++ b) ↔ part ∈ partsAll a ∨ part ∈ partsAll b := by
  rw [partsAll_append, List.mem_append]

theorem mem_partsAll_cons {part node : Html} {rest : List Html} :
    part ∈ partsAll (node :: rest) ↔ part ∈ parts node ∨ part ∈ partsAll rest := by
  rw [partsAll, List.mem_append]

theorem mem_parts_element {part : Html} {tag : Tag} {attributes : List Attribute}
    {content : List Html} :
    part ∈ parts (element tag attributes content) ↔
      part = element tag attributes content ∨ part ∈ partsAll content := by
  rw [parts, List.mem_cons]

theorem write_single (node : Html) : write [node] = writeNode node := by
  rw [write, write, List.append_nil]

theorem infix_element (tag : Tag) (attributes : List Attribute) (content : List Html) :
    write content <:+: writeNode (element tag attributes content) := by
  refine ⟨'<' :: tag.name ++ writeAttributes attributes ++ ['>'],
    ['<', '/'] ++ tag.name ++ ['>'], ?_⟩
  rw [writeNode]
  simp

theorem infix_same {part node : Html} (same : part = node) :
    writeNode part <:+: writeNode node := by
  subst same
  exact List.infix_refl _

mutual
theorem infix_writeNode {part : Html} : (node : Html) → part ∈ parts node →
    writeNode part <:+: writeNode node
  | text t, member => infix_same (List.mem_singleton.mp member)
  | reference name, member => infix_same (List.mem_singleton.mp member)
  | image attributes, member => infix_same (List.mem_singleton.mp member)
  | raw t, member => infix_same (List.mem_singleton.mp member)
  | element tag attributes content, member => by
    rcases mem_parts_element.mp member with whole | inside
    · exact infix_same whole
    · exact (infix_write content inside).trans (infix_element tag attributes content)
theorem infix_write {part : Html} : (nodes : List Html) → part ∈ partsAll nodes →
    writeNode part <:+: write nodes
  | node :: rest, member => by
    rw [write]
    rcases mem_partsAll_cons.mp member with here | there
    · exact (infix_writeNode node here).trans (List.prefix_append _ _).isInfix
    · exact (infix_write rest there).trans (List.suffix_append _ _).isInfix
end

end Html

namespace Page
open Html (partsAll mem_partsAll_append mem_partsAll_cons mem_parts_element)

section Body
variable (s : Inline.Setting) (assets : Text)

def headingHtml (h : Heading) : Html :=
  .element (.heading (max 1 (min h.level 6))) (anchorAttributes h.anchor)
    (Inline.html s h.title ++ [topLink assets])

theorem headingsHtml_cons (h : Heading) (rest : List Heading) :
    headingsHtml s assets (h :: rest) =
      headingHtml s assets h :: .newline ::
        (blocksHtml s h.blocks ++ headingsHtml s assets h.children ++
          headingsHtml s assets rest) := by
  obtain ⟨level, anchor, title, blocks, children⟩ := h
  rw [headingsHtml]
  rfl

theorem heading_placed : (headings : List Heading) → ∀ h ∈ Heading.flattened headings,
    headingHtml s assets h ∈ partsAll (headingsHtml s assets headings)
  | [], h, member => by simp [Heading.flattened] at member
  | ⟨level, anchor, title, blocks, children⟩ :: rest, h, member => by
    have below := heading_placed children h
    have later := heading_placed rest h
    rw [headingsHtml_cons]
    simp only [mem_partsAll_cons, mem_partsAll_append]
    rw [Heading.flattened, List.mem_cons, List.mem_append] at member
    rcases member with rfl | inside | after
    · exact .inl (mem_parts_element.mpr (.inl rfl))
    · exact .inr (.inr (.inl (.inr (below inside))))
    · exact .inr (.inr (.inr (later after)))

/-- The content holds an element with the given anchor. -/
def Anchored (anchor : Text) (nodes : List Html) : Prop :=
  ∃ tag content, .element tag (anchorAttributes anchor) content ∈ partsAll nodes

variable {s assets} {anchor : Text}

theorem anchored_append {a b : List Html} (either : Anchored anchor a ∨ Anchored anchor b) :
    Anchored anchor (a ++ b) := by
  rcases either with ⟨tag, content, member⟩ | ⟨tag, content, member⟩
  · exact ⟨tag, content, mem_partsAll_append.mpr (.inl member)⟩
  · exact ⟨tag, content, mem_partsAll_append.mpr (.inr member)⟩

theorem anchored_inside {tag : Tag} {attributes : List Attribute} {content rest : List Html}
    (inner : Anchored anchor content) :
    Anchored anchor (.element tag attributes content :: rest) := by
  obtain ⟨other, within, member⟩ := inner
  exact ⟨other, within, mem_partsAll_cons.mpr (.inl (mem_parts_element.mpr (.inr member)))⟩

theorem anchored_after {node : Html} {rest : List Html} (later : Anchored anchor rest) :
    Anchored anchor (node :: rest) :=
  anchored_append (a := [node]) (.inr later)

mutual
theorem blockHtml_anchored : (b : Block) → ∀ term ∈ blockTerms b, Anchored term.2 (blockHtml s b)
  | .paragraph t, term, member => by simp [blockTerms] at member
  | .verbatim t, term, member => by simp [blockTerms] at member
  | .html t, term, member => by simp [blockTerms] at member
  | .list ordered items, term, member => by
    rw [blockTerms] at member
    rw [blockHtml]
    exact anchored_inside (anchored_after (itemsHtml_anchored items term member))
  | .definitions entries, term, member => by
    rw [blockTerms] at member
    rw [blockHtml]
    exact anchored_inside (anchored_after (entriesHtml_anchored entries term member))
theorem blocksHtml_anchored : (blocks : List Block) → ∀ term ∈ blocksTerms blocks,
    Anchored term.2 (blocksHtml s blocks)
  | [], term, member => by simp [blocksTerms] at member
  | b :: rest, term, member => by
    rw [blocksTerms, List.mem_append] at member
    rw [blocksHtml]
    exact anchored_append (member.imp (blockHtml_anchored b term) (blocksHtml_anchored rest term))
theorem itemsHtml_anchored : (items : List (List Block)) → ∀ term ∈ itemsTerms items,
    Anchored term.2 (itemsHtml s items)
  | [], term, member => by simp [itemsTerms] at member
  | item :: rest, term, member => by
    rw [itemsTerms, List.mem_append] at member
    rw [itemsHtml]
    rcases member with here | there
    · have shown := blocksHtml_anchored item term here
      apply anchored_inside
      split
      · -- a paragraph on its own has no terms
        rename_i t alone
        unfold lone? at alone
        split at alone
        · simp [blocksTerms, blockTerms] at here
        · cases alone
      · exact shown
    · exact anchored_after (anchored_after (itemsHtml_anchored rest term there))
theorem entriesHtml_anchored : (entries : List (Text × Text × List Block)) →
    ∀ term ∈ entriesTerms entries, Anchored term.2 (entriesHtml s entries)
  | [], term, member => by simp [entriesTerms] at member
  | (title, anchor, blocks) :: rest, term, member => by
    rw [entriesTerms, List.mem_cons, List.mem_append] at member
    rw [entriesHtml]
    rcases member with rfl | inside | after
    · exact ⟨.term, _, mem_partsAll_cons.mpr (.inl (mem_parts_element.mpr (.inl rfl)))⟩
    · have shown := blocksHtml_anchored blocks term inside
      exact anchored_after (anchored_after (anchored_inside shown))
    · have shown := entriesHtml_anchored rest term after
      exact anchored_after (anchored_after (anchored_after (anchored_after shown)))
end

theorem headingsHtml_anchored : (headings : List Heading) →
    ∀ a ∈ (Heading.flattened headings).flatMap Heading.ownAnchors,
      Anchored a (headingsHtml s assets headings)
  | [], a, member => by simp [Heading.flattened] at member
  | ⟨level, anchor, title, blocks, children⟩ :: rest, a, member => by
    have below := headingsHtml_anchored children a
    have later := headingsHtml_anchored rest a
    rw [Heading.flattened, List.flatMap_cons, List.flatMap_append, List.mem_append,
      List.mem_append, Heading.ownAnchors, List.mem_cons] at member
    rw [headingsHtml_cons]
    rcases member with (rfl | own) | inside | after
    · exact ⟨_, _, mem_partsAll_cons.mpr (.inl (mem_parts_element.mpr (.inl rfl)))⟩
    · obtain ⟨term, placed, rfl⟩ := List.mem_map.mp own
      have shown := blocksHtml_anchored (s := s) blocks term placed
      exact anchored_after (anchored_after (anchored_append (.inl (anchored_append (.inl shown)))))
    · have shown := anchored_append (a := blocksHtml s blocks) (.inr (below inside))
      exact anchored_after (anchored_after (anchored_append (.inl shown)))
    · exact anchored_after (anchored_after (anchored_append (.inr (later after))))

/-- The body of a page holds every anchor of its outline. -/
theorem bodyHtml_anchored (s : Inline.Setting) (assets : Text) {root : Heading} {a : Text}
    (member : a ∈ root.anchors) : Anchored a (bodyHtml s assets root) := by
  rw [Heading.anchors, List.mem_append] at member
  rw [bodyHtml]
  apply anchored_append
  rcases member with top | below
  · obtain ⟨term, placed, rfl⟩ := List.mem_map.mp top
    exact .inl (blocksHtml_anchored root.blocks term placed)
  · exact .inr (headingsHtml_anchored root.children a below)

end Body

theorem contentsLink_placed : (headings : List Heading) → ∀ h ∈ Heading.flattened headings,
    contentsLink h ∈ partsAll (contentsItems headings)
  | [], h, member => by simp [Heading.flattened] at member
  | ⟨level, anchor, title, blocks, children⟩ :: rest, h, member => by
    have below := contentsLink_placed children h
    have later := contentsLink_placed rest h
    rw [Heading.flattened, List.mem_cons, List.mem_append] at member
    rw [contentsItems, mem_partsAll_cons, mem_parts_element, mem_partsAll_cons]
    rcases member with rfl | inside | after
    · exact .inl (.inr (.inl (mem_parts_element.mpr (.inl rfl))))
    · have nested : children.isEmpty = false := by
        cases children with
        | nil => simp [Heading.flattened] at inside
        | cons first others => rfl
      rw [nested, if_neg Bool.false_ne_true, mem_partsAll_cons, contentsList, mem_parts_element]
      exact .inl (.inr (.inr (.inl (.inr (below inside)))))
    · exact .inr (later after)

theorem contents?_link {root h : Heading} (member : h ∈ root.headings) :
    ∃ t, contents? root = some t ∧ Html.writeNode (contentsLink h) <:+: t := by
  have headed : root.children.isEmpty = false := by
    cases children : root.children with
    | nil => simp [Heading.headings, children, Heading.flattened] at member
    | cons first others => rfl
  rw [contents?, headed, if_neg Bool.false_ne_true]
  refine ⟨_, rfl, Html.infix_writeNode _ ?_⟩
  rw [mem_parts_element, mem_partsAll_cons, mem_partsAll_cons, contentsList, mem_parts_element]
  exact .inr (.inr (.inl (.inr (contentsLink_placed root.children h member))))

theorem body_heading (s : Inline.Setting) (assets : Text) {root h : Heading}
    (member : h ∈ root.headings) :
    Html.writeNode (headingHtml s assets h) <:+: body s assets root := by
  apply Html.infix_write
  rw [bodyHtml, mem_partsAll_append]
  exact .inr (heading_placed s assets root.children h member)

end Page
end PodSite
