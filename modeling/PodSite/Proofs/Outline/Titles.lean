import PodSite.Proofs.Numbering
import PodSite.Proofs.Outline.Contents

/-!
What the anchors of an outline are made of. Titles and terms ask for their anchors as they are read,
so in document order the anchors are those that are handed out to their texts one after the other.
Each slug is therefore an anchor of the document, if not always of the title that it was made from.
-/
namespace PodSite

def Content.marked? : Content → Option Text
  | .title _ t => some (Inline.unmarked t)
  | .term t => some (Inline.unmarked t)
  | _ => none

def markedTexts (cs : List Content) : List Text := cs.filterMap Content.marked?

@[simp] theorem markedTexts_nil : markedTexts [] = [] := rfl

@[simp] theorem markedTexts_append (a b : List Content) :
    markedTexts (a ++ b) = markedTexts a ++ markedTexts b := List.filterMap_append

@[simp] theorem markedTexts_title (level : Nat) (t : Text) (cs : List Content) :
    markedTexts (.title level t :: cs) = Inline.unmarked t :: markedTexts cs := rfl

@[simp] theorem markedTexts_term (t : Text) (cs : List Content) :
    markedTexts (.term t :: cs) = Inline.unmarked t :: markedTexts cs := rfl

@[simp] theorem markedTexts_item (ordered : Bool) (cs : List Content) :
    markedTexts (.item ordered :: cs) = markedTexts cs := rfl

mutual
theorem blockTerms_texts : (b : Block) →
    (Page.blockTerms b).map (·.1) = markedTexts (blockContents b)
  | .paragraph t => by rw [Page.blockTerms, blockContents]; rfl
  | .verbatim t => by rw [Page.blockTerms, blockContents]; rfl
  | .html t => by rw [Page.blockTerms, blockContents]; rfl
  | .list ordered items => by
    rw [Page.blockTerms, blockContents, itemsTerms_texts ordered items]
  | .definitions entries => by
    rw [Page.blockTerms, blockContents, entriesTerms_texts entries]
theorem blocksTerms_texts : (blocks : List Block) →
    (Page.blocksTerms blocks).map (·.1) = markedTexts (blocksContents blocks)
  | [] => by rw [Page.blocksTerms, blocksContents, markedTexts_nil, List.map_nil]
  | b :: rest => by
    rw [Page.blocksTerms, blocksContents, List.map_append, markedTexts_append, blockTerms_texts b,
      blocksTerms_texts rest]
theorem itemsTerms_texts (ordered : Bool) : (items : List (List Block)) →
    (Page.itemsTerms items).map (·.1) = markedTexts (itemsContents ordered items)
  | [] => by rw [Page.itemsTerms, itemsContents, markedTexts_nil, List.map_nil]
  | item :: rest => by
    rw [Page.itemsTerms, itemsContents, List.map_append, markedTexts_item, markedTexts_append,
      blocksTerms_texts item, itemsTerms_texts ordered rest]
theorem entriesTerms_texts : (entries : List (Text × Text × List Block)) →
    (Page.entriesTerms entries).map (·.1) = markedTexts (entriesContents entries)
  | [] => by rw [Page.entriesTerms, entriesContents, markedTexts_nil, List.map_nil]
  | (term, anchor, blocks) :: rest => by
    rw [Page.entriesTerms, entriesContents, List.map_cons, List.map_append, markedTexts_term,
      markedTexts_append, blocksTerms_texts blocks, entriesTerms_texts rest]
end

namespace Heading

def ownMarks (h : Heading) : List (Text × Text) :=
  (h.titleText, h.anchor) :: Page.blocksTerms h.blocks

def marks (root : Heading) : List (Text × Text) :=
  Page.blocksTerms root.blocks ++ root.headings.flatMap ownMarks

theorem marks_anchors (root : Heading) : root.marks.map (·.2) = root.anchors := by
  rw [marks, List.map_append, List.map_flatMap]
  rfl

theorem flattened_texts : (headings : List Heading) →
    ((flattened headings).flatMap ownMarks).map (·.1) = markedTexts (contentsAll headings)
  | [] => by simp [flattened, contentsAll]
  | ⟨level, anchor, title, blocks, children⟩ :: rest => by
    have below := flattened_texts children
    have later := flattened_texts rest
    simp [flattened, contentsAll, ownMarks, titleText, blocksTerms_texts, below, later]

theorem marks_texts (root : Heading) : root.marks.map (·.1) = markedTexts root.contents := by
  rw [marks, List.map_append, blocksTerms_texts, headings, flattened_texts, contents,
    markedTexts_append]

end Heading

namespace Outline

open PodSite.Markup (Paragraph)

namespace Builder

/-- The supply is the one left when all texts read so far have got their anchors. -/
def Supplied (b : Builder) : Prop :=
  b.anchors = (Anchors.empty.issueAll (markedTexts b.contents)).2

theorem initial_supplied : initial.Supplied := by
  have root : Heading.root.contents = [] := Heading.contents_fresh 0 [] []
  have start : initial.contents = [] := by
    simp [contents, initial, openContents, root, closedLists]
  rw [Supplied, start]
  rfl

theorem leadingContents_unmarked (t : Text) : markedTexts (leadingContents t) = [] := by
  unfold leadingContents
  split
  · rfl
  · rfl

theorem anchors_startItem (b : Builder) (text : Text) :
    (b.startItem text).anchors =
      (b.anchors.issueAll (markedTexts (itemContents (styleFor b.styles text) text))).2 := by
  have asked : ∀ style, (match style with
      | .definition => (b.anchors.issue (Inline.unmarked text)).2
      | _ => b.anchors) = (b.anchors.issueAll (markedTexts (itemContents style text))).2 := by
    intro style
    cases style with
    | definition => rfl
    | bullet => rw [itemContents, markedTexts_item, leadingContents_unmarked]; rfl
    | number => rw [itemContents, markedTexts_item, leadingContents_unmarked]; rfl
  rw [← asked]
  cases listed : b.lists with
  | nil =>
    have kind : OpenList.empty.kindFor text = styleFor b.styles text := by
      rw [styles, listed]
      rfl
    simp only [startItem, listed, ← kind]
    cases OpenList.empty.kindFor text <;> rfl
  | cons l outer =>
    have kind : l.kindFor text = styleFor b.styles text := by
      rw [styles, listed]
      exact kindFor_eq l outer text
    simp only [startItem, listed, ← kind]
    cases l.kindFor text <;> rfl

section Steps
variable {b b' : Builder}

theorem supplied_grows {added : List Content} (supplied : b.Supplied)
    (contents : b'.contents = b.contents ++ added)
    (anchors : b'.anchors = (b.anchors.issueAll (markedTexts added)).2) : b'.Supplied := by
  rw [Supplied, anchors, contents, markedTexts_append, Anchors.issueAll_append, ← supplied]

theorem supplied_unmarked {added : List Content} (supplied : b.Supplied)
    (contents : b'.contents = b.contents ++ added) (unmarked : markedTexts added = [])
    (anchors : b'.anchors = b.anchors) : b'.Supplied := by
  apply supplied_grows supplied contents
  rw [unmarked, anchors]
  rfl

variable (opened : b.Opened) (supplied : b.Supplied)
include opened supplied

theorem addBlocks_supplied {blocks : List Block}
    (unmarked : markedTexts (blocksContents blocks) = []) : (b.addBlocks blocks).Supplied :=
  supplied_unmarked supplied (contents_addBlocks opened blocks) unmarked
    (anchors_addBlocks b blocks)

theorem startHeading_supplied (level : Nat) (title : Text) :
    (b.startHeading level title).Supplied := by
  apply supplied_grows supplied (grows_startHeading opened level title).contents
  have same : b.closeLists.anchors = b.anchors := anchors_addBlocks _ _
  simp only [startHeading, same]
  rfl

theorem openList_supplied : { b with lists := .empty :: b.lists }.Supplied :=
  supplied_unmarked supplied (grows_openList opened).contents rfl rfl

theorem closeList_supplied : b.closeList.Supplied := by
  apply supplied_unmarked supplied (grows_closeList opened).contents rfl
  unfold closeList
  split
  · rw [anchors_addBlocks]
  · rfl

theorem startItem_supplied (text : Text) : (b.startItem text).Supplied :=
  supplied_grows supplied (grows_startItem opened text).contents (anchors_startItem b text)

theorem formatParagraph_supplied (text : Text) : (b.formatParagraph text).Supplied := by
  unfold formatParagraph
  dsimp only
  split
  · exact addBlocks_supplied opened supplied rfl
  · exact supplied

theorem command_supplied (name text : Text) : (b.command name text).Supplied := by
  unfold command
  split
  · split
    · exact startHeading_supplied opened supplied _ text
    · exact supplied
  · split
    · exact openList_supplied opened supplied
    · split
      · exact startItem_supplied opened supplied text
      · split
        · exact closeList_supplied opened supplied
        · split
          · exact supplied
          · split
            · exact formatParagraph_supplied opened supplied text
            · exact supplied

theorem add_supplied (p : Paragraph) : (b.add p).Supplied := by
  cases p with
  | command name text => exact command_supplied opened supplied name text
  | verbatim text => exact addBlocks_supplied opened supplied rfl
  | prose text => exact addBlocks_supplied opened supplied rfl

theorem closeRegion_supplied : b.closeRegion.Supplied := by
  unfold closeRegion
  split
  · have left : { b with region := none }.Supplied := supplied
    dsimp only
    split
    · exact addBlocks_supplied (b := { b with region := none }) opened left rfl
    · exact left
  · exact supplied

end Steps

theorem next_supplied {b : Builder} (sound : b.Sound) (supplied : b.Supplied) (p : Paragraph) :
    (b.next p).Supplied := by
  have closed := closeRegion_supplied sound.opened supplied
  unfold next
  split
  · exact add_supplied sound.opened supplied p
  · cases p with
    | command name text =>
      dsimp only
      split
      · exact closed
      · split
        · exact add_supplied (closeRegion_sound sound).opened closed _
        · exact supplied
    | verbatim text => exact supplied
    | prose text => exact supplied

theorem foldl_next_supplied {b : Builder} (sound : b.Sound) (supplied : b.Supplied)
    (ps : List Paragraph) : (ps.foldl next b).Supplied := by
  induction ps generalizing b with
  | nil => exact supplied
  | cons p ps ih => exact ih (next_sound sound p) (next_supplied sound supplied p)

end Builder

/-- The anchors of an outline are those handed out to its titles and terms, one after the other. -/
theorem ofParagraphs_marks (ps : List Paragraph) :
    (ofParagraphs ps).anchors =
      (Anchors.empty.issueAll ((ofParagraphs ps).marks.map (·.1))).1 := by
  have sound := Builder.foldl_next_sound Builder.initial_sound ps
  have supplied := Builder.foldl_next_supplied Builder.initial_sound Builder.initial_supplied ps
  generalize built : ps.foldl Builder.next .initial = b at sound supplied
  have closed := Builder.closeRegion_sound sound
  have last := Builder.closeRegion_supplied sound.opened supplied
  have same : ofParagraphs ps = b.closeRegion.finish := by
    have ended : ∀ p ∈ ([] : List Paragraph).head?, endsRegion p = true := by simp
    rw [ofParagraphs, built]
    exact Builder.finish_foldl_region ended
  have read := Builder.finish_contents closed.opened (Builder.region_closeRegion b)
  rw [same, Heading.marks_texts, read, Builder.finish_anchors closed, last,
    Anchors.issued_issueAll]
  rfl

theorem base_mem_anchors {ps : List Paragraph} {mark : Text × Text}
    (placed : mark ∈ (ofParagraphs ps).marks) :
    Anchors.base mark.1 ∈ (ofParagraphs ps).anchors := by
  have text : mark.1 ∈ (ofParagraphs ps).marks.map (·.1) := List.mem_map_of_mem placed
  have handed := Anchors.base_mem_issueAll (r := .empty) text
  rw [Anchors.issued_issueAll] at handed
  rw [ofParagraphs_marks]
  exact handed

end Outline
end PodSite
