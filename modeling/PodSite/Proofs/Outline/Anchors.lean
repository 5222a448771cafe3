import PodSite.Outline.Build
import PodSite.Page.Definitions
import PodSite.Proofs.Anchors

/-!
The anchors of an outline. Headings and terms take their anchors from one supply while the outline
is built, and what is open always holds all of them: read in document order, the anchors placed are
those handed out, in the order in which they were.
-/
namespace PodSite

def termAnchors (blocks : List Block) : List Text := (Page.blocksTerms blocks).map (·.2)

theorem blocksTerms_append (a b : List Block) :
    Page.blocksTerms (a ++ b) = Page.blocksTerms a ++ Page.blocksTerms b := by
  induction a with
  | nil => rfl
  | cons block a ih =>
    rw [List.cons_append, Page.blocksTerms, ih, Page.blocksTerms, List.append_assoc]

@[simp] theorem termAnchors_nil : termAnchors [] = [] := rfl

@[simp] theorem termAnchors_append (a b : List Block) :
    termAnchors (a ++ b) = termAnchors a ++ termAnchors b := by
  rw [termAnchors, blocksTerms_append, List.map_append]
  rfl

namespace Heading

/-- The anchor of a heading and those of the terms in its blocks. -/
def ownAnchors (h : Heading) : List Text := h.anchor :: termAnchors h.blocks

/-- The anchors of a document in its order: of the terms in front of the first heading, and of every
heading and the terms in its blocks. -/
def anchors (root : Heading) : List Text :=
  termAnchors root.blocks ++ root.headings.flatMap ownAnchors

theorem flattened_cons (h : Heading) (rest : List Heading) :
    flattened (h :: rest) = h :: (h.headings ++ flattened rest) := by
  obtain ⟨level, anchor, title, blocks, children⟩ := h
  rw [flattened, headings]

theorem flattened_append (a b : List Heading) :
    flattened (a ++ b) = flattened a ++ flattened b := by
  induction a with
  | nil => simp [flattened]
  | cons h a ih => simp [flattened_cons, ih]

theorem anchors_addBlocks {h : Heading} (childless : h.children = []) (blocks : List Block) :
    (h.addBlocks blocks).anchors = h.anchors ++ termAnchors blocks := by
  simp [anchors, headings, addBlocks, childless, flattened]

theorem anchors_addChild (h child : Heading) :
    (h.addChild child).anchors = h.anchors ++ child.anchor :: child.anchors := by
  simp [anchors, headings, addChild, flattened_append, flattened_cons, flattened, ownAnchors]

theorem anchors_fresh (level : Nat) (anchor title : Text) :
    (fresh level anchor title).anchors = [] := by
  simp [anchors, headings, fresh, flattened]

end Heading

namespace Outline

open PodSite.Markup (Paragraph)

def itemAnchors (kind : ListStyle) (item : OpenItem) : List Text :=
  match kind with
  | .definition => item.anchor :: termAnchors item.blocks
  | .bullet => termAnchors item.blocks
  | .number => termAnchors item.blocks

theorem itemsTerms_anchors (items : List OpenItem) :
    (Page.itemsTerms (items.map (·.blocks))).map (·.2) =
      items.flatMap fun i => termAnchors i.blocks := by
  induction items with
  | nil => rfl
  | cons item rest ih =>
    rw [List.map_cons, Page.itemsTerms, List.map_append, ih, List.flatMap_cons, termAnchors]

theorem entriesTerms_anchors (items : List OpenItem) :
    (Page.entriesTerms (items.map fun i => (i.term, i.anchor, i.blocks))).map (·.2) =
      items.flatMap fun i => i.anchor :: termAnchors i.blocks := by
  induction items with
  | nil => rfl
  | cons item rest ih =>
    rw [List.map_cons, Page.entriesTerms, List.map_cons, List.map_append, ih, List.flatMap_cons,
      List.cons_append, termAnchors]

theorem block_anchors (items : OpenItems) :
    termAnchors [items.block] = items.all.flatMap (itemAnchors items.kind) := by
  have single : ∀ block, termAnchors [block] = (Page.blockTerms block).map (·.2) := by
    intro block
    rw [termAnchors, Page.blocksTerms, Page.blocksTerms, List.append_nil]
  rw [single, OpenItems.block]
  cases kind : items.kind with
  | definition => exact entriesTerms_anchors items.all
  | bullet => exact itemsTerms_anchors items.all
  | number => exact itemsTerms_anchors items.all

theorem itemAnchors_addBlocks (kind : ListStyle) (item : OpenItem) (blocks : List Block) :
    itemAnchors kind { item with blocks := item.blocks ++ blocks } =
      itemAnchors kind item ++ termAnchors blocks := by
  cases kind with
  | definition => simp [itemAnchors]
  | bullet => simp [itemAnchors]
  | number => simp [itemAnchors]

theorem list_addBlocks_anchors (l : OpenList) (blocks : List Block) :
    termAnchors (l.addBlocks blocks).blocks = termAnchors l.blocks ++ termAnchors blocks := by
  obtain ⟨loose, items⟩ := l
  cases items with
  | none => simp [OpenList.addBlocks, OpenList.blocks]
  | some items =>
    simp [OpenList.addBlocks, OpenList.blocks, block_anchors, OpenItems.addBlocks, OpenItems.all,
      itemAnchors_addBlocks]

theorem addItem_anchors (l : OpenList) (t : Text) (item : OpenItem) :
    termAnchors (l.addItem (l.kindFor t) item).blocks =
      termAnchors l.blocks ++ itemAnchors (l.kindFor t) item := by
  obtain ⟨loose, items⟩ := l
  cases items with
  | none => simp [OpenList.addItem, OpenList.kindFor, OpenList.blocks, block_anchors, OpenItems.all]
  | some items =>
    simp [OpenList.addItem, OpenList.kindFor, OpenList.blocks, block_anchors, OpenItems.all]

theorem closedLists_anchors (inner : List Block) (lists : List OpenList) :
    termAnchors (closedLists inner lists) =
      termAnchors (closedLists [] lists) ++ termAnchors inner := by
  induction lists generalizing inner with
  | nil => simp [closedLists]
  | cons l outer ih =>
    rw [closedLists, closedLists, ih, ih (l.addBlocks []).blocks, list_addBlocks_anchors,
      list_addBlocks_anchors]
    simp

theorem closedLists_cons_anchors (l : OpenList) (outer : List OpenList) :
    termAnchors (closedLists [] (l :: outer)) =
      termAnchors (closedLists [] outer) ++ termAnchors l.blocks := by
  rw [closedLists, closedLists_anchors, list_addBlocks_anchors, termAnchors_nil, List.append_nil]

/-- The anchors of open headings, innermost first. The last one is the root, which has none of its
own. -/
def openAnchors : List Heading → List Text
  | [] => []
  | [root] => root.anchors
  | h :: outer => openAnchors outer ++ h.anchor :: h.anchors

theorem openAnchors_cons (h : Heading) {outer : List Heading} (inner : outer ≠ []) :
    openAnchors (h :: outer) = openAnchors outer ++ h.anchor :: h.anchors := by
  rw [openAnchors]
  exact inner

theorem attach_anchors (child : Option Heading) (h : Heading) :
    (attach child h).anchors =
      h.anchors ++ child.toList.flatMap fun c => c.anchor :: c.anchors := by
  cases child with
  | none => simp [attach]
  | some c => simp [attach, Heading.anchors_addChild]

theorem attach_anchor (child : Option Heading) (h : Heading) :
    (attach child h).anchor = h.anchor := by
  cases child with
  | none => rfl
  | some c => rfl

theorem closeHeadings_ne_nil (level : Nat) (child : Option Heading) {headings : List Heading}
    (opened : headings ≠ []) : closeHeadings level child headings ≠ [] := by
  fun_induction closeHeadings level child headings with
  | case1 => contradiction
  | case2 => simp
  | case3 child h outer more deep ih =>
    exact ih more
  | case4 => simp

theorem closeHeadings_anchors (level : Nat) (child : Option Heading) {headings : List Heading}
    (opened : headings ≠ []) :
    openAnchors (closeHeadings level child headings) =
      openAnchors headings ++ child.toList.flatMap fun c => c.anchor :: c.anchors := by
  fun_induction closeHeadings level child headings with
  | case1 => contradiction
  | case2 child root => rw [openAnchors, openAnchors, attach_anchors]
  | case3 child h outer more deep ih =>
    rw [ih more, openAnchors_cons h more, Option.toList_some, List.flatMap_singleton, attach_anchor,
      attach_anchors, List.append_assoc, List.cons_append]
  | case4 child h outer more shallow =>
    rw [openAnchors_cons h more, openAnchors_cons (attach child h) more, attach_anchor,
      attach_anchors, List.append_assoc, List.cons_append]

theorem closeHeadings_zero (child : Option Heading) {headings : List Heading}
    (opened : headings ≠ []) : ∃ root, closeHeadings 0 child headings = [root] := by
  fun_induction closeHeadings 0 child headings with
  | case1 => contradiction
  | case2 child root => exact ⟨_, rfl⟩
  | case3 child h outer more deep ih => exact ih more
  | case4 child h outer more shallow => exact absurd (Nat.zero_le h.level) shallow

namespace Builder

def placed (b : Builder) : List Text :=
  openAnchors b.headings ++ termAnchors (closedLists [] b.lists)

def Opened (b : Builder) : Prop := ∃ h outer, b.headings = h :: outer ∧ h.children = []

/-- What is placed is what was handed out, in the same order. -/
structure Sound (b : Builder) : Prop where
  opened : b.Opened
  supply : b.anchors.Sound
  placed_eq : b.placed = b.anchors.issued

theorem Opened.ne_nil {b : Builder} (opened : b.Opened) : b.headings ≠ [] := by
  obtain ⟨h, outer, shape, -⟩ := opened
  rw [shape]
  exact List.cons_ne_nil h outer

theorem initial_sound : initial.Sound := by
  refine ⟨⟨.root, [], rfl, rfl⟩, Anchors.empty_sound, ?_⟩
  have none : Heading.root.anchors = [] := Heading.anchors_fresh 0 [] []
  simp [placed, initial, openAnchors, none, closedLists, Anchors.empty, Anchors.issued]

theorem anchors_addBlocks (b : Builder) (blocks : List Block) :
    (b.addBlocks blocks).anchors = b.anchors := by
  unfold addBlocks
  split
  · rfl
  · rfl
  · rfl

theorem opened_addBlocks {b : Builder} (opened : b.Opened) (blocks : List Block) :
    (b.addBlocks blocks).Opened := by
  obtain ⟨anchors, headings, lists, region⟩ := b
  obtain ⟨h, outer, rfl, childless⟩ := opened
  cases lists with
  | nil => exact ⟨h.addBlocks blocks, outer, rfl, childless⟩
  | cons l lists => exact ⟨h, outer, rfl, childless⟩

theorem placed_addBlocks {b : Builder} (opened : b.Opened) (blocks : List Block) :
    (b.addBlocks blocks).placed = b.placed ++ termAnchors blocks := by
  obtain ⟨anchors, headings, lists, region⟩ := b
  obtain ⟨h, outer, rfl, childless⟩ := opened
  cases lists with
  | nil =>
    have added := Heading.anchors_addBlocks childless blocks
    cases outer with
    | nil => simp [addBlocks, placed, openAnchors, closedLists, added]
    | cons next outer =>
      have same : (h.addBlocks blocks).anchor = h.anchor := rfl
      simp [addBlocks, placed, openAnchors_cons, closedLists, added, same]
  | cons l lists =>
    simp [addBlocks, placed, closedLists_cons_anchors, list_addBlocks_anchors]

theorem addBlocks_sound {b : Builder} (sound : b.Sound) {blocks : List Block}
    (termless : termAnchors blocks = []) : (b.addBlocks blocks).Sound := by
  refine ⟨opened_addBlocks sound.opened blocks, ?_, ?_⟩
  · rw [anchors_addBlocks]
    exact sound.supply
  · rw [placed_addBlocks sound.opened, termless, List.append_nil, anchors_addBlocks]
    exact sound.placed_eq

theorem relisted_sound {b : Builder} (sound : b.Sound) {lists : List OpenList} {blocks : List Block}
    (kept : termAnchors (closedLists [] lists) ++ termAnchors blocks =
      termAnchors (closedLists [] b.lists)) :
    ({ b with lists := lists }.addBlocks blocks).Sound := by
  have opened : { b with lists := lists }.Opened := sound.opened
  refine ⟨opened_addBlocks opened blocks, ?_, ?_⟩
  · rw [anchors_addBlocks]
    exact sound.supply
  · rw [placed_addBlocks opened, anchors_addBlocks, ← sound.placed_eq, placed, placed, ← kept,
      List.append_assoc]

theorem closeList_sound {b : Builder} (sound : b.Sound) : b.closeList.Sound := by
  unfold closeList
  split
  · rename_i l outer shape
    exact relisted_sound sound (by rw [shape, closedLists_cons_anchors])
  · exact sound

theorem closeLists_sound {b : Builder} (sound : b.Sound) : b.closeLists.Sound :=
  relisted_sound sound (List.nil_append _)

theorem lists_closeLists (b : Builder) : b.closeLists.lists = [] := by
  unfold closeLists addBlocks
  split
  · contradiction
  · rfl
  · rfl

theorem closeRegion_sound {b : Builder} (sound : b.Sound) : b.closeRegion.Sound := by
  unfold closeRegion
  split
  · have left : { b with region := none }.Sound := ⟨sound.opened, sound.supply, sound.placed_eq⟩
    dsimp only
    split
    · exact addBlocks_sound left rfl
    · exact left
  · exact sound

theorem anchors_closeRegion (b : Builder) : b.closeRegion.anchors = b.anchors := by
  unfold closeRegion
  split
  · dsimp only
    split
    · rw [anchors_addBlocks]
    · rfl
  · rfl

theorem startHeading_sound {b : Builder} (sound : b.Sound) (level : Nat) (title : Text) :
    (b.startHeading level title).Sound := by
  have closed := closeLists_sound sound
  have unlisted := lists_closeLists b
  obtain ⟨-, -, appended⟩ := b.closeLists.anchors.issue_spec (Inline.unmarked title)
  refine ⟨⟨_, _, rfl, rfl⟩, Anchors.issue_sound closed.supply _, ?_⟩
  have before := closed.placed_eq
  rw [placed, unlisted, closedLists, termAnchors_nil, List.append_nil] at before
  have inner := closeHeadings_ne_nil level none closed.opened.ne_nil
  simp only [startHeading, placed]
  rw [appended, ← before, unlisted, openAnchors_cons _ inner,
    closeHeadings_anchors level none closed.opened.ne_nil, Heading.anchors_fresh]
  simp [closedLists, Heading.fresh]

theorem openList_sound {b : Builder} (sound : b.Sound) :
    { b with lists := .empty :: b.lists }.Sound := by
  refine ⟨sound.opened, sound.supply, ?_⟩
  rw [← sound.placed_eq, placed, placed, closedLists_cons_anchors]
  simp [OpenList.empty, OpenList.blocks]

theorem placed_addItem {b : Builder} {l : OpenList} {outer : List OpenList}
    (listed : b.lists = l :: outer) (anchors : Anchors) (text : Text) (item : OpenItem) :
    { b with anchors := anchors, lists := l.addItem (l.kindFor text) item :: outer }.placed =
      b.placed ++ itemAnchors (l.kindFor text) item := by
  rw [placed, placed, listed, closedLists_cons_anchors, closedLists_cons_anchors, addItem_anchors,
    List.append_assoc, List.append_assoc]

theorem openingBlocks_anchors (t : Text) : termAnchors (openingBlocks t) = [] := by
  unfold openingBlocks
  split
  · rfl
  · rfl

theorem startItem_listed_sound {b : Builder} (sound : b.Sound) {l : OpenList}
    {outer : List OpenList} (listed : b.lists = l :: outer) (text : Text) :
    (b.startItem text).Sound := by
  have added := placed_addItem listed
  -- an item without an anchor of its own places none, and the supply stays as it is
  have unmarked : ∀ t, itemAnchors (l.kindFor text) ⟨[], [], openingBlocks t⟩ = [] →
      { b with lists := l.addItem (l.kindFor text) ⟨[], [], openingBlocks t⟩ :: outer }.Sound := by
    intro t none
    refine ⟨sound.opened, sound.supply, ?_⟩
    rw [added b.anchors text, none, List.append_nil]
    exact sound.placed_eq
  simp only [startItem, listed]
  cases kind : l.kindFor text with
  | bullet =>
    rw [kind] at unmarked
    exact unmarked _ (openingBlocks_anchors _)
  | number =>
    rw [kind] at unmarked
    exact unmarked _ (openingBlocks_anchors _)
  | definition =>
    obtain ⟨-, -, appended⟩ := b.anchors.issue_spec (Inline.unmarked text)
    have marked := added (b.anchors.issue (Inline.unmarked text)).2 text
      ⟨text, (b.anchors.issue (Inline.unmarked text)).1, []⟩
    rw [kind, sound.placed_eq] at marked
    exact ⟨sound.opened, Anchors.issue_sound sound.supply _, marked.trans appended.symm⟩

theorem startItem_sound {b : Builder} (sound : b.Sound) (text : Text) :
    (b.startItem text).Sound := by
  cases listed : b.lists with
  | nil =>
    have same : b.startItem text = { b with lists := .empty :: b.lists }.startItem text := by
      simp only [startItem, listed]
    rw [same]
    exact startItem_listed_sound (openList_sound sound) rfl text
  | cons l outer => exact startItem_listed_sound sound listed text

theorem formatParagraph_sound {b : Builder} (sound : b.Sound) (text : Text) :
    (b.formatParagraph text).Sound := by
  unfold formatParagraph
  dsimp only
  split
  · exact addBlocks_sound sound rfl
  · exact sound

theorem startRegion_sound {b : Builder} (sound : b.Sound) (text : Text) :
    (b.startRegion text).Sound := ⟨sound.opened, sound.supply, sound.placed_eq⟩

theorem command_sound {b : Builder} (sound : b.Sound) (name text : Text) :
    (b.command name text).Sound := by
  unfold command
  split
  · split
    · exact startHeading_sound sound _ text
    · exact sound
  · split
    · exact openList_sound sound
    · split
      · exact startItem_sound sound text
      · split
        · exact closeList_sound sound
        · split
          · exact startRegion_sound sound text
          · split
            · exact formatParagraph_sound sound text
            · exact sound

theorem add_sound {b : Builder} (sound : b.Sound) (p : Paragraph) : (b.add p).Sound := by
  cases p with
  | command name text => exact command_sound sound name text
  | verbatim text => exact addBlocks_sound sound rfl
  | prose text => exact addBlocks_sound sound rfl

theorem next_sound {b : Builder} (sound : b.Sound) (p : Paragraph) : (b.next p).Sound := by
  have buffered : ∀ region, { b with region := some region }.Sound :=
    fun region => ⟨sound.opened, sound.supply, sound.placed_eq⟩
  unfold next
  split
  · exact add_sound sound p
  · cases p with
    | command name text =>
      dsimp only
      split
      · exact closeRegion_sound sound
      · split
        · exact add_sound (closeRegion_sound sound) _
        · exact buffered _
    | verbatim text => exact buffered _
    | prose text => exact buffered _

theorem foldl_next_sound {b : Builder} (sound : b.Sound) (ps : List Paragraph) :
    (ps.foldl next b).Sound := by
  induction ps generalizing b with
  | nil => exact sound
  | cons p ps ih => exact ih (next_sound sound p)

theorem finish_anchors {b : Builder} (sound : b.Sound) : b.finish.anchors = b.anchors.issued := by
  have closed := closeLists_sound (closeRegion_sound sound)
  have kept : b.closeRegion.closeLists.anchors = b.anchors := by
    rw [closeLists, anchors_addBlocks]
    exact anchors_closeRegion b
  have placed_eq := closed.placed_eq
  rw [placed, lists_closeLists, closedLists, termAnchors_nil, List.append_nil, kept] at placed_eq
  obtain ⟨root, left⟩ := closeHeadings_zero none closed.opened.ne_nil
  have ended := closeHeadings_anchors 0 none closed.opened.ne_nil
  rw [left, openAnchors, placed_eq, Option.toList_none, List.flatMap_nil, List.append_nil] at ended
  rw [finish, left]
  exact ended

end Builder

theorem ofParagraphs_anchors (ps : List Paragraph) :
    (ofParagraphs ps).anchors.Nodup ∧ ∀ a ∈ (ofParagraphs ps).anchors, IsAnchor a := by
  have sound := Builder.foldl_next_sound Builder.initial_sound ps
  rw [ofParagraphs, Builder.finish_anchors sound]
  exact ⟨sound.supply.distinct, sound.supply.shaped⟩

end Outline
end PodSite
