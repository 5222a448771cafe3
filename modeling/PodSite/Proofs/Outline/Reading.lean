import PodSite.Proofs.Outline.Anchors

/-!
An outline read in document order: what a reader comes to, and with the number of items that are
around each thing. Closing lists and headings moves what they hold, but nothing in the reading.
-/
namespace PodSite

/-- What a reader comes to in a document. -/
inductive Content where
  | title (level : Nat) (text : Text)
  | paragraph (text : Text)
  | verbatim (text : Text)
  /-- The start of an item of a list, which is numbered or not. -/
  | item (ordered : Bool)
  /-- The start of an item of a definition list. -/
  | term (text : Text)
  | html (text : Text)
deriving DecidableEq, Repr

mutual
def blockContents : Block → List Content
  | .paragraph t => [.paragraph t]
  | .verbatim t => [.verbatim t]
  | .html t => [.html t]
  | .list ordered items => itemsContents ordered items
  | .definitions entries => entriesContents entries
def blocksContents : List Block → List Content
  | [] => []
  | b :: rest => blockContents b ++ blocksContents rest
def itemsContents (ordered : Bool) : List (List Block) → List Content
  | [] => []
  | item :: rest => .item ordered :: (blocksContents item ++ itemsContents ordered rest)
def entriesContents : List (Text × Text × List Block) → List Content
  | [] => []
  | (term, _, blocks) :: rest => .term term :: (blocksContents blocks ++ entriesContents rest)
end

@[simp] theorem blocksContents_nil : blocksContents [] = [] := by
  rw [blocksContents]

@[simp] theorem blocksContents_append (a b : List Block) :
    blocksContents (a ++ b) = blocksContents a ++ blocksContents b := by
  induction a with
  | nil => rw [blocksContents_nil, List.nil_append, List.nil_append]
  | cons block a ih =>
    rw [List.cons_append, blocksContents, ih, blocksContents, List.append_assoc]

theorem blocksContents_single (block : Block) : blocksContents [block] = blockContents block := by
  rw [blocksContents, blocksContents_nil, List.append_nil]

mutual
def blockInside (d : Nat) : Block → List (Nat × Content)
  | .paragraph t => [(d, .paragraph t)]
  | .verbatim t => [(d, .verbatim t)]
  | .html t => [(d, .html t)]
  | .list ordered items => itemsInside d ordered items
  | .definitions entries => entriesInside d entries
def blocksInside (d : Nat) : List Block → List (Nat × Content)
  | [] => []
  | b :: rest => blockInside d b ++ blocksInside d rest
def itemsInside (d : Nat) (ordered : Bool) : List (List Block) → List (Nat × Content)
  | [] => []
  | item :: rest => (d, .item ordered) :: (blocksInside (d + 1) item ++ itemsInside d ordered rest)
def entriesInside (d : Nat) : List (Text × Text × List Block) → List (Nat × Content)
  | [] => []
  | (term, _, blocks) :: rest =>
    (d, .term term) :: (blocksInside (d + 1) blocks ++ entriesInside d rest)
end

@[simp] theorem blocksInside_nil (d : Nat) : blocksInside d [] = [] := by
  rw [blocksInside]

@[simp] theorem blocksInside_append (d : Nat) (a b : List Block) :
    blocksInside d (a ++ b) = blocksInside d a ++ blocksInside d b := by
  induction a with
  | nil => rw [blocksInside_nil, List.nil_append, List.nil_append]
  | cons block a ih => rw [List.cons_append, blocksInside, ih, blocksInside, List.append_assoc]

theorem blocksInside_single (d : Nat) (block : Block) :
    blocksInside d [block] = blockInside d block := by
  rw [blocksInside, blocksInside_nil, List.append_nil]

mutual
theorem blockInside_contents (d : Nat) (b : Block) :
    (blockInside d b).map (·.2) = blockContents b := by
  cases b with
  | paragraph t => rw [blockInside, blockContents, List.map_singleton]
  | verbatim t => rw [blockInside, blockContents, List.map_singleton]
  | html t => rw [blockInside, blockContents, List.map_singleton]
  | list ordered items => rw [blockInside, blockContents, itemsInside_contents]
  | definitions entries => rw [blockInside, blockContents, entriesInside_contents]
theorem blocksInside_contents (d : Nat) (blocks : List Block) :
    (blocksInside d blocks).map (·.2) = blocksContents blocks := by
  cases blocks with
  | nil => rw [blocksInside, blocksContents, List.map_nil]
  | cons b rest =>
    rw [blocksInside, blocksContents, List.map_append, blockInside_contents,
      blocksInside_contents]
theorem itemsInside_contents (d : Nat) (ordered : Bool) (items : List (List Block)) :
    (itemsInside d ordered items).map (·.2) = itemsContents ordered items := by
  cases items with
  | nil => rw [itemsInside, itemsContents, List.map_nil]
  | cons item rest =>
    rw [itemsInside, itemsContents, List.map_cons, List.map_append, blocksInside_contents,
      itemsInside_contents]
theorem entriesInside_contents (d : Nat) (entries : List (Text × Text × List Block)) :
    (entriesInside d entries).map (·.2) = entriesContents entries := by
  cases entries with
  | nil => rw [entriesInside, entriesContents, List.map_nil]
  | cons entry rest =>
    obtain ⟨term, anchor, blocks⟩ := entry
    rw [entriesInside, entriesContents, List.map_cons, List.map_append, blocksInside_contents,
      entriesInside_contents]
end

namespace Heading

/-- Headings with all that is under them: the title, the blocks, then what is below. -/
def contentsAll : List Heading → List Content
  | [] => []
  | ⟨level, _, title, blocks, children⟩ :: rest =>
    .title level title :: (blocksContents blocks ++ contentsAll children ++ contentsAll rest)

def contents (h : Heading) : List Content := blocksContents h.blocks ++ contentsAll h.children

def titled (h : Heading) : List Content := .title h.level h.title :: h.contents

theorem contentsAll_append (a b : List Heading) :
    contentsAll (a ++ b) = contentsAll a ++ contentsAll b := by
  induction a with
  | nil => rw [contentsAll, List.nil_append, List.nil_append]
  | cons h a ih =>
    obtain ⟨level, anchor, title, blocks, children⟩ := h
    simp [contentsAll, ih]

theorem contents_addChild (h child : Heading) :
    (h.addChild child).contents = h.contents ++ child.titled := by
  obtain ⟨level, anchor, title, blocks, children⟩ := child
  simp [contents, addChild, contentsAll_append, contentsAll, titled]

theorem contents_addBlocks {h : Heading} (childless : h.children = []) (blocks : List Block) :
    (h.addBlocks blocks).contents = h.contents ++ blocksContents blocks := by
  simp [contents, addBlocks, childless, contentsAll]

theorem contents_fresh (level : Nat) (anchor title : Text) :
    (fresh level anchor title).contents = [] := by
  simp [contents, fresh, contentsAll]

def ownInside (h : Heading) : List (Nat × Content) :=
  (0, .title h.level h.title) :: blocksInside 0 h.blocks

/-- Headings with all that is under them, each thing with the number of items around it. -/
def insideAll (hs : List Heading) : List (Nat × Content) := (flattened hs).flatMap ownInside

def inside (h : Heading) : List (Nat × Content) := insideAll [h]

@[simp] theorem insideAll_nil : insideAll [] = [] := by
  rw [insideAll, flattened, List.flatMap_nil]

theorem insideAll_cons (h : Heading) (rest : List Heading) :
    insideAll (h :: rest) = h.ownInside ++ insideAll h.children ++ insideAll rest := by
  rw [insideAll, flattened_cons, List.flatMap_cons, List.flatMap_append, List.append_assoc]
  rfl

@[simp] theorem insideAll_append (a b : List Heading) :
    insideAll (a ++ b) = insideAll a ++ insideAll b := by
  rw [insideAll, flattened_append, List.flatMap_append]
  rfl

theorem insideAll_contents (hs : List Heading) :
    (insideAll hs).map (·.2) = contentsAll hs := by
  fun_induction contentsAll hs with
  | case1 => rw [insideAll_nil, List.map_nil]
  | case2 level anchor title blocks children rest below after =>
    rw [insideAll_cons, List.map_append, List.map_append, below, after, ownInside, List.map_cons,
      blocksInside_contents]
    simp

theorem inside_contents (h : Heading) : h.inside.map (·.2) = h.titled := by
  obtain ⟨level, anchor, title, blocks, children⟩ := h
  rw [inside, insideAll_contents]
  simp [contentsAll, titled, contents]

theorem insideAll_attach (child : Option Heading) (h : Heading) :
    insideAll [Outline.attach child h] = insideAll (h :: child.toList) := by
  cases child with
  | none => rfl
  | some c => simp [Outline.attach, addChild, insideAll_cons, ownInside]

end Heading

namespace Outline

def itemDepth (lists : List OpenList) : Nat := lists.countP (·.items.isSome)

section Lists
variable (d : Nat)

def startContent (style : ListStyle) (item : OpenItem) : Content :=
  match style with
  | .bullet => .item false
  | .number => .item true
  | .definition => .term item.term

def openItemInside (style : ListStyle) (item : OpenItem) : List (Nat × Content) :=
  (d, startContent style item) :: blocksInside (d + 1) item.blocks

theorem itemsInside_blocks (ordered : Bool) (items : List OpenItem) :
    itemsInside d ordered (items.map (·.blocks)) =
      items.flatMap fun i => (d, .item ordered) :: blocksInside (d + 1) i.blocks := by
  induction items with
  | nil => rw [List.map_nil, itemsInside, List.flatMap_nil]
  | cons item rest ih => rw [List.map_cons, itemsInside, ih, List.flatMap_cons, List.cons_append]

theorem entriesInside_blocks (items : List OpenItem) :
    entriesInside d (items.map fun i => (i.term, i.anchor, i.blocks)) =
      items.flatMap fun i => (d, .term i.term) :: blocksInside (d + 1) i.blocks := by
  induction items with
  | nil => rw [List.map_nil, entriesInside, List.flatMap_nil]
  | cons item rest ih =>
    rw [List.map_cons, entriesInside, ih, List.flatMap_cons, List.cons_append]

theorem block_inside (items : OpenItems) :
    blockInside d items.block = items.all.flatMap (openItemInside d items.kind) := by
  rw [OpenItems.block]
  cases kind : items.kind with
  | definition =>
    rw [blockInside]
    exact entriesInside_blocks d items.all
  | bullet =>
    rw [blockInside]
    exact itemsInside_blocks d false items.all
  | number =>
    rw [blockInside]
    exact itemsInside_blocks d true items.all

/-- What is added to an open list stands in its last item, if it has one. -/
theorem list_addBlocks_inside (l : OpenList) (blocks : List Block) :
    blocksInside d (l.addBlocks blocks).blocks =
      blocksInside d l.blocks ++ blocksInside (d + itemDepth [l]) blocks := by
  obtain ⟨loose, items⟩ := l
  cases items with
  | none => simp [OpenList.addBlocks, OpenList.blocks, itemDepth]
  | some items =>
    simp [OpenList.addBlocks, OpenList.blocks, blocksInside_single, block_inside,
      OpenItems.addBlocks, OpenItems.all, openItemInside, startContent, itemDepth]

theorem addItem_inside (l : OpenList) (t : Text) (item : OpenItem) :
    blocksInside d (l.addItem (l.kindFor t) item).blocks =
      blocksInside d l.blocks ++ openItemInside d (l.kindFor t) item := by
  obtain ⟨loose, items⟩ := l
  cases items with
  | none =>
    simp [OpenList.addItem, OpenList.kindFor, OpenList.blocks, blocksInside_single, block_inside,
      OpenItems.all]
  | some items =>
    simp [OpenList.addItem, OpenList.kindFor, OpenList.blocks, blocksInside_single, block_inside,
      OpenItems.all]

theorem itemDepth_cons (l : OpenList) (outer : List OpenList) :
    itemDepth (l :: outer) = itemDepth outer + itemDepth [l] := by
  simp [itemDepth, List.countP_cons]

theorem closedLists_inside (inner : List Block) (lists : List OpenList) :
    blocksInside 0 (closedLists inner lists) =
      blocksInside 0 (closedLists [] lists) ++ blocksInside (itemDepth lists) inner := by
  induction lists generalizing inner with
  | nil => simp [closedLists, itemDepth]
  | cons l outer ih =>
    rw [closedLists, closedLists, ih, ih (l.addBlocks []).blocks, list_addBlocks_inside,
      list_addBlocks_inside, itemDepth_cons l outer]
    simp

theorem closedLists_cons_inside (l : OpenList) (outer : List OpenList) :
    blocksInside 0 (closedLists [] (l :: outer)) =
      blocksInside 0 (closedLists [] outer) ++ blocksInside (itemDepth outer) l.blocks := by
  rw [closedLists, closedLists_inside, list_addBlocks_inside, blocksInside_nil, List.append_nil]

end Lists

theorem closeHeadings_inside (level : Nat) (child : Option Heading) (headings : List Heading) :
    Heading.insideAll (closeHeadings level child headings).reverse =
      Heading.insideAll (headings.reverse ++ child.toList) := by
  fun_induction closeHeadings level child headings with
  | case1 child =>
    cases child with
    | none => rfl
    | some c => rfl
  | case2 child root => exact Heading.insideAll_attach child root
  | case3 child h outer more deep ih =>
    rw [ih, Option.toList_some, Heading.insideAll_append, Heading.insideAll_attach]
    simp
  | case4 child h outer more shallow =>
    rw [List.reverse_cons, Heading.insideAll_append, Heading.insideAll_attach]
    simp

end Outline
end PodSite
