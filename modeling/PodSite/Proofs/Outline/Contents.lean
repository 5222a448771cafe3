import PodSite.Proofs.Outline.Reading

/-!
What an outline holds, read in document order, is what its paragraphs say one after the other.
While the outline is built, its content stands in open headings, in open lists and in an open
region; what is moved when one of them ends stays where it was in the reading.
-/
namespace PodSite

namespace Outline

open PodSite.Markup (Paragraph)

def leadingContents (t : Text) : List Content := if t.isEmpty then [] else [.paragraph t]

/-- An item of a list with the given style. -/
def itemContents (style : ListStyle) (text : Text) : List Content :=
  match style with
  | .bullet => .item false :: leadingContents (ListStyle.bulletText text)
  | .number => .item true :: leadingContents (ListStyle.numberText text)
  | .definition => [.term text]

/-- The style of the list that an item goes to, where the innermost list comes first. The first item
fixes the style. -/
def styleFor (styles : List (Option ListStyle)) (text : Text) : ListStyle :=
  match styles with
  | some style :: _ => style
  | _ => .ofItem text

def headingOf? (name : Text) : Option Nat :=
  (Text.dropPrefix? "head".toList name).bind headingLevel?

def formatContents (text : Text) : List Content :=
  let (format, content) := (Text.splitOnce? Text.isBlank text).getD (text, [])
  if isPageFormat format then [.html (Text.trim content)] else []

def ownContents (styles : List (Option ListStyle)) : Paragraph → List Content
  | .prose t => [.paragraph t]
  | .verbatim t => [.verbatim t]
  | .command name text =>
    if name = "item".toList then itemContents (styleFor styles text) text
    else if name = "for".toList then formatContents text
    else (headingOf? name).toList.map fun level => .title level text

/-- The styles of the lists that are open after a paragraph. A heading ends all lists. -/
def stylesAfter (styles : List (Option ListStyle)) : Paragraph → List (Option ListStyle)
  | .command name text =>
    if name = "over".toList then none :: styles
    else if name = "item".toList then some (styleFor styles text) :: styles.tail
    else if name = "back".toList then styles.tail
    else if (headingOf? name).isSome then []
    else styles
  | _ => styles

def startsRegion? : Paragraph → Option Bool
  | .command name text =>
    if name = "begin".toList then some (isPageFormat ((Text.words text).headD [])) else none
  | _ => none

/-- A region ends at its end command and at every heading, valid or not. -/
def endsRegion : Paragraph → Bool
  | .command name _ =>
    name = "end".toList || (Text.dropPrefix? "head".toList name).isSome
  | _ => false

def regionContents (isHtml : Bool) (body : List Paragraph) : List Content :=
  if isHtml && !body.isEmpty then
    [.html ("\n\n".toList.intercalate (body.map Builder.regionText))]
  else []

def contentsOf (styles : List (Option ListStyle)) : List Paragraph → List Content
  | [] => []
  | p :: rest =>
    match startsRegion? p with
    | some isHtml =>
      regionContents isHtml (rest.takeWhile (!endsRegion ·)) ++
        contentsOf styles (rest.dropWhile (!endsRegion ·))
    | none => ownContents styles p ++ contentsOf (stylesAfter styles p) rest
termination_by ps => ps.length
decreasing_by
  · exact Nat.lt_succ_of_le (List.dropWhile_sublist _).length_le
  · exact Nat.lt_succ_self rest.length

section Lists

/-- An open item, as it will be read in a list of the given style. -/
def openItemContents (style : ListStyle) (item : OpenItem) : List Content :=
  match style with
  | .bullet => .item false :: blocksContents item.blocks
  | .number => .item true :: blocksContents item.blocks
  | .definition => .term item.term :: blocksContents item.blocks

theorem openItemInside_contents (d : Nat) (style : ListStyle) (item : OpenItem) :
    (openItemInside d style item).map (·.2) = openItemContents style item := by
  rw [openItemInside, List.map_cons, blocksInside_contents]
  cases style with
  | definition => rfl
  | bullet => rfl
  | number => rfl

theorem list_addBlocks_contents (l : OpenList) (blocks : List Block) :
    blocksContents (l.addBlocks blocks).blocks =
      blocksContents l.blocks ++ blocksContents blocks := by
  rw [← blocksInside_contents 0, list_addBlocks_inside, List.map_append, blocksInside_contents,
    blocksInside_contents]

theorem addItem_contents (l : OpenList) (t : Text) (item : OpenItem) :
    blocksContents (l.addItem (l.kindFor t) item).blocks =
      blocksContents l.blocks ++ openItemContents (l.kindFor t) item := by
  rw [← blocksInside_contents 0, addItem_inside, List.map_append, blocksInside_contents,
    openItemInside_contents]

theorem closedLists_cons_contents (l : OpenList) (outer : List OpenList) :
    blocksContents (closedLists [] (l :: outer)) =
      blocksContents (closedLists [] outer) ++ blocksContents l.blocks := by
  rw [← blocksInside_contents 0, closedLists_cons_inside, List.map_append, blocksInside_contents,
    blocksInside_contents]

def OpenList.style? (l : OpenList) : Option ListStyle := l.items.map (·.kind)

theorem style?_addBlocks (l : OpenList) (blocks : List Block) :
    (l.addBlocks blocks).style? = l.style? := by
  obtain ⟨loose, items⟩ := l
  cases items with
  | none => rfl
  | some items => rfl

theorem style?_addItem (l : OpenList) (t : Text) (item : OpenItem) :
    (l.addItem (l.kindFor t) item).style? = some (l.kindFor t) := by
  obtain ⟨loose, items⟩ := l
  cases items with
  | none => rfl
  | some items => rfl

theorem kindFor_eq (l : OpenList) (outer : List OpenList) (t : Text) :
    l.kindFor t = styleFor ((l :: outer).map OpenList.style?) t := by
  obtain ⟨loose, items⟩ := l
  cases items with
  | none => rfl
  | some items => rfl

end Lists

section Headings

/-- What open headings hold, innermost first. The last one is the root, which has no title. -/
def openContents : List Heading → List Content
  | [] => []
  | [root] => root.contents
  | h :: outer => openContents outer ++ h.titled

theorem openContents_cons (h : Heading) {outer : List Heading} (inner : outer ≠ []) :
    openContents (h :: outer) = openContents outer ++ h.titled := by
  rw [openContents]
  exact inner

theorem attach_contents (child : Option Heading) (h : Heading) :
    (attach child h).contents = h.contents ++ child.toList.flatMap Heading.titled := by
  cases child with
  | none => simp [attach]
  | some c => simp [attach, Heading.contents_addChild]

theorem attach_titled (child : Option Heading) (h : Heading) :
    (attach child h).titled = h.titled ++ child.toList.flatMap Heading.titled := by
  have same : (attach child h).level = h.level ∧ (attach child h).title = h.title := by
    cases child with
    | none => exact ⟨rfl, rfl⟩
    | some c => exact ⟨rfl, rfl⟩
  rw [Heading.titled, same.1, same.2, attach_contents, Heading.titled, List.cons_append]

theorem closeHeadings_contents (level : Nat) (child : Option Heading) {headings : List Heading}
    (opened : headings ≠ []) :
    openContents (closeHeadings level child headings) =
      openContents headings ++ child.toList.flatMap Heading.titled := by
  fun_induction closeHeadings level child headings with
  | case1 => contradiction
  | case2 child root => rw [openContents, openContents, attach_contents]
  | case3 child h outer more deep ih =>
    rw [ih more, openContents_cons h more, Option.toList_some, List.flatMap_singleton,
      attach_titled, List.append_assoc]
  | case4 child h outer more shallow =>
    rw [openContents_cons h more, openContents_cons (attach child h) more, attach_titled,
      List.append_assoc]

end Headings

namespace Builder

/-- What has been read so far, in document order, but for what an open region holds. -/
def contents (b : Builder) : List Content :=
  openContents b.headings ++ blocksContents (closedLists [] b.lists)

def styles (b : Builder) : List (Option ListStyle) := b.lists.map OpenList.style?

section Blocks
variable {b : Builder}

theorem contents_addBlocks (opened : b.Opened) (blocks : List Block) :
    (b.addBlocks blocks).contents = b.contents ++ blocksContents blocks := by
  obtain ⟨anchors, headings, lists, region⟩ := b
  obtain ⟨h, outer, rfl, childless⟩ := opened
  cases lists with
  | nil =>
    have added := Heading.contents_addBlocks childless blocks
    cases outer with
    | nil => simp [addBlocks, contents, openContents, closedLists, added]
    | cons next outer =>
      have same : (h.addBlocks blocks).titled = h.titled ++ blocksContents blocks := by
        rw [Heading.titled, added, Heading.titled, List.cons_append]
        rfl
      simp [addBlocks, contents, openContents_cons, closedLists, same]
  | cons l lists =>
    simp [addBlocks, contents, closedLists_cons_contents, list_addBlocks_contents]

theorem styles_addBlocks (b : Builder) (blocks : List Block) :
    (b.addBlocks blocks).styles = b.styles := by
  obtain ⟨anchors, headings, lists, region⟩ := b
  cases lists with
  | nil =>
    cases headings with
    | nil => rfl
    | cons h outer => rfl
  | cons l lists =>
    simp [addBlocks, styles, style?_addBlocks]

theorem region_addBlocks (b : Builder) (blocks : List Block) :
    (b.addBlocks blocks).region = b.region := by
  unfold addBlocks
  split
  · rfl
  · rfl
  · rfl

end Blocks

/-- What taking a paragraph has to do: the innermost heading stays without anything below it, what
is read grows by `added`, and the lists have the given styles. -/
structure Grows (b b' : Builder) (added : List Content) (styles : List (Option ListStyle)) :
    Prop where
  opened : b'.Opened
  contents : b'.contents = b.contents ++ added
  styles : b'.styles = styles
  region : b'.region = b.region

section Steps
variable {b : Builder} (opened : b.Opened)
include opened

theorem grows_addBlocks (blocks : List Block) :
    Grows b (b.addBlocks blocks) (blocksContents blocks) b.styles :=
  ⟨opened_addBlocks opened blocks, contents_addBlocks opened blocks, styles_addBlocks b blocks,
    region_addBlocks b blocks⟩

theorem grows_same : Grows b b [] b.styles := ⟨opened, by simp, rfl, rfl⟩

theorem grows_closeList : Grows b b.closeList [] b.styles.tail := by
  obtain ⟨anchors, headings, lists, region⟩ := b
  cases lists with
  | nil => exact grows_same opened
  | cons l outer =>
    have left : Opened ⟨anchors, headings, outer, region⟩ := opened
    refine ⟨opened_addBlocks left l.blocks, ?_, ?_, region_addBlocks _ _⟩
    · rw [closeList, contents_addBlocks left, contents, contents, closedLists_cons_contents]
      simp
    · rw [closeList, styles_addBlocks]
      rfl

theorem grows_closeLists : Grows b b.closeLists [] [] := by
  have left : { b with lists := [] }.Opened := opened
  refine ⟨opened_addBlocks left _, ?_, ?_, region_addBlocks _ _⟩
  · rw [closeLists, contents_addBlocks left, contents, contents, closedLists]
    simp
  · rw [closeLists, styles_addBlocks]
    rfl

theorem grows_startHeading (level : Nat) (title : Text) :
    Grows b (b.startHeading level title) [.title level title] [] := by
  have closed := grows_closeLists opened
  have unlisted := lists_closeLists b
  have inner := closeHeadings_ne_nil level none closed.opened.ne_nil
  have before := closed.contents
  rw [contents, unlisted, closedLists, blocksContents_nil, List.append_nil, List.append_nil]
    at before
  refine ⟨⟨_, _, rfl, rfl⟩, ?_, ?_, closed.region⟩
  · simp only [startHeading, contents]
    rw [unlisted, openContents_cons _ inner, closeHeadings_contents level none closed.opened.ne_nil,
      before, Heading.titled, Heading.contents_fresh]
    simp [closedLists, Heading.fresh, contents]
  · simp [startHeading, styles, unlisted]

theorem grows_openList :
    Grows b { b with lists := .empty :: b.lists } [] (none :: b.styles) := by
  refine ⟨opened, ?_, rfl, rfl⟩
  rw [contents, contents, closedLists_cons_contents]
  simp [OpenList.empty, OpenList.blocks]

theorem grows_addItem {l : OpenList} {outer : List OpenList} (listed : b.lists = l :: outer)
    (anchors : Anchors) (text : Text) (item : OpenItem) :
    Grows b { b with anchors := anchors, lists := l.addItem (l.kindFor text) item :: outer }
      (openItemContents (l.kindFor text) item) (some (l.kindFor text) :: b.styles.tail) := by
  refine ⟨opened, ?_, ?_, rfl⟩
  · rw [contents, contents, listed, closedLists_cons_contents, closedLists_cons_contents,
      addItem_contents, List.append_assoc, List.append_assoc]
  · rw [styles, styles, listed, List.map_cons, style?_addItem]
    rfl

omit opened in
theorem openingBlocks_contents (t : Text) :
    blocksContents (openingBlocks t) = leadingContents t := by
  unfold openingBlocks leadingContents
  split
  · rw [blocksContents_nil]
  · rw [blocksContents_single, blockContents]

theorem grows_startItem_listed {l : OpenList} {outer : List OpenList}
    (listed : b.lists = l :: outer) (text : Text) :
    Grows b (b.startItem text) (itemContents (styleFor b.styles text) text)
      (some (styleFor b.styles text) :: b.styles.tail) := by
  have style : l.kindFor text = styleFor b.styles text := by
    rw [styles, listed]
    exact kindFor_eq l outer text
  have added := grows_addItem opened listed
  rw [← style]
  simp only [startItem, listed]
  cases kind : l.kindFor text with
  | bullet =>
    have step := added b.anchors text ⟨[], [], openingBlocks (ListStyle.bulletText text)⟩
    rw [kind] at step
    simpa only [itemContents, openItemContents, openingBlocks_contents] using step
  | number =>
    have step := added b.anchors text ⟨[], [], openingBlocks (ListStyle.numberText text)⟩
    rw [kind] at step
    simpa only [itemContents, openItemContents, openingBlocks_contents] using step
  | definition =>
    have step := added (b.anchors.issue (Inline.unmarked text)).2 text
      ⟨text, (b.anchors.issue (Inline.unmarked text)).1, []⟩
    rw [kind] at step
    simpa only [itemContents, openItemContents, blocksContents_nil] using step

theorem grows_startItem (text : Text) :
    Grows b (b.startItem text) (itemContents (styleFor b.styles text) text)
      (some (styleFor b.styles text) :: b.styles.tail) := by
  cases listed : b.lists with
  | cons l outer => exact grows_startItem_listed opened listed text
  | nil =>
    -- without a list the item opens one, in which it is the first
    have same : b.startItem text = { b with lists := .empty :: b.lists }.startItem text := by
      simp only [startItem, listed]
    have list := grows_openList opened
    have item := grows_startItem_listed list.opened rfl text
    have none_open : b.styles = [] := by rw [styles, listed, List.map_nil]
    rw [list.styles, none_open] at item
    rw [same, none_open]
    refine ⟨item.opened, ?_, item.styles, item.region⟩
    rw [item.contents, list.contents, List.append_nil]
    rfl

theorem grows_formatParagraph (text : Text) :
    Grows b (b.formatParagraph text) (formatContents text) b.styles := by
  unfold formatParagraph formatContents
  dsimp only
  split
  · have step := grows_addBlocks opened
      [.html (Text.trim ((Text.splitOnce? Text.isBlank text).getD (text, [])).2)]
    rwa [blocksContents_single, blockContents] at step
  · exact grows_same opened

theorem grows_add {p : Paragraph} (plain : startsRegion? p = none) :
    Grows b (b.add p) (ownContents b.styles p) (stylesAfter b.styles p) := by
  have block := fun block => grows_addBlocks opened [block]
  simp only [blocksContents_single] at block
  cases p with
  | prose t =>
    have step := block (.paragraph t)
    rwa [blockContents] at step
  | verbatim t =>
    have step := block (.verbatim t)
    rwa [blockContents] at step
  | command name text =>
    rw [startsRegion?] at plain
    rw [add, command]
    cases head : Text.dropPrefix? "head".toList name with
    | some digits =>
      -- a heading command has none of the names that the other commands have
      have other : ∀ word : Text, Text.dropPrefix? "head".toList word = none → name ≠ word := by
        rintro word missing rfl
        rw [missing] at head
        cases head
      have nested := other "over".toList rfl
      have item := other "item".toList rfl
      have back := other "back".toList rfl
      have format := other "for".toList rfl
      simp only [ownContents, stylesAfter, nested, item, back, format, headingOf?, head, ↓reduceIte,
        Option.bind_some]
      cases headingLevel? digits with
      | some level => exact grows_startHeading opened level text
      | none => exact grows_same opened
    | none =>
      simp only [ownContents, stylesAfter, headingOf?, head, Option.bind_none]
      split
      · rename_i nested
        subst nested
        exact grows_openList opened
      · split
        · exact grows_startItem opened text
        · split
          · rename_i back
            subst back
            exact grows_closeList opened
          · split
            · rename_i begins
              rw [if_pos begins] at plain
              cases plain
            · split
              · exact grows_formatParagraph opened text
              · exact grows_same opened

theorem closeRegion_contents {isHtml : Bool} {body : List Paragraph}
    (region : b.region = some ⟨isHtml, body.map regionText⟩) :
    b.closeRegion.Opened ∧ b.closeRegion.contents = b.contents ++ regionContents isHtml body ∧
      b.closeRegion.styles = b.styles ∧ b.closeRegion.region = none := by
  have left : { b with region := none }.Opened := opened
  rw [closeRegion, region]
  simp only [List.isEmpty_map]
  unfold regionContents
  split
  · have step := grows_addBlocks left [.html ("\n\n".toList.intercalate (body.map regionText))]
    rw [blocksContents_single, blockContents] at step
    exact ⟨step.opened, step.contents, step.styles, step.region⟩
  · exact ⟨left, by rw [List.append_nil]; rfl, rfl, rfl⟩

end Steps

theorem foldl_next_region {b : Builder} {isHtml : Bool} {kept body : List Paragraph}
    (inside : ∀ p ∈ body, endsRegion p = false)
    (region : b.region = some ⟨isHtml, kept.map regionText⟩) :
    body.foldl next b = { b with region := some ⟨isHtml, (kept ++ body).map regionText⟩ } := by
  induction body generalizing b kept with
  | nil =>
    rw [List.foldl_nil, List.append_nil, ← region]
  | cons p rest ih =>
    have here := inside p List.mem_cons_self
    have later := fun q member => inside q (List.mem_cons_of_mem p member)
    have step : b.next p = { b with region := some ⟨isHtml, (kept ++ [p]).map regionText⟩ } := by
      rw [next, region]
      cases p with
      | prose t => simp
      | verbatim t => simp
      | command name text =>
        simp only [endsRegion, Bool.or_eq_false_iff, decide_eq_false_iff_not] at here
        simp only [if_neg here.1, here.2, Bool.false_eq_true, ↓reduceIte, List.map_append,
          List.map_cons, List.map_nil]
    rw [List.foldl_cons, step, ih later rfl]
    simp

theorem region_closeRegion (b : Builder) : b.closeRegion.region = none := by
  rw [closeRegion]
  split
  · dsimp only
    split
    · rw [region_addBlocks]
    · rfl
  · assumption

theorem finish_foldl_region {b : Builder} {rest : List Paragraph}
    (ends : ∀ p ∈ rest.head?, endsRegion p = true) :
    (rest.foldl next b).finish = (rest.foldl next b.closeRegion).finish := by
  have closed := region_closeRegion b
  have again : b.closeRegion.closeRegion = b.closeRegion := by
    rw [closeRegion, closed]
  cases rest with
  | nil => rw [List.foldl_nil, List.foldl_nil, finish, finish, again]
  | cons p rest =>
    have here := ends p rfl
    have step : b.next p = b.closeRegion.next p := by
      rw [next, next, closed]
      cases region : b.region with
      | none => rw [closeRegion, region]
      | some region =>
        cases p with
        | prose t => simp [endsRegion] at here
        | verbatim t => simp [endsRegion] at here
        | command name text =>
          simp only [endsRegion, Bool.or_eq_true, decide_eq_true_eq] at here
          dsimp only
          split
          · rename_i ended
            subst ended
            rfl
          · rename_i open_yet
            rw [if_pos (here.resolve_left open_yet)]
    rw [List.foldl_cons, List.foldl_cons, step]

theorem finish_contents {b : Builder} (opened : b.Opened) (region : b.region = none) :
    b.finish.contents = b.contents := by
  have closed := grows_closeLists opened
  have before := closed.contents
  rw [contents, lists_closeLists, closedLists, blocksContents_nil, List.append_nil,
    List.append_nil] at before
  obtain ⟨root, left⟩ := closeHeadings_zero none closed.opened.ne_nil
  have ended := closeHeadings_contents 0 none closed.opened.ne_nil
  rw [left, openContents, before, Option.toList_none, List.flatMap_nil, List.append_nil] at ended
  have same : b.closeRegion = b := by rw [closeRegion, region]
  rw [finish, same, left]
  exact ended

/-- A region is read as a whole: its paragraphs are kept until something ends it. -/
theorem region_contents {b : Builder} (opened : b.Opened) (region : b.region = none) {p : Paragraph}
    {isHtml : Bool} (starts : startsRegion? p = some isHtml) {body : List Paragraph}
    (inside : ∀ q ∈ body, endsRegion q = false) :
    (body.foldl next (b.next p)).closeRegion.Opened ∧
      (body.foldl next (b.next p)).closeRegion.contents =
        b.contents ++ regionContents isHtml body ∧
      (body.foldl next (b.next p)).closeRegion.styles = b.styles ∧
      (body.foldl next (b.next p)).closeRegion.region = none := by
  have started : b.next p = { b with region := some ⟨isHtml, []⟩ } := by
    cases p with
    | prose t => simp [startsRegion?] at starts
    | verbatim t => simp [startsRegion?] at starts
    | command name text =>
      rw [startsRegion?] at starts
      split at starts
      · rename_i begins
        subst begins
        cases starts
        rw [next, region]
        rfl
      · cases starts
  have empty : (b.next p).region = some ⟨isHtml, ([] : List Paragraph).map regionText⟩ := by
    rw [started]
    rfl
  have filled := foldl_next_region inside empty
  rw [started, List.nil_append] at filled
  rw [started, filled]
  have open_yet : { b with region := some ⟨isHtml, body.map regionText⟩ }.Opened := opened
  exact closeRegion_contents open_yet rfl

theorem finish_foldl_contents (styles : List (Option ListStyle)) (ps : List Paragraph) :
    ∀ b : Builder, b.Opened → b.region = none → b.styles = styles →
      (ps.foldl next b).finish.contents = b.contents ++ contentsOf styles ps := by
  fun_induction contentsOf styles ps with
  | case1 styles =>
    intro b opened region _
    rw [List.foldl_nil, finish_contents opened region, List.append_nil]
  | case2 styles p rest isHtml starts ih =>
    intro b opened region same
    have inside : ∀ q ∈ rest.takeWhile (!endsRegion ·), endsRegion q = false := by
      intro q member
      simpa using List.all_eq_true.mp (List.all_takeWhile (p := (!endsRegion ·))) q member
    have ends : ∀ q ∈ (rest.dropWhile (!endsRegion ·)).head?, endsRegion q = true := by
      intro q first
      have stopped := List.head?_dropWhile_not (!endsRegion ·) rest
      rw [Option.mem_def.mp first] at stopped
      simpa using stopped
    obtain ⟨opened', contents', styles', region'⟩ := region_contents opened region starts inside
    have read := ih _ opened' region' (styles'.trans same)
    rw [← finish_foldl_region ends, ← List.foldl_append, List.takeWhile_append_dropWhile,
      contents', List.append_assoc] at read
    rw [List.foldl_cons]
    exact read
  | case3 styles p rest plain ih =>
    intro b opened region same
    subst same
    have step := grows_add opened plain
    have taken : b.next p = b.add p := by rw [next, region]
    rw [List.foldl_cons, taken, ih _ step.opened (step.region.trans region) step.styles,
      step.contents, List.append_assoc]

end Builder

/-- An outline holds what its paragraphs say, each once and in their order. -/
theorem contents_ofParagraphs (ps : List Paragraph) :
    (ofParagraphs ps).contents = contentsOf [] ps := by
  have start : Builder.initial.contents = [] := by
    have root : Heading.root.contents = [] := Heading.contents_fresh 0 [] []
    simp [Builder.contents, Builder.initial, openContents, root, closedLists]
  rw [ofParagraphs,
    Builder.finish_foldl_contents [] ps .initial Builder.initial_sound.opened rfl rfl, start,
    List.nil_append]

example :
    contentsOf []
        [.command "over".toList [], .command "item".toList "* one".toList, .prose "a".toList,
          .command "item".toList "2. two".toList, .command "head1".toList "End".toList] =
      [.item false, .paragraph "one".toList, .paragraph "a".toList, .item false,
        .paragraph "2. two".toList, .title 1 "End".toList] := by
  decide +kernel

end Outline
end PodSite
