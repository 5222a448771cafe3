import PodSite.Proofs.Inline.Print
import PodSite.Proofs.Markup.NormalForm
import PodSite.Proofs.Outline.Contents

/-!
What an item of a list shows. It should keep its text: all of it but the mark that makes it an item
of that kind of list. The code takes away more marks than it tells items by, so that an item can
lose characters that were no mark.
-/
namespace PodSite

namespace ListStyle

/-- What an item shows of its text in a list of the given style. -/
def itemText : ListStyle → Text → Text
  | bullet => bulletText
  | number => numberText
  | definition => id

def takes : ListStyle → Char → Bool
  | bullet, c => isBulletMark c
  | number, c => Text.isAsciiDigit c || c == '.'
  | definition, _ => false

inductive IsMark : ListStyle → Text → Prop
  | bullet {c : Char} (mark : isBulletMark c = true) : IsMark bullet [c]
  | number {digits : Text} (some : digits ≠ []) (all : ∀ c ∈ digits, Text.isAsciiDigit c = true) :
    IsMark number digits
  | stopped {digits : Text} (some : digits ≠ []) (all : ∀ c ∈ digits, Text.isAsciiDigit c = true) :
    IsMark number (digits ++ ['.'])

/-- What an item has to show in a list: the text after its mark if it is one for such a list, else
the whole text. -/
inductive Keeps (style : ListStyle) (text : Text) : Text → Prop
  | blank (own : ofItem text = style) (empty : Text.trim text = []) : Keeps style text []
  | marked {mark rest : Text} (own : ofItem text = style) (split : Text.trim text = mark ++ rest)
    (isMark : IsMark style mark) (setOff : isSetOff rest = true) :
    Keeps style text (Text.trim rest)
  | whole (other : ofItem text ≠ style) : Keeps style text (Text.trim text)

section Marks
variable {text rest : Text}

theorem not_digit_of_isBlank {c : Char} (blank : Text.isBlank c = true) :
    Text.isAsciiDigit c = false ∧ c ≠ '.' := by
  constructor
  · by_contra digit
    rw [Bool.not_eq_false] at digit
    have solid := Text.isBlank_of_alphanumeric (c := c) (by simp [Text.isAsciiAlphanumeric, digit])
    rw [blank] at solid
    cases solid
  · rintro rfl
    contradiction

theorem afterNumber_digits {digits : Text} (all : ∀ c ∈ digits, Text.isAsciiDigit c = true)
    (setOff : isSetOff rest = true) :
    afterNumber (digits ++ rest) = rest ∧ afterNumber (digits ++ '.' :: rest) = rest := by
  constructor
  · rw [afterNumber, List.dropWhile_append_of_pos all]
    cases rest with
    | nil => rfl
    | cons c rest =>
      obtain ⟨digit, stop⟩ := not_digit_of_isBlank setOff
      rw [List.dropWhile_cons_of_neg (by simp [digit])]
      split
      · rename_i same
        injection same with first
        contradiction
      · rfl
  · rw [afterNumber, List.dropWhile_append_of_pos all, List.dropWhile_cons_of_neg (by decide)]
    rfl

theorem itemText_marked {style : ListStyle} {mark : Text} (split : Text.trim text = mark ++ rest)
    (isMark : IsMark style mark) (setOff : isSetOff rest = true) :
    style.itemText text = Text.trim rest := by
  cases isMark with
  | bullet isMark =>
    simp only [itemText, bulletText, split, List.cons_append, List.nil_append, isMark, ↓reduceIte]
  | number some all =>
    rw [itemText, numberText, split, (afterNumber_digits all setOff).1]
  | stopped some all =>
    rw [itemText, numberText, split, List.append_assoc, List.cons_append, List.nil_append,
      (afterNumber_digits all setOff).2]

theorem afterNumber_split (t : Text) :
    t = t.takeWhile Text.isAsciiDigit ++ afterNumber t ∨
      t = (t.takeWhile Text.isAsciiDigit ++ ['.']) ++ afterNumber t := by
  have whole := List.takeWhile_append_dropWhile (p := Text.isAsciiDigit) (l := t)
  unfold afterNumber
  split
  · rename_i back stopped
    right
    rw [stopped] at whole
    simp [whole]
  · left
    exact whole.symm

theorem exists_mark {style : ListStyle} (listed : style ≠ .definition) (own : ofItem text = style)
    (some : Text.trim text ≠ []) :
    ∃ mark rest, Text.trim text = mark ++ rest ∧ IsMark style mark ∧ isSetOff rest = true := by
  subst own
  unfold ofItem at listed ⊢
  cases trimmed : Text.trim text with
  | nil => contradiction
  | cons c rest =>
    simp only [trimmed] at listed ⊢
    split
    · rename_i bullet
      rw [Bool.and_eq_true] at bullet
      exact ⟨[c], rest, rfl, .bullet bullet.1, bullet.2⟩
    · split
      · rename_i number
        rw [Bool.and_eq_true] at number
        have some : (c :: rest).takeWhile Text.isAsciiDigit ≠ [] := by
          rw [List.takeWhile_cons_of_pos number.1]
          exact List.cons_ne_nil _ _
        have all := List.all_eq_true.mp
          (List.all_takeWhile (l := c :: rest) (p := Text.isAsciiDigit))
        obtain plain | stopped := afterNumber_split (c :: rest)
        · exact ⟨_, _, plain, .number some all, number.2⟩
        · exact ⟨_, _, stopped, .stopped some all, number.2⟩
      · rename_i bullet number
        simp [bullet, number] at listed

theorem itemText_blank {style : ListStyle} (empty : Text.trim text = [])
    (listed : style ≠ .definition) : style.itemText text = [] := by
  cases style with
  | bullet => rw [itemText, bulletText, empty]
  | number =>
    rw [itemText, numberText, empty]
    rfl
  | definition => contradiction

theorem keeps_iff {style : ListStyle} (listed : style ≠ .definition) {shown : Text} :
    Keeps style text shown ↔
      shown = if ofItem text = style then style.itemText text else Text.trim text := by
  constructor
  · intro keeps
    cases keeps with
    | blank own empty => rw [if_pos own, itemText_blank empty listed]
    | marked own split isMark setOff => rw [if_pos own, itemText_marked split isMark setOff]
    | whole other => rw [if_neg other]
  · rintro rfl
    split
    · rename_i own
      by_cases empty : Text.trim text = []
      · rw [itemText_blank empty listed]
        exact .blank own empty
      · obtain ⟨mark, rest, split, isMark, setOff⟩ := exists_mark listed own empty
        rw [itemText_marked split isMark setOff]
        exact .marked own split isMark setOff
    · rename_i other
      exact .whole other

end Marks

section Whole

theorem afterNumber_shorter {c : Char} (taken : number.takes c = true) (rest : Text) :
    (afterNumber (c :: rest)).length < (c :: rest).length := by
  have whole := afterNumber_split (c :: rest)
  simp only [takes, Bool.or_eq_true, beq_iff_eq] at taken
  obtain digit | rfl := taken
  · rw [List.takeWhile_cons_of_pos digit] at whole
    obtain plain | stopped := whole
    · have size := congrArg List.length plain
      simp only [List.length_append, List.length_cons] at size ⊢
      omega
    · have size := congrArg List.length stopped
      simp only [List.length_append, List.length_cons] at size ⊢
      omega
  · exact Nat.lt_succ_self rest.length

/-- An item shows its whole text just if it does not start like a mark. -/
theorem itemText_eq_trim (style : ListStyle) (listed : style ≠ .definition) (text : Text) :
    style.itemText text = Text.trim text ↔
      ∀ c ∈ (Text.trim text).head?, style.takes c = false := by
  cases trimmed : Text.trim text with
  | nil => simp [itemText_blank trimmed listed]
  | cons c rest =>
    have whole : Text.trim (c :: rest) = c :: rest := by rw [← trimmed, Text.trim_trim]
    simp only [List.head?_cons, Option.mem_some_iff, forall_eq']
    cases style with
    | definition => contradiction
    | bullet =>
      rw [itemText, bulletText, trimmed, takes]
      dsimp only
      split
      · rename_i mark
        have shorter := Text.length_trim_le rest
        constructor
        · intro same
          rw [same, List.length_cons] at shorter
          omega
        · intro other
          rw [mark] at other
          cases other
      · rename_i other
        simp [whole, other]
    | number =>
      rw [itemText, numberText, trimmed]
      constructor
      · intro same
        by_contra taken
        rw [Bool.not_eq_false] at taken
        have shorter := afterNumber_shorter taken rest
        have short := Text.length_trim_le (afterNumber (c :: rest))
        rw [same] at short
        omega
      · intro other
        simp only [takes, Bool.or_eq_false_iff, beq_eq_false_iff_ne] at other
        rw [afterNumber, List.dropWhile_cons_of_neg (by simp [other.1])]
        split
        · rename_i same
          injection same with first
          exact absurd first other.2
        · exact whole

end Whole
end ListStyle

namespace Outline

open PodSite.Markup (Paragraph)

/-- An item of a list with the given style, where `d` items are around that list. -/
def itemInside (d : Nat) (style : ListStyle) (text : Text) : List (Nat × Content) :=
  match style with
  | .bullet => (d, .item false) :: (leadingContents (ListStyle.bulletText text)).map (d + 1, ·)
  | .number => (d, .item true) :: (leadingContents (ListStyle.numberText text)).map (d + 1, ·)
  | .definition => [(d, .term text)]

namespace Builder

def inside (b : Builder) : List (Nat × Content) :=
  Heading.insideAll b.headings.reverse ++ blocksInside 0 (closedLists [] b.lists)

theorem inside_openList (b : Builder) :
    { b with lists := .empty :: b.lists }.inside = b.inside := by
  simp [inside, closedLists_cons_inside, OpenList.empty, OpenList.blocks]

theorem openingBlocks_inside (d : Nat) (t : Text) :
    blocksInside d (openingBlocks t) = (leadingContents t).map (d, ·) := by
  unfold openingBlocks leadingContents
  split
  · rw [blocksInside_nil, List.map_nil]
  · rw [blocksInside_single, blockInside, List.map_singleton]

theorem inside_startItem_listed {b : Builder} {l : OpenList} {outer : List OpenList}
    (listed : b.lists = l :: outer) (text : Text) :
    (b.startItem text).inside =
      b.inside ++ itemInside (itemDepth outer) (styleFor b.styles text) text := by
  have style : l.kindFor text = styleFor b.styles text := by
    rw [styles, listed]
    exact kindFor_eq l outer text
  have added : ∀ (anchors : Anchors) (item : OpenItem),
      { b with anchors := anchors, lists := l.addItem (l.kindFor text) item :: outer }.inside =
        b.inside ++ openItemInside (itemDepth outer) (l.kindFor text) item := by
    intro anchors item
    rw [inside, inside, listed, closedLists_cons_inside, closedLists_cons_inside, addItem_inside,
      List.append_assoc, List.append_assoc]
  rw [← style]
  simp only [startItem, listed]
  cases kind : l.kindFor text with
  | bullet =>
    have step := added b.anchors ⟨[], [], openingBlocks (ListStyle.bulletText text)⟩
    rw [kind] at step
    simpa only [itemInside, openItemInside, startContent, openingBlocks_inside] using step
  | number =>
    have step := added b.anchors ⟨[], [], openingBlocks (ListStyle.numberText text)⟩
    rw [kind] at step
    simpa only [itemInside, openItemInside, startContent, openingBlocks_inside] using step
  | definition =>
    have step := added (b.anchors.issue (Inline.unmarked text)).2
      ⟨text, (b.anchors.issue (Inline.unmarked text)).1, []⟩
    rw [kind] at step
    simpa only [itemInside, openItemInside, startContent, blocksInside_nil] using step

theorem inside_startItem (b : Builder) (text : Text) :
    (b.startItem text).inside =
      b.inside ++ itemInside (itemDepth b.lists.tail) (styleFor b.styles text) text := by
  cases listed : b.lists with
  | cons l outer => exact inside_startItem_listed listed text
  | nil =>
    have same : b.startItem text = { b with lists := .empty :: b.lists }.startItem text := by
      simp only [startItem, listed]
    have item := inside_startItem_listed (b := { b with lists := .empty :: b.lists }) rfl text
    rw [same, item, inside_openList]
    simp [styles, listed, styleFor, OpenList.style?, OpenList.empty]

section Steps
variable {b : Builder} (opened : b.Opened)
include opened

theorem inside_addBlocks (blocks : List Block) :
    (b.addBlocks blocks).inside = b.inside ++ blocksInside (itemDepth b.lists) blocks := by
  obtain ⟨anchors, headings, lists, region⟩ := b
  obtain ⟨h, outer, rfl, childless⟩ := opened
  cases lists with
  | nil =>
    have bare : h.children = [] := childless
    simp [addBlocks, inside, closedLists, Heading.insideAll_cons, Heading.ownInside,
      Heading.addBlocks, bare, itemDepth]
  | cons l lists =>
    simp [addBlocks, inside, closedLists_cons_inside, list_addBlocks_inside,
      itemDepth_cons l lists]

theorem inside_closeList : b.closeList.inside = b.inside := by
  obtain ⟨anchors, headings, lists, region⟩ := b
  cases lists with
  | nil => rfl
  | cons l outer =>
    have left : Opened ⟨anchors, headings, outer, region⟩ := opened
    rw [closeList, inside_addBlocks left, inside, inside, closedLists_cons_inside,
      List.append_assoc]

theorem inside_closeLists : b.closeLists.inside = b.inside := by
  have left : { b with lists := [] }.Opened := opened
  rw [closeLists, inside_addBlocks left, inside, inside]
  simp [closedLists, itemDepth]

theorem inside_startHeading (level : Nat) (title : Text) :
    (b.startHeading level title).inside = b.inside ++ [(0, .title level title)] := by
  have closed := inside_closeLists opened
  have unlisted := lists_closeLists b
  rw [inside, unlisted] at closed
  rw [inside, startHeading]
  simp only [unlisted, List.reverse_cons, Heading.insideAll_append, closeHeadings_inside]
  rw [← closed]
  simp [closedLists, Heading.insideAll_cons, Heading.ownInside, Heading.fresh]

theorem inside_formatParagraph (text : Text) : b.inside <+: (b.formatParagraph text).inside := by
  unfold formatParagraph
  dsimp only
  split
  · rw [inside_addBlocks opened]
    exact List.prefix_append _ _
  · exact List.prefix_refl _

theorem inside_closeRegion : b.inside <+: b.closeRegion.inside := by
  unfold closeRegion
  split
  · dsimp only
    split
    · rw [inside_addBlocks (b := { b with region := none }) opened]
      exact List.prefix_append _ _
    · exact List.prefix_refl _
  · exact List.prefix_refl _

theorem inside_command (name text : Text) : b.inside <+: (b.command name text).inside := by
  unfold command
  split
  · split
    · rw [inside_startHeading opened]
      exact List.prefix_append _ _
    · exact List.prefix_refl _
  · split
    · exact ⟨[], by rw [inside_openList, List.append_nil]⟩
    · split
      · rw [inside_startItem]
        exact List.prefix_append _ _
      · split
        · exact ⟨[], by rw [inside_closeList opened, List.append_nil]⟩
        · split
          · exact List.prefix_refl _
          · split
            · exact inside_formatParagraph opened text
            · exact List.prefix_refl _

theorem inside_add (p : Paragraph) : b.inside <+: (b.add p).inside := by
  cases p with
  | command name text => exact inside_command opened name text
  | verbatim text =>
    rw [add, inside_addBlocks opened]
    exact List.prefix_append _ _
  | prose text =>
    rw [add, inside_addBlocks opened]
    exact List.prefix_append _ _

end Steps

variable {b : Builder}

theorem inside_next (sound : b.Sound) (p : Paragraph) : b.inside <+: (b.next p).inside := by
  have closed := inside_closeRegion sound.opened
  unfold next
  split
  · exact inside_add sound.opened p
  · dsimp only
    split
    · split
      · exact closed
      · split
        · exact closed.trans (inside_add (closeRegion_sound sound).opened _)
        · exact List.prefix_refl _
    · exact List.prefix_refl _

theorem inside_foldl (sound : b.Sound) (ps : List Paragraph) :
    b.inside <+: (ps.foldl next b).inside := by
  induction ps generalizing b with
  | nil => exact List.prefix_refl _
  | cons p ps ih => exact (inside_next sound p).trans (ih (next_sound sound p))

theorem inside_finish (sound : b.Sound) : b.finish.inside = b.closeRegion.inside := by
  have opened := (closeRegion_sound sound).opened
  have lists := inside_closeLists opened
  rw [inside, lists_closeLists, closedLists, blocksInside_nil, List.append_nil] at lists
  have more := (closeLists_sound (closeRegion_sound sound)).opened.ne_nil
  obtain ⟨root, left⟩ := closeHeadings_zero none more
  have ended := closeHeadings_inside 0 none b.closeRegion.closeLists.headings
  rw [left, List.reverse_singleton, Option.toList_none, List.append_nil, lists] at ended
  rw [finish, left]
  exact ended

end Builder

/-- An item in a list of bullets or numbers is read after all that was there before it. The paragraph
it starts with is what the list takes of its text, and this keeps the text unless the item is none
for such a list and starts with a character that marks one. -/
theorem inside_ofParagraphs_item (before : List Paragraph) (text : Text) (after : List Paragraph)
    {b : Builder} {style : ListStyle} (read : before.foldl Builder.next .initial = b)
    (outside : b.region = none) (own : styleFor b.styles text = style)
    (listed : style ≠ .definition) :
    (∃ later : List (Nat × Content),
      (ofParagraphs (before ++ .command "item".toList text :: after)).inside =
        (ofParagraphs before).inside ++ (itemDepth b.lists.tail, .item (style = .number)) ::
          (leadingContents (style.itemText text)).map (itemDepth b.lists.tail + 1, ·) ++ later ∧
      later.map (·.2) = contentsOf (some style :: b.styles.tail) after) ∧
    (style.Keeps text (style.itemText text) ↔
      ListStyle.ofItem text = style ∨ ∀ c ∈ (Text.trim text).head?, style.takes c = false) := by
  constructor
  · have sound : b.Sound := read ▸ Builder.foldl_next_sound Builder.initial_sound before
    have taken : b.next (.command "item".toList text) = b.startItem text := by
      rw [Builder.next, outside]
      rfl
    have started : (b.startItem text).Sound := Builder.startItem_sound sound text
    have grown := Builder.grows_startItem sound.opened text
    have still := grown.region.trans outside
    -- nothing is left to add at the end outside of regions
    have ended : b.finish.inside = b.inside := by
      rw [Builder.inside_finish sound, Builder.closeRegion, outside]
    have ended' : (b.startItem text).finish.inside = (b.startItem text).inside := by
      rw [Builder.inside_finish started, Builder.closeRegion, still]
    have item : itemInside (itemDepth b.lists.tail) style text =
        (itemDepth b.lists.tail, .item (style = .number)) ::
          (leadingContents (style.itemText text)).map (itemDepth b.lists.tail + 1, ·) := by
      cases style with
      | bullet => rfl
      | number => rfl
      | definition => contradiction
    have run := Builder.inside_foldl started after
    have last := Builder.foldl_next_sound started after
    obtain ⟨later, whole⟩ := run.trans (Builder.inside_closeRegion last.opened)
    rw [← Builder.inside_finish last] at whole
    refine ⟨later, ?_, ?_⟩
    · rw [ofParagraphs, List.foldl_append, List.foldl_cons, read, taken, ← whole,
        Builder.inside_startItem, own, item, ofParagraphs, read, ended]
    · have all := Builder.finish_foldl_contents _ after _ grown.opened still grown.styles
      have parts := congrArg (List.map (·.2)) whole
      rw [List.map_append, ← ended', Heading.inside_contents, Heading.inside_contents,
        Heading.titled, Heading.titled, Builder.finish_contents grown.opened still, all,
        List.cons_append, own] at parts
      exact List.append_cancel_left (List.cons.inj parts).2
  · rw [ListStyle.keeps_iff listed]
    split
    · rename_i own
      simp [own]
    · rename_i other
      rw [ListStyle.itemText_eq_trim style listed]
      simp [other]

def nestedItems : List Paragraph :=
  [.command "over".toList [], .command "item".toList "* one".toList, .command "over".toList [],
    .command "item".toList "1. deep".toList]

theorem inside_ofParagraphs_item_nested :
    (∃ later : List (Nat × Content),
      (ofParagraphs (nestedItems ++ [.command "item".toList "2. deeper".toList,
        .command "back".toList []])).inside =
        (ofParagraphs nestedItems).inside ++
          [(1, .item true), (2, .paragraph "deeper".toList)] ++ later ∧
      later.map (·.2) = contentsOf [some .number, some .bullet] [.command "back".toList []]) ∧
    ListStyle.Keeps .number "2. deeper".toList "deeper".toList := by
  have item := inside_ofParagraphs_item nestedItems "2. deeper".toList [.command "back".toList []]
    rfl rfl rfl (by decide)
  exact ⟨item.1, item.2.mpr (.inl rfl)⟩

/-- In a list of bullets an option loses its dash, though it is no bullet. -/
theorem option_loses_dash :
    (ofParagraphs [.command "over".toList [], .command "item".toList "* one".toList,
      .command "item".toList "-verbose".toList]).inside =
      [(0, .title 0 []), (0, .item false), (1, .paragraph "one".toList), (0, .item false),
        (1, .paragraph "verbose".toList)] ∧
    ¬ ListStyle.Keeps .bullet "-verbose".toList "verbose".toList := by
  constructor
  · have outline : ofParagraphs [.command "over".toList [], .command "item".toList "* one".toList,
        .command "item".toList "-verbose".toList] =
        ⟨0, [], [], [.list false [[.paragraph "one".toList], [.paragraph "verbose".toList]]], []⟩ :=
      rfl
    rw [outline, Heading.inside, Heading.insideAll_cons, Heading.insideAll_nil, Heading.ownInside]
    simp [blocksInside, blockInside, itemsInside]
  · rw [ListStyle.keeps_iff (by decide)]
    decide +kernel

end Outline
end PodSite
