import PodSite.Anchors
import PodSite.Markup.Paragraph
import PodSite.Outline.Basic
import PodSite.Outline.Item
import PodSite.Text.Number

/-!
From paragraphs to an outline. Headings nest by level, lists by their commands, and everything else
goes to the innermost open place. A heading closes all lists.
-/
namespace PodSite.Outline

open PodSite.Markup (Paragraph Placement)

/-- An item of a list that is open. Only the items of a definition list have a term and an anchor.
-/
structure OpenItem where
  term : Text
  anchor : Text
  blocks : List Block

structure OpenItems where
  kind : ListStyle
  finished : List OpenItem
  last : OpenItem

structure OpenList where
  /-- The blocks in front of the first item. -/
  loose : List Block
  items : Option OpenItems

structure OutputRegion where
  isHtml : Bool
  texts : List Text

structure Builder where
  anchors : Anchors
  /-- The open headings, innermost first; the last one is the root. -/
  headings : List Heading
  /-- The open lists, innermost first. -/
  lists : List OpenList
  region : Option OutputRegion

namespace OpenItems

def all (items : OpenItems) : List OpenItem := items.finished ++ [items.last]

def block (items : OpenItems) : Block :=
  match items.kind with
  | .definition => .definitions (items.all.map fun i => (i.term, i.anchor, i.blocks))
  | .bullet => .list false (items.all.map (·.blocks))
  | .number => .list true (items.all.map (·.blocks))

def addBlocks (items : OpenItems) (blocks : List Block) : OpenItems :=
  { items with last := { items.last with blocks := items.last.blocks ++ blocks } }

end OpenItems

namespace OpenList

def empty : OpenList := ⟨[], none⟩

def addBlocks (l : OpenList) (blocks : List Block) : OpenList :=
  match l.items with
  | some items => { l with items := some (items.addBlocks blocks) }
  | none => { l with loose := l.loose ++ blocks }

/-- Starts a new item. The first one decides the kind of the list. -/
def addItem (l : OpenList) (kind : ListStyle) (item : OpenItem) : OpenList :=
  match l.items with
  | some items => { l with items := some ⟨items.kind, items.all, item⟩ }
  | none => { l with items := some ⟨kind, [], item⟩ }

def kindFor (l : OpenList) (t : Text) : ListStyle :=
  match l.items with
  | some items => items.kind
  | none => .ofItem t

def blocks (l : OpenList) : List Block := l.loose ++ (l.items.map OpenItems.block).toList

end OpenList

/-- The blocks left of open lists when all of them end, where the innermost is given `inner`. -/
def closedLists (inner : List Block) : List OpenList → List Block
  | [] => inner
  | l :: outer => closedLists (l.addBlocks inner).blocks outer

def attach (child : Option Heading) (h : Heading) : Heading :=
  match child with
  | some c => h.addChild c
  | none => h

/-- Ends the open headings of at least the given level; `child` is the one that ended last. The root
stays open. -/
def closeHeadings (level : Nat) (child : Option Heading) : List Heading → List Heading
  | [] => child.toList
  | [root] => [attach child root]
  | h :: outer =>
    if level ≤ h.level then closeHeadings level (some (attach child h)) outer
    else attach child h :: outer

def isPageFormat (name : Text) : Bool :=
  Text.sameAsciiLetters (name.dropWhile (· == ':')) "html".toList

def headingLevel? (digits : Text) : Option Nat :=
  (Text.number? 10 digits).filter fun n => 0 < n && n < 256

def openingBlocks (t : Text) : List Block := if t.isEmpty then [] else [.paragraph t]

namespace Builder

def initial : Builder := ⟨.empty, [.root], [], none⟩

def addBlocks (b : Builder) (blocks : List Block) : Builder :=
  match b.lists, b.headings with
  | l :: outer, _ => { b with lists := l.addBlocks blocks :: outer }
  | [], h :: outer => { b with headings := h.addBlocks blocks :: outer }
  | [], [] => b

def closeList (b : Builder) : Builder :=
  match b.lists with
  | l :: outer => { b with lists := outer }.addBlocks l.blocks
  | [] => b

def closeLists (b : Builder) : Builder :=
  { b with lists := [] }.addBlocks (closedLists [] b.lists)

/-- Ends the format region, which leaves a block if its format is that of the page. -/
def closeRegion (b : Builder) : Builder :=
  match b.region with
  | some region =>
    let b := { b with region := none }
    if region.isHtml && !region.texts.isEmpty then
      b.addBlocks [.html ("\n\n".toList.intercalate region.texts)]
    else b
  | none => b

def startHeading (b : Builder) (level : Nat) (title : Text) : Builder :=
  let b := b.closeLists
  let (anchor, anchors) := b.anchors.issue (Inline.unmarked title)
  { b with
    anchors := anchors
    headings := Heading.fresh level anchor title :: closeHeadings level none b.headings }

def startItem (b : Builder) (text : Text) : Builder :=
  let (l, outer) := match b.lists with
    | l :: outer => (l, outer)
    | [] => (OpenList.empty, [])
  let kind := l.kindFor text
  match kind with
  | .bullet =>
    let item := ⟨[], [], openingBlocks (ListStyle.bulletText text)⟩
    { b with lists := l.addItem kind item :: outer }
  | .number =>
    let item := ⟨[], [], openingBlocks (ListStyle.numberText text)⟩
    { b with lists := l.addItem kind item :: outer }
  | .definition =>
    let (anchor, anchors) := b.anchors.issue (Inline.unmarked text)
    { b with anchors := anchors, lists := l.addItem kind ⟨text, anchor, []⟩ :: outer }

def formatParagraph (b : Builder) (text : Text) : Builder :=
  let (format, content) := (Text.splitOnce? Text.isBlank text).getD (text, [])
  if isPageFormat format then b.addBlocks [.html (Text.trim content)] else b

def startRegion (b : Builder) (text : Text) : Builder :=
  { b with region := some ⟨isPageFormat ((Text.words text).headD []), []⟩ }

def command (b : Builder) (name text : Text) : Builder :=
  match Text.dropPrefix? "head".toList name with
  | some digits =>
    match headingLevel? digits with
    | some level => b.startHeading level text
    | none => b
  | none =>
    if name = "over".toList then { b with lists := .empty :: b.lists }
    else if name = "item".toList then b.startItem text
    else if name = "back".toList then b.closeList
    else if name = "begin".toList then b.startRegion text
    else if name = "for".toList then b.formatParagraph text
    else b

def add (b : Builder) : Paragraph → Builder
  | .command name text => b.command name text
  | .verbatim text => b.addBlocks [.verbatim text]
  | .prose text => b.addBlocks [.paragraph text]

def regionText : Paragraph → Text
  | .command name text => '=' :: name ++ ' ' :: text
  | .verbatim text => text
  | .prose text => text

/-- Takes the next paragraph. A format region ends at its end command and at every heading. -/
def next (b : Builder) (p : Paragraph) : Builder :=
  match b.region with
  | none => b.add p
  | some region =>
    let texts := region.texts ++ [regionText p]
    let buffered := { b with region := some { region with texts := texts } }
    match p with
    | .command name _ =>
      if name = "end".toList then b.closeRegion
      else if (Text.dropPrefix? "head".toList name).isSome then b.closeRegion.add p
      else buffered
    | _ => buffered

def finish (b : Builder) : Heading :=
  (closeHeadings 0 none b.closeRegion.closeLists.headings).headD .root

end Builder

def ofParagraphs (ps : List Paragraph) : Heading := (ps.foldl Builder.next .initial).finish

def ofSource (placement : Placement) (source : Text) : Heading :=
  ofParagraphs (Markup.paragraphs (Markup.ofSource placement source))

end PodSite.Outline
