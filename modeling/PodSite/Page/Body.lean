import PodSite.Inline.Render
import PodSite.Outline.Basic

/-!
The body of a page: headings with anchors, and the blocks under them.
-/
namespace PodSite.Page

/-- A text with tabs as eight spaces, without the indentation that all lines with text share. -/
def outdent (t : Text) : Text :=
  let lines := Text.lines (Text.replaceChar '\t' (List.replicate 8 ' ') t)
  let indentOf (line : Text) : Nat := (line.takeWhile (· == ' ')).length
  let indents := (lines.filter fun l => !Text.isAllBlank l).map indentOf
  let indent := indents.min?.getD 0
  ['\n'].intercalate (lines.map fun l => l.drop (min (indentOf l) indent))

def anchorAttributes (anchor : Text) : List Attribute :=
  [⟨"id".toList, Html.escape anchor⟩, ⟨"name".toList, Html.escape anchor⟩]

/-- A paragraph on its own is shown in a list item without an element around it. -/
def lone? : List Block → Option Text
  | [.paragraph t] => some t
  | _ => none

mutual
def blockHtml (s : Inline.Setting) : Block → List Html
  | .paragraph t => [.plain .paragraph (Inline.html s (Text.trim t)), .newline]
  | .verbatim t => [.plain .preformatted [.text (outdent t)], .newline]
  | .list ordered items =>
    let tag := if ordered then Tag.orderedList else .unorderedList
    [.plain tag (.newline :: itemsHtml s items), .newline]
  | .definitions entries =>
    [.plain .definitionList (.newline :: entriesHtml s entries), .newline]
  | .html t => [.raw t, .newline]
def blocksHtml (s : Inline.Setting) : List Block → List Html
  | [] => []
  | b :: rest => blockHtml s b ++ blocksHtml s rest
def itemsHtml (s : Inline.Setting) : List (List Block) → List Html
  | [] => []
  | item :: rest =>
    let content := match lone? item with
      | some t => Inline.html s (Text.trim t)
      | none => blocksHtml s item
    .plain .listItem content :: .newline :: itemsHtml s rest
def entriesHtml (s : Inline.Setting) : List (Text × Text × List Block) → List Html
  | [] => []
  | (term, anchor, blocks) :: rest =>
    .element .term (anchorAttributes anchor) (Inline.html s term) :: .newline ::
      .plain .description (blocksHtml s blocks) :: .newline :: entriesHtml s rest
end

def topLink (assets : Text) : Html :=
  .element .anchor [⟨"href".toList, "#TOP".toList⟩, ⟨"class".toList, "toplink".toList⟩]
    [.image [⟨"alt".toList, ['^']⟩, ⟨"src".toList, assets ++ "up.svg".toList⟩]]

def headingsHtml (s : Inline.Setting) (assets : Text) : List Heading → List Html
  | [] => []
  | ⟨level, anchor, title, blocks, children⟩ :: rest =>
    .element (.heading (max 1 (min level 6))) (anchorAttributes anchor)
        (Inline.html s title ++ [topLink assets]) ::
      .newline :: (blocksHtml s blocks ++ headingsHtml s assets children ++
        headingsHtml s assets rest)

def bodyHtml (s : Inline.Setting) (assets : Text) (root : Heading) : List Html :=
  blocksHtml s root.blocks ++ headingsHtml s assets root.children

def body (s : Inline.Setting) (assets : Text) (root : Heading) : Text :=
  Html.write (bodyHtml s assets root)

end PodSite.Page
