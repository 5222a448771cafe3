import PodSite.Html.Basic
import PodSite.Outline.Basic

/-!
The table of contents of a page: nested lists of links to its headings.
-/
namespace PodSite.Page

def contentsLink (h : Heading) : Html :=
  .element .anchor [⟨"href".toList, '#' :: Html.escape h.anchor⟩] [.text h.titleText]

def contentsList (items : List Html) : Html :=
  .element .unorderedList [⟨"class".toList, "toc-list".toList⟩] items

def contentsItems : List Heading → List Html
  | [] => []
  | ⟨level, anchor, title, blocks, children⟩ :: rest =>
    let nested := if children.isEmpty then [] else [contentsList (contentsItems children)]
    .element .listItem [⟨"class".toList, "toc-level-".toList ++ Text.decimal level⟩]
        (contentsLink ⟨level, anchor, title, blocks, children⟩ :: nested) ::
      contentsItems rest

def contents? (root : Heading) : Option Text :=
  if root.children.isEmpty then none
  else
    some (Html.writeNode (.element .navigation [⟨"class".toList, "toc-nav".toList⟩]
      [.plain (.heading 3) [.text "Contents".toList], contentsList (contentsItems root.children)]))

end PodSite.Page
