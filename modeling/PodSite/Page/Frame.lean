import PodSite.Document
import PodSite.Outline.Build
import PodSite.Page.Body
import PodSite.Page.Contents

/-!
Whole pages: the frame around a body, with its header, sidebar and footer.
-/
namespace PodSite

structure Project where
  title : Text
  description : Text
  language : Text
deriving DecidableEq, Repr

namespace Page

structure Frame where
  project : Project
  title : Text
  name : Text
  rootHref : Text
  copyHref : Option Text
  contents : Option Text
  definitions : List DefinedName
  definitionsLabel : Text
  body : Text

def unlessEmpty (t : Text) (shown : Text) : Text := if t.isEmpty then [] else shown

def definitionsList (label : Text) (entries : List DefinedName) : Text :=
  if entries.isEmpty then []
  else
    "\n    <nav class=\"definitions\">\n      <h3>".toList ++ Html.escapeFrame label ++
      "</h3>\n      <ul>\n        ".toList ++
      entries.flatMap (fun e =>
        "<li><a href=\"#".toList ++ Html.escapeFrame e.anchor ++ "\">".toList ++
          Html.escapeFrame e.name ++ "</a></li>\n        ".toList) ++
      "\n      </ul>\n    </nav>\n    ".toList

namespace Frame

def head (f : Frame) : Text :=
  let title := Html.escapeFrame f.project.title
  let description := Html.escapeFrame f.project.description
  "<!DOCTYPE html>\n<html lang=\"".toList ++ Html.escapeFrame f.project.language ++
    "\">\n<head>\n  <meta charset=\"utf-8\">\n".toList ++
    "  <meta name=\"viewport\" content=\"width=device-width, initial-scale=1\">\n".toList ++
    "  <title>".toList ++ Html.escapeFrame f.title ++ unlessEmpty title (" | ".toList ++ title) ++
    "</title>\n  ".toList ++
    unlessEmpty description
      ("<meta name=\"description\" content=\"".toList ++ description ++ "\">".toList) ++
    "\n  <link rel=\"stylesheet\" href=\"".toList ++ Html.escapeFrame f.rootHref ++
    "podstyle.css\">\n</head>\n".toList

def header (f : Frame) : Text :=
  "<body>\n<a name=\"TOP\" id=\"TOP\"></a>\n<header class=\"page-header\">\n".toList ++
    "  <a class=\"home-link\" href=\"".toList ++ Html.escapeFrame f.rootHref ++
    "index.html\">".toList ++
    (if f.project.title.isEmpty then "Index".toList else Html.escapeFrame f.project.title) ++
    "</a>\n  <span class=\"module-name\">".toList ++ Html.escapeFrame f.name ++
    "</span>\n  ".toList ++
    (match f.copyHref with
      | some href =>
        "<a class=\"source-link\" href=\"".toList ++ Html.escapeFrame href ++ "\">Source</a>".toList
      | none => []) ++
    "\n</header>\n".toList

def footer (f : Frame) : Text :=
  let title := Html.escapeFrame f.project.title
  let description := Html.escapeFrame f.project.description
  unlessEmpty title
      ("<footer class=\"byline\">".toList ++ title ++
        unlessEmpty description (": ".toList ++ description) ++ "</footer>".toList) ++
    "\n</body>\n</html>".toList

def write (f : Frame) : Text :=
  f.head ++ f.header ++ "<div class=\"page\">\n  <aside class=\"sidebar\">\n    ".toList ++
    f.contents.getD [] ++ "\n    ".toList ++ definitionsList f.definitionsLabel f.definitions ++
    "\n  </aside>\n  <main class=\"content\">\n".toList ++ f.body ++
    "\n  </main>\n</div>\n".toList ++
    f.footer

end Frame

def titleOf (d : Document) (root : Heading) : Text := root.documentTitle?.getD d.name

def title (g : Group) (d : Document) (source : Text) : Text :=
  titleOf d (Outline.ofSource g.placement source)

def render (g : Group) (d : Document) (references : References) (project : Project)
    (source : Text) : Text × Text :=
  let root := Outline.ofSource g.placement source
  let title := titleOf d root
  let frame : Frame := {
    project := project
    title := title
    name := d.name
    rootHref := d.rootHref
    copyHref := d.copyHref?
    contents := contents? root
    definitions := (g.definitions.map fun rule => rule.entries root).getD []
    definitionsLabel := (g.definitions.map (·.label)).getD []
    body := body ⟨references, d.output, d.name⟩ d.rootHref root }
  (title, frame.write)

end Page
end PodSite
