import PodSite.Json
import PodSite.Navigation
import PodSite.Page.Frame

/-!
The index of a site: a page that links to every document, and the same in JSON.
-/
namespace PodSite.Site

def entryItem (r : NavigationEntry) : Text :=
  "<li><a href=\"".toList ++ Html.escapeFrame r.href ++ "\">".toList ++ Html.escapeFrame r.name ++
    "</a>".toList ++
    (if r.title = r.name then []
      else
        "<span class=\"record-title\">".toList ++ Html.escapeFrame r.title ++ "</span>".toList) ++
    "</li>\n      ".toList

def sectionText (g : NavigationSection) : Text :=
  "\n  <section class=\"index-group\">\n    <h2>".toList ++ Html.escapeFrame g.description ++
    "</h2>\n    <ul>\n      ".toList ++ g.entries.flatMap entryItem ++
    "\n    </ul>\n  </section>\n  ".toList

def indexPage (project : Project) (nav : Navigation) : Text :=
  let title :=
    if project.title.isEmpty then "Documentation".toList else Html.escapeFrame project.title
  "<!DOCTYPE html>\n<html lang=\"".toList ++ Html.escapeFrame project.language ++
    "\">\n<head>\n  <meta charset=\"utf-8\">\n".toList ++
    "  <meta name=\"viewport\" content=\"width=device-width, initial-scale=1\">\n".toList ++
    "  <title>".toList ++ title ++
    "</title>\n  <link rel=\"stylesheet\" href=\"podstyle.css\">\n</head>\n".toList ++
    "<body>\n<header class=\"page-header\">\n  <span class=\"home-link\">".toList ++ title ++
    "</span>\n</header>\n<main class=\"content index\">\n  ".toList ++
    (if project.description.isEmpty then []
      else
        "<p class=\"description\">".toList ++ Html.escapeFrame project.description ++
          "</p>".toList) ++
    "\n  ".toList ++ nav.flatMap sectionText ++ "\n</main>\n</body>\n</html>".toList

def entryJson (r : NavigationEntry) : Json :=
  .object
    [ ("group_description".toList, .string r.groupDescription), ("path".toList, .string r.path),
      ("name".toList, .string r.name), ("title".toList, .string r.title)]

def sectionJson (g : NavigationSection) : Json :=
  .object
    [ ("description".toList, .string g.description),
      ("records".toList, .array (g.entries.map entryJson))]

def navigationJson (project : Project) (nav : Navigation) : Json :=
  .object
    [ ("title".toList, .string project.title), ("description".toList, .string project.description),
      ("groups".toList, .array (nav.map sectionJson))]

def indexJson (project : Project) (nav : Navigation) : Text :=
  (navigationJson project nav).pretty ++ ['\n']

end PodSite.Site
