import PodSite.Text.Utf8

/-!
The stylesheet and the picture that every page refers to.
-/
namespace PodSite.Site

structure Asset where
  name : Text
  content : Text

def styleLines : List String :=
  [ ":root \x7b",
    "  --fg: #1d1d1f;",
    "  --muted: #6e6e73;",
    "  --accent: #0b5cad;",
    "  --rule: #e2e2e6;",
    "  --code-bg: #f5f5f7;",
    "\x7d",
    "",
    "body \x7b",
    "  margin: 0;",
    "  color: var(--fg);",
    "  font: 16px/1.55 -apple-system, \"Segoe UI\", Helvetica, Arial, sans-serif;",
    "\x7d",
    "",
    "a \x7b color: var(--accent); text-decoration: none; \x7d",
    "a:hover \x7b text-decoration: underline; \x7d",
    "",
    ".page-header \x7b",
    "  display: flex;",
    "  gap: 1rem;",
    "  align-items: baseline;",
    "  padding: 0.75rem 1.5rem;",
    "  border-bottom: 1px solid var(--rule);",
    "\x7d",
    "",
    ".page-header .module-name \x7b",
    "  font-family: ui-monospace, Menlo, Consolas, monospace;",
    "  color: var(--muted);",
    "\x7d",
    "",
    ".page-header .source-link \x7b margin-left: auto; \x7d",
    "",
    ".page \x7b",
    "  display: flex;",
    "  gap: 2rem;",
    "  max-width: 72rem;",
    "  margin: 0 auto;",
    "  padding: 1.5rem;",
    "\x7d",
    "",
    ".sidebar \x7b",
    "  flex: 0 0 15rem;",
    "  font-size: 0.9rem;",
    "\x7d",
    "",
    ".sidebar h3 \x7b",
    "  font-size: 0.8rem;",
    "  text-transform: uppercase;",
    "  letter-spacing: 0.05em;",
    "  color: var(--muted);",
    "\x7d",
    "",
    ".toc-list, .definitions ul \x7b",
    "  list-style: none;",
    "  margin: 0;",
    "  padding-left: 0.75rem;",
    "\x7d",
    "",
    ".content \x7b flex: 1; min-width: 0; \x7d",
    "",
    "h1, h2, h3, h4, h5, h6 \x7b line-height: 1.25; \x7d",
    "",
    ".toplink \x7b margin-left: 0.4rem; opacity: 0.35; \x7d",
    ".toplink:hover \x7b opacity: 1; \x7d",
    ".toplink img \x7b width: 0.7em; height: 0.7em; border: 0; \x7d",
    "",
    "code, pre \x7b",
    "  font-family: ui-monospace, Menlo, Consolas, monospace;",
    "  font-size: 0.9em;",
    "\x7d",
    "",
    "code \x7b background: var(--code-bg); padding: 0.1em 0.3em; border-radius: 3px; \x7d",
    "",
    "pre \x7b",
    "  background: var(--code-bg);",
    "  padding: 0.75rem 1rem;",
    "  overflow-x: auto;",
    "  border-radius: 4px;",
    "\x7d",
    "",
    "em.file \x7b font-style: normal; font-family: ui-monospace, Menlo, Consolas, monospace; \x7d",
    "",
    "dt \x7b font-weight: 600; margin-top: 0.75rem; \x7d",
    "dd \x7b margin-left: 1.5rem; \x7d",
    "",
    ".index-group h2 \x7b border-bottom: 1px solid var(--rule); padding-bottom: 0.25rem; \x7d",
    ".index-group ul \x7b list-style: none; padding: 0; \x7d",
    ".index-group li \x7b padding: 0.15rem 0; \x7d",
    ".index-group .record-title \x7b color: var(--muted); margin-left: 0.5rem; \x7d",
    "",
    ".byline \x7b",
    "  max-width: 72rem;",
    "  margin: 0 auto;",
    "  padding: 1rem 1.5rem;",
    "  border-top: 1px solid var(--rule);",
    "  color: var(--muted);",
    "  font-size: 0.85rem;",
    "\x7d"]

def stylesheet : Asset :=
  ⟨"podstyle.css".toList, styleLines.flatMap fun line => line.toList ++ ['\n']⟩

def upArrow : Asset :=
  ⟨"up.svg".toList,
    "<svg xmlns=\"http://www.w3.org/2000/svg\" width=\"12\" height=\"12\" ".toList ++
      "viewBox=\"0 0 12 12\"><path d=\"M6 2 L11 9 L1 9 Z\" fill=\"currentColor\"/></svg>\n".toList⟩

def assets : List Asset := [stylesheet, upArrow]

end PodSite.Site
