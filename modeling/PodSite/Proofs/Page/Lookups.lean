import PodSite.Page.Frame

/-!
What a page takes from the references: nothing but where each name leads. Two maps with the same
answers make the same pages.
-/
namespace PodSite

namespace Inline

structure Setting.Alike (s s' : Setting) : Prop where
  ownName : s'.ownName = s.ownName
  hrefs : ∀ name, s'.hrefOf? name = s.hrefOf? name

variable {s s' : Setting}

theorem running_alike (alike : s.Alike s') (mode : Mode) (t : Text) :
    running s' mode t = running s mode t := by
  have piece : pieceHtml s' mode = pieceHtml s mode := by
    funext p
    cases p with
    | plain t => rfl
    | name n => rw [pieceHtml, pieceHtml, alike.hrefs]
  rw [running, running, piece]

mutual
theorem nodeHtml_alike (alike : s.Alike s') (link : Mode → Text → List Html)
    (textOf : Text → Text) :
    (node : Inline) → (mode : Mode) →
      nodeHtml s' link textOf mode node = nodeHtml s link textOf mode node
  | text t, mode => by rw [nodeHtml, nodeHtml, running_alike alike]
  | character t, mode => by rw [nodeHtml, nodeHtml]
  | entity name, mode => by rw [nodeHtml, nodeHtml]
  | .link raw, mode => by rw [nodeHtml, nodeHtml]
  | styled .bold content, mode => by
    rw [nodeHtml, nodeHtml, nodesHtml_alike alike link textOf content]
  | styled .italic content, mode => by
    rw [nodeHtml, nodeHtml, nodesHtml_alike alike link textOf content]
  | styled .file content, mode => by
    rw [nodeHtml, nodeHtml, nodesHtml_alike alike link textOf content]
  | styled .unbroken content, mode => by
    rw [nodeHtml, nodeHtml, nodesHtml_alike alike link textOf content]
  | styled .code content, mode => by
    rw [nodeHtml, nodeHtml, nodesHtml_alike alike link textOf content, alike.hrefs]
theorem nodesHtml_alike (alike : s.Alike s') (link : Mode → Text → List Html)
    (textOf : Text → Text) :
    (nodes : List Inline) → (mode : Mode) →
      nodesHtml s' link textOf mode nodes = nodesHtml s link textOf mode nodes
  | [], mode => by rw [nodesHtml, nodesHtml]
  | node :: rest, mode => by
    rw [nodesHtml, nodesHtml, nodeHtml_alike alike link textOf node,
      nodesHtml_alike alike link textOf rest]
end

theorem targetHref?_alike (alike : s.Alike s') (plain : Text → Text) (target : Target) :
    targetHref? s' plain target = targetHref? s plain target := by
  cases target with
  | url address => rfl
  | page name part => simp only [targetHref?, alike.ownName, alike.hrefs]

theorem linkHtml_alike (alike : s.Alike s') (depth : Nat) :
    linkHtml s' depth = linkHtml s depth := by
  induction depth with
  | zero => rfl
  | succ depth ih =>
    funext mode raw
    simp only [linkHtml, ih, nodesHtml_alike alike, targetHref?_alike alike]

theorem html_alike (alike : s.Alike s') (t : Text) : html s' t = html s t := by
  rw [html, html, linkHtml_alike alike, nodesHtml_alike alike]

end Inline

namespace Page
open Inline (html_alike)

section Body
variable {s s' : Inline.Setting}

mutual
theorem blockHtml_alike (alike : s.Alike s') : (b : Block) → blockHtml s' b = blockHtml s b
  | .paragraph t => by rw [blockHtml, blockHtml, html_alike alike]
  | .verbatim t => by rw [blockHtml, blockHtml]
  | .list ordered items => by rw [blockHtml, blockHtml, itemsHtml_alike alike items]
  | .definitions entries => by rw [blockHtml, blockHtml, entriesHtml_alike alike entries]
  | .html t => by rw [blockHtml, blockHtml]
theorem blocksHtml_alike (alike : s.Alike s') :
    (blocks : List Block) → blocksHtml s' blocks = blocksHtml s blocks
  | [] => by rw [blocksHtml, blocksHtml]
  | b :: rest => by
    rw [blocksHtml, blocksHtml, blockHtml_alike alike b, blocksHtml_alike alike rest]
theorem itemsHtml_alike (alike : s.Alike s') :
    (items : List (List Block)) → itemsHtml s' items = itemsHtml s items
  | [] => by rw [itemsHtml, itemsHtml]
  | item :: rest => by
    rw [itemsHtml, itemsHtml, itemsHtml_alike alike rest, blocksHtml_alike alike item]
    simp only [html_alike alike]
theorem entriesHtml_alike (alike : s.Alike s') :
    (entries : List (Text × Text × List Block)) → entriesHtml s' entries = entriesHtml s entries
  | [] => by rw [entriesHtml, entriesHtml]
  | (term, anchor, blocks) :: rest => by
    rw [entriesHtml, entriesHtml, html_alike alike, blocksHtml_alike alike blocks,
      entriesHtml_alike alike rest]
end

theorem headingsHtml_alike (alike : s.Alike s') (assets : Text) :
    (headings : List Heading) → headingsHtml s' assets headings = headingsHtml s assets headings
  | [] => by rw [headingsHtml, headingsHtml]
  | ⟨level, anchor, title, blocks, children⟩ :: rest => by
    rw [headingsHtml, headingsHtml, html_alike alike, blocksHtml_alike alike,
      headingsHtml_alike alike assets children, headingsHtml_alike alike assets rest]

theorem body_alike (alike : s.Alike s') (assets : Text) (root : Heading) :
    body s' assets root = body s assets root := by
  rw [body, body, bodyHtml, bodyHtml, blocksHtml_alike alike, headingsHtml_alike alike]

end Body

/-- Maps with the same answers make the same pages. -/
theorem render_lookups {r r' : References} (same : ∀ name, r'.resolve? name = r.resolve? name)
    (g : Group) (d : Document) (project : Project) (source : Text) :
    render g d r' project source = render g d r project source := by
  have alike : Inline.Setting.Alike ⟨r, d.output, d.name⟩ ⟨r', d.output, d.name⟩ := by
    refine ⟨rfl, fun name => ?_⟩
    simp only [Inline.Setting.hrefOf?, same]
  simp only [render, body_alike alike]

end Page
end PodSite
