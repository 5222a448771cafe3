import PodSite.Html.Basic
import PodSite.Href
import PodSite.Inline.Link
import PodSite.Inline.ModuleName
import PodSite.Inline.References
import PodSite.Slug

/-!
Inline markup as part of a page. Names of known modules become links, and no link stands inside
another.
-/
namespace PodSite.Inline

structure Setting where
  references : References
  /-- The output path of the page. -/
  here : Path
  /-- The name of the module the page is about. -/
  ownName : Text

structure Mode where
  inCode : Bool
  inLink : Bool
  unbroken : Bool

def Mode.outside : Mode := ⟨false, false, false⟩

/-- Text in its place: spaces that must not break a line are written as references. -/
def words (mode : Mode) (t : Text) : List Html :=
  if mode.unbroken then
    t.map fun c => if c = ' ' then .reference "nbsp".toList else .text [c]
  else [.text t]

/-- The reference from the page to that of a module; none for the module's own page. -/
def Setting.hrefOf? (s : Setting) (name : Text) : Option Text :=
  if name = s.ownName then none else (s.references.resolve? name).map (Href.relative s.here)

def anchorTo (href : Text) (content : List Html) : Html :=
  .element .anchor [⟨"href".toList, Html.escape href⟩] content

def pieceHtml (s : Setting) (mode : Mode) : ModuleName.Piece → List Html
  | .plain t => words mode t
  | .name n =>
    match s.hrefOf? n with
    | some href => [anchorTo href (words mode n)]
    | none => [.plain .code (words mode n)]

def running (s : Setting) (mode : Mode) (t : Text) : List Html :=
  (ModuleName.pieces none 0 t).flatMap (pieceHtml s mode)

mutual
def nodeHtml (s : Setting) (link : Mode → Text → List Html) (textOf : Text → Text) :
    Mode → Inline → List Html
  | mode, .text t => if mode.inCode || mode.inLink then words mode t else running s mode t
  | mode, .character t => words mode t
  | _, .entity name => [.reference name]
  | mode, .link raw => link mode raw
  | mode, .styled style content =>
    match style with
    | .bold => [.plain .strong (nodesHtml s link textOf mode content)]
    | .italic => [.plain .emphasis (nodesHtml s link textOf mode content)]
    | .file =>
      [.element .emphasis [⟨"class".toList, "file".toList⟩] (nodesHtml s link textOf mode content)]
    | .unbroken => nodesHtml s link textOf { mode with unbroken := true } content
    | .code =>
      let shown := Html.plain .code (nodesHtml s link textOf { mode with inCode := true } content)
      let name := contentText textOf content
      if !mode.inLink && ModuleName.isQualified name then
        match s.hrefOf? name with
        | some href => [anchorTo href [shown]]
        | none => [shown]
      else [shown]
def nodesHtml (s : Setting) (link : Mode → Text → List Html) (textOf : Text → Text) :
    Mode → List Inline → List Html
  | _, [] => []
  | mode, node :: rest => nodeHtml s link textOf mode node ++ nodesHtml s link textOf mode rest
end

def targetHref? (s : Setting) (plain : Text → Text) : Target → Option Text
  | .url address => some address
  | .page name part =>
    let fragment := part.map fun p => '#' :: Slug.ofText (plain p)
    if name = [] ∨ name = s.ownName then fragment
    else (s.hrefOf? name).map (· ++ fragment.getD [])

/-- A link. Inside another link only its label is left. Labels are read again, at most `depth` links
deep. -/
def linkHtml (s : Setting) : (depth : Nat) → Mode → Text → List Html
  | 0, mode, raw => words mode raw
  | depth + 1, mode, raw =>
    let link := Link.ofText raw
    let inner := { mode with inLink := true }
    let label :=
      match link.label with
      | some t => nodesHtml s (linkHtml s depth) (linkText depth) inner (parse t)
      | none => words inner (link.shown (unmarkedWithin depth))
    if mode.inLink then label
    else
      match targetHref? s (unmarkedWithin depth) link.target with
      | some href => [anchorTo href label]
      | none => if link.label.isSome then label else [.plain .code label]

def html (s : Setting) (t : Text) : List Html :=
  nodesHtml s (linkHtml s t.length) (linkText t.length) .outside (parse t)

def render (s : Setting) (t : Text) : Text := Html.write (html s t)

end PodSite.Inline
