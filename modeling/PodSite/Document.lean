import PodSite.Group

/-!
Documents: source files with the places of their pages. Pages and copies of sources stay below the
output root.

The page of a document, its name and the patterns that exclude it go by the text of its path, the
copy by the path itself. For names that are texts this is the same; a name that is not valid UTF-8,
which no tree has, becomes another one as a text, and the pages of two such files may be one.
-/
namespace PodSite

structure Document where
  source : Path
  /-- The names from the library root down to the source. -/
  relative : List Text
  name : Text
  /-- The path of the page. -/
  output : Path
  /-- The path of the page below the output root. -/
  outputRelative : Text
  /-- The path of the copy of the source. -/
  copy : Path
  /-- When the source was last modified. -/
  modified : Nat
  kind : Kind
  sharesSource : Bool
  /-- The title, once it is known. -/
  title : Option Text

namespace Document

def namesBelow? (p : Path) : Option (List Text) :=
  let rec names : Path → Option (List Text)
    | [] => some []
    | .name n :: rest => (names rest).map (n :: ·)
    | .current :: rest => names rest
    | .parent :: _ => none
    | .root :: _ => none
  (names p).filter fun ns => !ns.isEmpty

def slashed (names : List Text) : Text := ['/'].intercalate names

/-- A file name without its extension. Two dots are left where only one would be. -/
def stem (name : Text) : Text :=
  match (Path.splitExtension name).1 with
  | ['.'] => ['.', '.']
  | front => front

def withoutExtension (names : List Text) : List Text :=
  match names.getLast? with
  | some last => names.dropLast ++ [stem last]
  | none => []

/-- The name of a document: joined by double colons and without extension for modules and manuals,
else the path itself. -/
def nameOf (kind : Kind) (names : List Text) : Text :=
  if kind.usesQualifiedNames then
    Path.joinedBy "::".toList (Path.ofText (slashed (withoutExtension names)))
  else slashed names

def copyRoot (outputRoot : Path) : Path := outputRoot ++ [.name "src".toList]

def pageNames (names : List Text) : List Text :=
  match names.getLast? with
  | some last => names.dropLast ++ [last ++ ".html".toList]
  | none => []

/-- The document of the file `source` found below the library root `root`; none if it would leave
the output root. -/
def ofSource? (outputRoot : Path) (g : Group) (root source : Path) (modified : Nat) :
    Option Document := do
  let names ← namesBelow? (← Path.below? root source)
  let copy := copyRoot outputRoot ++ Path.ofNames names
  let copied := g.kind.isBinary
  return {
    source := source
    relative := names
    name := nameOf g.kind names
    output := if copied then copy else outputRoot ++ Path.ofNames (pageNames names)
    outputRelative := if copied then slashed ("src".toList :: names) else slashed (pageNames names)
    copy := copy
    modified := modified
    kind := g.kind
    sharesSource := g.sharesSource
    title := none }

def shownTitle (d : Document) : Text := d.title.getD d.name

def rootHref (d : Document) : Text :=
  (List.replicate (d.outputRelative.count '/') "../".toList).flatten

def copyHref? (d : Document) : Option Text :=
  if d.sharesSource then some (d.rootHref ++ "src/".toList ++ slashed d.relative) else none

end Document
end PodSite
