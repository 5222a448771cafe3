import PodSite.Inline.Link

/-!
A document as headings with the blocks under them. The root has level zero and holds what stands in
front of the first heading.
-/
namespace PodSite

inductive Block where
  | paragraph (text : Text)
  | verbatim (text : Text)
  | list (ordered : Bool) (items : List (List Block))
  /-- Terms, each with its anchor and the blocks that explain it. -/
  | definitions (entries : List (Text × Text × List Block))
  | html (text : Text)
deriving Repr, Inhabited

structure Heading where
  level : Nat
  anchor : Text
  /-- The title with its markup. -/
  title : Text
  blocks : List Block
  children : List Heading
deriving Repr, Inhabited

namespace Heading

def root : Heading := ⟨0, [], [], [], []⟩

def fresh (level : Nat) (anchor title : Text) : Heading := ⟨level, anchor, title, [], []⟩

def addBlocks (h : Heading) (blocks : List Block) : Heading :=
  { h with blocks := h.blocks ++ blocks }

def addChild (h child : Heading) : Heading := { h with children := h.children ++ [child] }

def titleText (h : Heading) : Text := Inline.unmarked h.title

def flattened : List Heading → List Heading
  | [] => []
  | ⟨level, anchor, title, blocks, children⟩ :: rest =>
    ⟨level, anchor, title, blocks, children⟩ :: (flattened children ++ flattened rest)

def headings (h : Heading) : List Heading := flattened h.children

def firstParagraph? : List Block → Option Text
  | [] => none
  | .paragraph t :: _ => some t
  | _ :: rest => firstParagraph? rest

/-- What a name section says of the document: the text after the first dash between spaces, or all
of it. -/
def describedBy? (part : Heading) : Option Text :=
  match firstParagraph? part.blocks with
  | none => none
  | some t =>
    let text := Text.collapseBlanks (Inline.unmarked t)
    let title := match Text.splitAtFirst? " - ".toList text with
      | some (_, description) => Text.trim description
      | none => text
    if title.isEmpty then none else some title

/-- The title of a document: from its name section if that is the first heading of level one, else
that heading. -/
def documentTitle? (root : Heading) : Option Text :=
  match root.children.find? (·.level == 1) with
  | none => none
  | some first =>
    let heading := first.titleText
    let described :=
      if Text.sameAsciiLetters (Text.trim heading) "NAME".toList then describedBy? first else none
    match described, Text.collapseBlanks heading with
    | some title, _ => some title
    | none, [] => none
    | none, title => some title

end Heading
end PodSite
