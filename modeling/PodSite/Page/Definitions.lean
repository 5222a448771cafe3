import PodSite.Outline.Basic
import PodSite.Pattern.Match

/-!
The definitions of a page: the names that a pattern finds in its sub-headings and definition terms,
each once, with the anchor of its first occurrence.
-/
namespace PodSite.Page

structure DefinitionFinder where
  pattern : Pattern
  label : Text

structure DefinedName where
  name : Text
  anchor : Text
deriving DecidableEq, Repr

mutual
def blockTerms : Block → List (Text × Text)
  | .list _ items => itemsTerms items
  | .definitions entries => entriesTerms entries
  | .paragraph _ | .verbatim _ | .html _ => []
def blocksTerms : List Block → List (Text × Text)
  | [] => []
  | b :: rest => blockTerms b ++ blocksTerms rest
def itemsTerms : List (List Block) → List (Text × Text)
  | [] => []
  | item :: rest => blocksTerms item ++ itemsTerms rest
def entriesTerms : List (Text × Text × List Block) → List (Text × Text)
  | [] => []
  | (term, anchor, blocks) :: rest =>
    (Inline.unmarked term, anchor) :: (blocksTerms blocks ++ entriesTerms rest)
end

/-- The texts that may define a name, each with its anchor: sub-headings and terms. -/
def candidates : List Heading → List (Text × Text)
  | [] => []
  | ⟨level, anchor, title, blocks, children⟩ :: rest =>
    let own := if 2 ≤ level then [(Inline.unmarked title, anchor)] else []
    own ++ blocksTerms blocks ++ candidates children ++ candidates rest

/-- The name found in a text: the first group of the pattern, or all that it matches. -/
def DefinitionFinder.name? (rule : DefinitionFinder) (t : Text) : Option Text := do
  let found ← rule.pattern.captures? (Text.trim t)
  let name ← (found.get? 1).orElse fun _ => found.get? 0
  match Text.trim name with
  | [] => none
  | name => some name

def DefinitionFinder.select (rule : DefinitionFinder) (seen : List Text) :
    List (Text × Text) → List DefinedName
  | [] => []
  | (t, anchor) :: rest =>
    match rule.name? t with
    | some name =>
      if seen.contains name then rule.select seen rest
      else ⟨name, anchor⟩ :: rule.select (name :: seen) rest
    | none => rule.select seen rest

def DefinitionFinder.entries (rule : DefinitionFinder) (root : Heading) : List DefinedName :=
  rule.select [] (candidates root.children)

end PodSite.Page
