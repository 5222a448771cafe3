import PodSite.Markup.Region
import PodSite.Page.Definitions
import PodSite.Path

/-!
Groups: which files belong together, and how their pages are made.
-/
namespace PodSite

inductive Kind where
  /-- Pages that module names refer to. -/
  | modules
  | manuals
  | scripts
  /-- Files that are copied and never read as markup. -/
  | binaries
deriving DecidableEq, Repr

namespace Kind

def isReferable : Kind → Bool
  | modules => true
  | _ => false

def isBinary : Kind → Bool
  | binaries => true
  | _ => false

def usesQualifiedNames : Kind → Bool
  | modules | manuals => true
  | scripts | binaries => false

def sharesSourceByDefault : Kind → Bool
  | manuals => false
  | modules | scripts | binaries => true

end Kind

structure Group where
  description : Text
  kind : Kind
  suffixes : List Text
  placement : Markup.Placement
  copySource : Bool
  definitions : Option Page.DefinitionFinder

structure GroupDeclaration where
  description : Text
  kind : Kind
  suffixes : List Text
  placement : Markup.Placement
  copySource : Option Bool
  /-- The pattern and the label of the definitions. -/
  definitions : Option (Text × Text)

inductive GroupError where
  | noSuffixes (description : Text)
  | badPattern (pattern : Text)
deriving DecidableEq, Repr

namespace Group

def owns (g : Group) (p : Path) : Bool := (Path.extension? p).any g.suffixes.contains

/-- The copy of a binary file is its page, so its source is always exposed. -/
def sharesSource (g : Group) : Bool := g.kind.isBinary || g.copySource

def owner? (groups : List Group) (p : Path) : Option Nat := groups.findIdx? (·.owns p)

/-- Finds the names of methods: `new`, `new( %args )`, `$obj->method($x)`, `Foo::Bar::helper()`. -/
def methodPattern : Text :=
  "^(?:[$\\w:]+(?:->|::))?([A-Za-z_]\\w*)\\s*(?:\\(.*\\))?\\s*;?\\s*$".toList

def methodLabel : Text := "Methods".toList

end Group

namespace GroupDeclaration

def compile (pattern : Text) : Except GroupError Pattern :=
  match Pattern.ofText? pattern with
  | some p => .ok p
  | none => .error (.badPattern pattern)

def resolve (s : GroupDeclaration) : Except GroupError Group :=
  if s.suffixes.isEmpty then .error (.noSuffixes s.description)
  else do
    let definitions ← match s.definitions with
      | none => pure none
      | some (pattern, label) => do
        let p ← compile pattern
        pure (some ⟨p, label⟩)
    return {
      description := s.description
      kind := s.kind
      suffixes := s.suffixes.map fun suffix => suffix.dropWhile (· == '.')
      placement := s.placement
      copySource := s.copySource.getD s.kind.sharesSourceByDefault
      definitions := definitions }

def standard : List GroupDeclaration :=
  [ ⟨"Modules".toList, .modules, ["pm".toList], .lines, none,
      some (Group.methodPattern, Group.methodLabel)⟩,
    ⟨"Manuals".toList, .manuals, ["pod".toList], .lines, none, none⟩,
    ⟨"Scripts".toList, .scripts, ["pl".toList, "cgi".toList], .lines, none, none⟩,
    ⟨"JavaScript Libraries".toList, .scripts, ["js".toList], .comments, none, none⟩]

def resolveAll (groups : Option (List GroupDeclaration)) : Except GroupError (List Group) :=
  (groups.getD standard).mapM resolve

end GroupDeclaration
end PodSite
