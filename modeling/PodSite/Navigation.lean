import PodSite.Document
import PodSite.Href

/-!
Navigation: the published documents, group by group.
-/
namespace PodSite

structure NavigationEntry where
  groupDescription : Text
  /-- The path of the page below the output root. -/
  path : Text
  name : Text
  title : Text
deriving DecidableEq, Repr

structure NavigationSection where
  description : Text
  entries : List NavigationEntry
deriving DecidableEq, Repr

def NavigationEntry.href (r : NavigationEntry) : Text := Href.encode r.path

abbrev Navigation := List NavigationSection

namespace Navigation

def initial (groups : List Group) : Navigation := groups.map fun g => ⟨g.description, []⟩

def entryOf (description : Text) (d : Document) : NavigationEntry :=
  ⟨description, d.outputRelative, d.name, d.shownTitle⟩

/-- Lists a document under the group with the given number; a number without a group does nothing.
-/
def add (nav : Navigation) (index : Nat) (d : Document) : Navigation :=
  nav.modify index fun g => { g with entries := g.entries ++ [entryOf g.description d] }

def finish (nav : Navigation) : Navigation := nav.filter fun g => !g.entries.isEmpty

end Navigation
end PodSite
