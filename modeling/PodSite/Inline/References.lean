import PodSite.Path

/-!
The pages that module names refer to.
-/
namespace PodSite

structure References where
  entries : List (Text × Path)

def References.resolve? (r : References) (name : Text) : Option Path := r.entries.lookup name

end PodSite
