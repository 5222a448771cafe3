import PodSite.Files.Tree

/-!
Walking a directory: every file below it, in the order of the names, directory by directory. Links
are followed, except those that lead back to a directory on the way.
-/
namespace PodSite.FileTree

structure Found where
  /-- The names from the root down, as the walk went. -/
  path : List Text
  modified : Nat
deriving DecidableEq, Repr

/-- Walks the directory at `loc`, which the walk came to by `path`. The directories on the way are
`ancestors`, and `pruned` paths are left out. -/
def walkFrom (t : FileTree) (pruned : List Text → Bool) :
    (fuel : Nat) → (ancestors : List Location) → (loc : Location) → (path : List Text) → List Found
  | 0, _, _, _ => []
  | fuel + 1, ancestors, loc, path =>
    (t.namesIn loc).flatMap fun n =>
      let here := loc ++ [n]
      let shown := path ++ [n]
      if pruned shown then []
      else
        match t.get? here with
        | none => []
        | some (.file _ modified) => [⟨shown, modified⟩]
        | some (.unreadable modified) => [⟨shown, modified⟩]
        | some (.directory _) => t.walkFrom pruned fuel (here :: ancestors) here shown
        | some (.link target) =>
          match t.follow false maxLinks loc (Path.steps target) with
          | .error _ => []
          | .ok found =>
            match t.get? found with
            | some (.file _ modified) => [⟨shown, modified⟩]
            | some (.unreadable modified) => [⟨shown, modified⟩]
            | some (.directory _) =>
              if ancestors.contains found then []
              else t.walkFrom pruned fuel (found :: ancestors) found shown
            | _ => []

/-- Every file below the directory at `root`. A way down goes through each link at most once, and
between two links no deeper than the tree. -/
def walk (t : FileTree) (pruned : List Text → Bool) (root : Location) : List Found :=
  if pruned root then []
  else
    match t.locate [] (Path.absolute root) with
    | .error _ => []
    | .ok loc =>
      t.walkFrom pruned ((t.entries.length + 2) * (t.entries.length + 2)) [loc] loc root

end PodSite.FileTree
