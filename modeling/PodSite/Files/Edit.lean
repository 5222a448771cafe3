import PodSite.Files.Tree

/-!
Changes to a tree of files by hand, and a view of what is below a directory.
-/
namespace PodSite.FileTree

/-- The location of a path whose last name is not followed if it is a link. -/
def locateEntry (t : FileTree) (p : Path) : Except FileError Location :=
  match p.getLast? with
  | some (.name n) => do
    checkPath p
    let loc ← t.locate [] p.dropLast
    if !(t.get? loc).any Entry.isDirectory then .error .notADirectory
    else if maxName < Text.byteCount n then .error .nameTooLong
    else .ok (loc ++ [n])
  | _ => t.locate [] p

def store (t : FileTree) (written : Text) (content : Bytes) (modified : Nat) :
    FileTree × Except FileError Unit :=
  match t.makeRoom written with
  | (t, .error e) => (t, .error e)
  | (t, .ok _) =>
    match t.writeText written content with
    | (t, .error e) => (t, .error e)
    | (t, .ok _) =>
      match t.locateText [] written with
      | .error e => (t, .error e)
      | .ok loc => (t.put loc (.file content modified), .ok ())

/-- An entry that can be made: no zero character stands in the target of a link. -/
def canBeMade : Entry → Bool
  | .link target => !target.contains '\x00'
  | _ => true

def place (t : FileTree) (written : Text) (e : Entry) : FileTree × Except FileError Unit :=
  match t.makeRoom written with
  | (t, .error cause) => (t, .error cause)
  | (t, .ok _) =>
    match t.locateEntry (Path.steps written) with
    | .error cause => (t, .error cause)
    | .ok loc =>
      if !canBeMade e then (t, .error .zeroCharacter)
      else if (t.get? loc).isSome then (t, .error .alreadyExists)
      else (t.add loc e, .ok ())

def touch (t : FileTree) (p : Path) (modified : Nat) : Except FileError FileTree := do
  let loc ← t.locate [] p
  match t.get? loc with
  | some (.file content _) => .ok (t.put loc (.file content modified))
  | some (.directory _) => .ok (t.put loc (.directory modified))
  | some (.unreadable _) => .ok (t.put loc (.unreadable modified))
  | _ => .error .notFound

def remove (t : FileTree) (p : Path) : Except FileError FileTree := do
  let loc ← t.locateEntry p
  if (t.get? loc).isSome then .ok ((t.removeAt loc).stamp loc.dropLast) else .error .notFound

def below (t : FileTree) : (fuel : Nat) → Location → List Text → List (List Text × Entry)
  | 0, _, _ => []
  | fuel + 1, loc, shown =>
    (t.namesIn loc).flatMap fun n =>
      match t.get? (loc ++ [n]) with
      | none => []
      | some e =>
        (shown ++ [n], e) ::
          (if e.isDirectory then t.below fuel (loc ++ [n]) (shown ++ [n]) else [])

def listing (t : FileTree) (p : Path) : List (List Text × Entry) :=
  match t.locate [] p with
  | .ok loc => t.below (t.entries.length + 1) loc []
  | .error _ => []

end PodSite.FileTree
