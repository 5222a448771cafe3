import PodSite.Config
import PodSite.Files.Walk
import PodSite.Inline.References

/-!
Discovery: the documents of each group, from all library roots. A file that an earlier root provides
hides one with the same path in a later root.
-/
namespace PodSite

inductive BuildError where
  | libraryRoot (path : Path)
  | outputRoot (path : Text) (cause : FileError)
  | read (path : Path) (cause : FileError)
  | write (path : Path) (cause : FileError)
deriving DecidableEq, Repr

def BuildError.message : BuildError → Text
  | libraryRoot path =>
    "Library root ".toList ++ Text.quoted path.spell ++
      " does not exist or is not a directory".toList
  | outputRoot path cause =>
    "Cannot create output root ".toList ++ Text.quoted path ++ ": ".toList ++ cause.message
  | read path cause =>
    "Failed to read ".toList ++ Text.quoted path.spell ++ ": ".toList ++ cause.message
  | write path cause =>
    "Failed to write ".toList ++ Text.quoted path.spell ++ ": ".toList ++ cause.message

structure GroupDocuments where
  index : Nat
  group : Group
  documents : List Document

namespace Site

/-- The document of a file found below a library root, if it belongs to the group with the given
number and is not excluded. -/
def documentOf? (c : Config) (index : Nat) (g : Group) (root : Location) (found : FileTree.Found) :
    Option Document := do
  let path := Path.absolute found.path
  if Group.owner? c.groups path ≠ some index then none
  let relative ← Path.below? (Path.absolute root) path
  if c.isExcluded (relative.joinedBy ['/']) then none
  Document.ofSource? c.outputRoot g (Path.absolute root) path found.modified

def documentsBelow (t : FileTree) (c : Config) (index : Nat) (g : Group) (root : Location) :
    List Document :=
  let pruned (path : List Text) : Bool := c.isGenerated (Path.absolute root) (Path.absolute path)
  (t.walk pruned root).filterMap (documentOf? c index g root)

def addNew (known : List Document) : List Document → List Document
  | [] => known
  | d :: rest =>
    if known.any (·.relative == d.relative) then addNew known rest else addNew (known ++ [d]) rest

def documentsOf (t : FileTree) (c : Config) (index : Nat) (g : Group) (known : List Document) :
    List Location → Except BuildError (List Document)
  | [] => .ok known
  | root :: rest =>
    if t.isDirectory [] (Path.absolute root) then
      documentsOf t c index g (addNew known (documentsBelow t c index g root)) rest
    else .error (.libraryRoot (Path.absolute root))

def discoverFrom (t : FileTree) (c : Config) (index : Nat) :
    List Group → Except BuildError (List GroupDocuments)
  | [] => .ok []
  | g :: rest => do
    let documents ← documentsOf t c index g [] c.libraryRoots
    return ⟨index, g, documents⟩ :: (← discoverFrom t c (index + 1) rest)

def discover (t : FileTree) (c : Config) : Except BuildError (List GroupDocuments) :=
  discoverFrom t c 0 c.groups

def referencesOf (sets : List GroupDocuments) : References :=
  let providing := sets.filter (·.group.kind.isReferable)
  ⟨providing.flatMap fun set => set.documents.map fun d => (d.name, d.output)⟩

/-- A document is stale if its page is missing or older than its source. -/
def isStale (t : FileTree) (force : Bool) (d : Document) : Bool :=
  force ||
    match t.modified? d.output with
    | some written => written < d.modified
    | none => true

structure Status where
  group : Text
  name : Text
  source : Path
  output : Text
  stale : Bool

def status (t : FileTree) (c : Config) : Except BuildError (List Status) := do
  let sets ← discover t c
  return sets.flatMap fun set => set.documents.map fun d =>
    ⟨set.group.description, d.name, d.source, d.outputRelative, isStale t c.force d⟩

end Site
end PodSite
