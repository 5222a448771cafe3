import PodSite.Site.Asset
import PodSite.Site.Build
import PodSite.Site.Index

/-!
The files of a site beside its pages. A file that holds the right bytes already is not written
again.
-/
namespace PodSite.Site

structure PublishError where
  path : Text
  cause : FileError
deriving DecidableEq, Repr

def PublishError.message (e : PublishError) : Text :=
  "Failed to write ".toList ++ Text.quoted e.path ++ ": ".toList ++ e.cause.message

def holds (t : FileTree) (written : Text) (content : Bytes) : Bool :=
  match t.read [] (Path.steps written) with
  | .ok existing => existing == content
  | .error _ => false

/-- Writes a file unless it holds the bytes already, and tells whether it did. -/
def update (t : FileTree) (written : Text) (content : Bytes) :
    FileTree × Except PublishError Bool :=
  if holds t written content then (t, .ok false)
  else
    match t.makeRoom written with
    | (t, .error cause) => (t, .error ⟨Path.parentText written, cause⟩)
    | (t, .ok _) =>
      match t.writeText written content with
      | (t, .error cause) => (t, .error ⟨written, cause⟩)
      | (t, .ok _) => (t, .ok true)

def writeAll (root : Text) :
    FileTree → Nat → List (Text × Text) → FileTree × Except PublishError Nat
  | t, written, [] => (t, .ok written)
  | t, written, (name, content) :: rest =>
    match update t (Path.joinText root name) (Text.Utf8.encode content) with
    | (t, .error e) => (t, .error e)
    | (t, .ok changed) => writeAll root t (if changed then written + 1 else written) rest

def publishAssets (t : FileTree) (root : Text) : FileTree × Except PublishError Nat :=
  writeAll root t 0 (assets.map fun a => (a.name, a.content))

def publishIndex (t : FileTree) (root : Text) (project : Project) (nav : Navigation) :
    FileTree × Except PublishError Nat :=
  writeAll root t 0
    [ ("index.html".toList, indexPage project nav), ("index.json".toList, indexJson project nav)]

end PodSite.Site
