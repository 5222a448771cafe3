import PodSite.Navigation
import PodSite.Site.Discovery

/-!
Building: the stale documents are written with their sources copied, and every document that can be
read is listed in the navigation. All references are known before the first page is written.
-/
namespace PodSite.Site

structure Report where
  /-- The files written, in order. -/
  published : List Path
  /-- The number of documents left as they were. -/
  fresh : Nat
  /-- The sources that could not be read. -/
  unreadable : List Path
  index : Navigation

def writeFile (t : FileTree) (p : Path) (content : Bytes) : FileTree × Except BuildError Unit :=
  match t.makeDirectories p.dropLast with
  | (t, .error cause) => (t, .error (.write p.dropLast cause))
  | (t, .ok _) =>
    match t.write p content with
    | (t, .error cause) => (t, .error (.write p cause))
    | (t, .ok _) => (t, .ok ())

def publishCopy (t : FileTree) (d : Document) : FileTree × Except BuildError Unit :=
  if d.sharesSource then
    match t.read [] d.source with
    | .error cause => (t, .error (.read d.source cause))
    | .ok content => writeFile t d.copy content
  else (t, .ok ())

inductive Outcome where
  | published (d : Document)
  | fresh (d : Document)
  | unreadable
  | failed (e : BuildError)

def buildBinary (t : FileTree) (force : Bool) (d : Document) : FileTree × Outcome :=
  if isStale t force d then
    match publishCopy t d with
    | (t, .error e) => (t, .failed e)
    | (t, .ok _) => (t, .published d)
  else (t, .fresh d)

/-- Writes the page of a stale document, after a copy of its source. -/
def buildPage (t : FileTree) (c : Config) (references : References) (g : Group) (d : Document) :
    FileTree × Outcome :=
  match t.read [] d.source with
  | .error _ => (t, .unreadable)
  | .ok content =>
    let source := Text.Utf8.decodeLossy content
    if isStale t c.force d then
      let (title, page) := Page.render g d references c.project source
      match publishCopy t d with
      | (t, .error e) => (t, .failed e)
      | (t, .ok _) =>
        match writeFile t d.output (Text.Utf8.encode page) with
        | (t, .error e) => (t, .failed e)
        | (t, .ok _) => (t, .published { d with title := some title })
    else (t, .fresh { d with title := some (Page.title g d source) })

def buildDocument (t : FileTree) (c : Config) (references : References) (g : Group) (d : Document) :
    FileTree × Outcome :=
  if d.kind.isBinary then buildBinary t c.force d else buildPage t c references g d

def Report.add (r : Report) (index : Nat) (document : Document) : Outcome → Report
  | .published d =>
    { r with published := r.published ++ [d.output], index := r.index.add index d }
  | .fresh d => { r with fresh := r.fresh + 1, index := r.index.add index d }
  | .unreadable => { r with unreadable := r.unreadable ++ [document.source] }
  | .failed _ => r

def buildDocuments (c : Config) (references : References) (index : Nat) (g : Group) :
    FileTree → Report → List Document → FileTree × Except BuildError Report
  | t, r, [] => (t, .ok r)
  | t, r, d :: rest =>
    match buildDocument t c references g d with
    | (t, .failed e) => (t, .error e)
    | (t, outcome) => buildDocuments c references index g t (r.add index d outcome) rest

def buildSets (c : Config) (references : References) :
    FileTree → Report → List GroupDocuments → FileTree × Except BuildError Report
  | t, r, [] => (t, .ok r)
  | t, r, set :: rest =>
    match buildDocuments c references set.index set.group t r set.documents with
    | (t, .error e) => (t, .error e)
    | (t, .ok r) => buildSets c references t r rest

def build (t : FileTree) (c : Config) : FileTree × Except BuildError Report :=
  match t.makeDirectories c.outputRoot with
  | (t, .error cause) => (t, .error (.outputRoot c.outputSpelling cause))
  | (t, .ok _) =>
    match discover t c with
    | .error e => (t, .error e)
    | .ok sets =>
      match buildSets c (referencesOf sets) t ⟨[], 0, [], .initial c.groups⟩ sets with
      | (t, .error e) => (t, .error e)
      | (t, .ok r) => (t, .ok { r with index := r.index.finish })

end PodSite.Site
