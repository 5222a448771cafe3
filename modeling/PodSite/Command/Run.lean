import PodSite.Command.Arguments
import PodSite.Site.Publish

/-!
The two commands of the program: building a site, and telling which documents a build would write.
-/
namespace PodSite.Command

structure Result where
  exit : Nat
  output : Text
  error : Option Text

def Result.success (output : Text) : Result := ⟨0, output, none⟩

def Result.failed (what : Text) : Result := ⟨1, [], some ("Error: ".toList ++ what)⟩

def Result.usage : Result := ⟨2, [], none⟩

def defaultFile : Text := "projdocs.yml".toList

def loadSettings (t : FileTree) (cwd : Location) (config : Option Text) :
    Except Text (Settings × Option Text) :=
  match config with
  | some file =>
    match Config.settingsIn t cwd file with
    | .ok s => .ok (s, some file)
    | .error _ => .error ("Failed to load configuration from ".toList ++ Text.quoted file)
  | none =>
    match t.entryAt cwd [.name defaultFile] with
    | .ok entry =>
      if entry.isFile then
        match Config.settingsIn t cwd defaultFile with
        | .ok s => .ok (s, some defaultFile)
        | .error _ => .error "Failed to load configuration".toList
      else .ok (.default, none)
    | .error _ => .ok (.default, none)

/-- Settings with the options of the command line, whose paths are relative to the directory the
program runs in. -/
def override (cwd : Location) (s : Settings) (o : ProjectOptions) : Settings :=
  { project := {
      title := o.title.getD s.project.title
      description := o.description.getD s.project.description
      language := o.language.getD s.project.language }
    output := (o.out.map (Path.absoluteText cwd)).getD s.output
    libraries :=
      if o.libraries.isEmpty then s.libraries else o.libraries.map (Path.absoluteText cwd)
    exclude := s.exclude ++ o.except
    force := s.force || o.force
    groups := s.groups }

def places (t : FileTree) (cwd : Location) (a : Arguments) : List Text :=
  match loadSettings t cwd a.config with
  | .error _ => []
  | .ok (settings, file) =>
    let s := override cwd settings a.options
    (s.output :: s.libraries).map (Config.besideFile file)

def configure (t : FileTree) (cwd : Location) (a : Arguments) : Except Text Config := do
  let (settings, file) ← loadSettings t cwd a.config
  match Config.resolve t cwd file (override cwd settings a.options) with
  | .ok c => .ok c
  | .error _ => .error "Invalid configuration".toList

def runBuild (t : FileTree) (c : Config) : FileTree × Result :=
  match Site.build t c with
  | (t, .error _) => (t, .failed "Failed to build documentation".toList)
  | (t, .ok report) =>
    match Site.publishAssets t c.outputSpelling with
    | (t, .error _) => (t, .failed "Failed to write static assets".toList)
    | (t, .ok _) =>
      match Site.publishIndex t c.outputSpelling c.project report.index with
      | (t, .error _) => (t, .failed "Failed to write index".toList)
      | (t, .ok _) => (t, .success [])

/-- The lines of a status; a group is named in front of its first document. -/
def statusLines (group : Option Text) : List Site.Status → List Text
  | [] => []
  | s :: rest =>
    let state := if s.stale then "stale ".toList else "fresh ".toList
    let line := "  ".toList ++ state ++ [' '] ++ s.name ++ " (".toList ++ s.output ++ [')']
    let named := if group = some s.group then [] else [s.group ++ [':']]
    named ++ line :: statusLines (some s.group) rest

def staleCount (documents : List Site.Status) : Nat := documents.countP (·.stale)

def statusText (documents : List Site.Status) : Text :=
  let stale := staleCount documents
  let total := Text.decimal stale ++ " stale, ".toList ++
    Text.decimal (documents.length - stale) ++ " fresh".toList
  (statusLines none documents ++ [total]).flatMap fun line => line ++ ['\n']

def statusEntry (s : Site.Status) : Json :=
  .object
    [ ("group".toList, .string s.group), ("name".toList, .string s.name),
      ("source".toList, .string s.source.spell), ("output".toList, .string s.output),
      ("stale".toList, .boolean s.stale)]

def statusJson (c : Config) (documents : List Site.Status) : Text :=
  let stale := staleCount documents
  let json : Json := .object
    [ ("output_root".toList, .string c.outputSpelling), ("stale".toList, .number stale),
      ("fresh".toList, .number (documents.length - stale)),
      ("documents".toList, .array (documents.map statusEntry))]
  json.pretty ++ ['\n']

def runStatus (t : FileTree) (c : Config) (json : Bool) : Result :=
  match Site.status t c with
  | .error _ => .failed "Failed to discover documents".toList
  | .ok documents => .success (if json then statusJson c documents else statusText documents)

def run (t : FileTree) (cwd : Location) (arguments : List Text) : FileTree × Result :=
  match Arguments.ofTexts? arguments with
  | none => (t, .usage)
  | some a =>
    match configure t cwd a with
    | .error what => (t, .failed what)
    | .ok c =>
      match a.action with
      | .build => runBuild t c
      | .status json => (t, runStatus t c json)

end PodSite.Command
