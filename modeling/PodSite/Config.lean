import PodSite.Files.Tree
import PodSite.Settings
import PodSite.Text.Quoted

/-!
Configurations: settings with their paths resolved in a tree of files and their patterns read.
-/
namespace PodSite

structure Config where
  outputRoot : Path
  /-- How the output root is written in messages. -/
  outputSpelling : Text
  libraryRoots : List Location
  exclude : List Pattern
  force : Bool
  project : Project
  groups : List Group

inductive ConfigError where
  | unreadable (cause : FileError)
  | unparsable
  | libraryRoot (path : Text) (cause : FileError)
  | notADirectory (path : Text)
  | outputRoot (path : Text) (cause : FileError)
  | badPattern (pattern : Text)
  | emptyGroup (description : Text)
deriving DecidableEq, Repr

def ConfigError.message : ConfigError → Text
  | unreadable cause => "Failed to read config file: ".toList ++ cause.message
  | unparsable => "Failed to parse YAML".toList
  | libraryRoot path cause =>
    "Library root ".toList ++ Text.quoted path ++ " is not readable: ".toList ++ cause.message
  | notADirectory path => "Library root ".toList ++ Text.quoted path ++ " is not a directory".toList
  | outputRoot path cause =>
    "Cannot resolve output root ".toList ++ Text.quoted path ++ ": ".toList ++ cause.message
  | badPattern pattern => "Invalid pattern '".toList ++ pattern ++ "'".toList
  | emptyGroup description => "Group '".toList ++ description ++ "' declares no suffixes".toList

def GroupError.toConfigError : GroupError → ConfigError
  | noSuffixes description => .emptyGroup description
  | badPattern pattern => .badPattern pattern

namespace Config

/-- The longest part of a path that exists, with the names after it; the components come last first.
A missing part must consist of names. -/
def existingPart (t : FileTree) (missing : List Text) : List Component → Option (Path × List Text)
  | [] => none
  | last :: front =>
    let p := (last :: front).reverse
    if t.leadsSomewhere [] p then some (p, missing)
    else
      match last with
      | .name n => existingPart t (n :: missing) front
      | _ => none

/-- The output root for a written path: links in the part that exists are resolved. A path that goes
up from a missing directory is left as it is. Gives the root and how it is written. -/
def outputRootOf (t : FileTree) (cwd : Location) (written : Text) :
    Except FileError (Path × Text) :=
  if written.isEmpty then .error .emptyPath
  else
    let p := Path.fromDirectory cwd written
    let slash := written.getLast? = some '/'
    let part :=
      if slash ∧ !t.leadsSomewhere [] (p ++ [.current]) then
        match p.getLast? with
        | some (.name n) => existingPart t [n] p.dropLast.reverse
        | _ => none
      else existingPart t [] p.reverse
    match part with
    | none => .ok (p, Path.absoluteText cwd written)
    | some (existing, missing) => do
      let root := Path.absolute ((← t.locate [] existing) ++ missing)
      return (root, root.spell)

def libraryRootOf (t : FileTree) (cwd : Location) (written : Text) : Except ConfigError Location :=
  match t.locateText cwd written with
  | .error cause => .error (.libraryRoot written cause)
  | .ok loc =>
    if (t.get? loc).any Entry.isDirectory then .ok loc else .error (.notADirectory written)

def libraryRootsOf (t : FileTree) (cwd : Location) (found : List Location) :
    List Text → Except ConfigError (List Location)
  | [] => .ok found
  | written :: rest =>
    match libraryRootOf t cwd written with
    | .error e => .error e
    | .ok loc =>
      libraryRootsOf t cwd (if found.contains loc then found else found ++ [loc]) rest

def patternsOf (patterns : List Text) : Except ConfigError (List Pattern) :=
  patterns.mapM fun p =>
    match Pattern.ofText? p with
    | some pattern => .ok pattern
    | none => .error (.badPattern p)

def besideFile (file : Option Text) (written : Text) : Text :=
  match file with
  | some f => Path.joinText (Path.parentText f) written
  | none => written

def resolve (t : FileTree) (cwd : Location) (file : Option Text) (s : Settings) :
    Except ConfigError Config := do
  let output := besideFile file s.output
  let (root, spelling) ← match outputRootOf t cwd output with
    | .ok r => .ok r
    | .error cause => .error (.outputRoot output cause)
  let libraries ← libraryRootsOf t cwd [] (s.libraries.map (besideFile file))
  let exclude ← patternsOf s.exclude
  let groups ← match GroupDeclaration.resolveAll s.groups with
    | .ok groups => .ok groups
    | .error e => .error e.toConfigError
  return ⟨root, spelling, libraries, exclude, s.force, s.project, groups⟩

def settingsIn (t : FileTree) (cwd : Location) (file : Text) : Except ConfigError Settings :=
  let content := do
    let loc ← t.locateText cwd file
    t.readText [] (Path.absolute loc)
  match content with
  | .error cause => .error (.unreadable cause)
  | .ok text =>
    match Settings.ofText? text with
    | some settings => .ok settings
    | none => .error .unparsable

def ofFile (t : FileTree) (cwd : Location) (file : Text) : Except ConfigError Config := do
  resolve t cwd (some file) (← settingsIn t cwd file)

def copyRoot (c : Config) : Path := Document.copyRoot c.outputRoot

def isExcluded (c : Config) (relative : Text) : Bool := c.exclude.any (·.isMatch relative)

/-- Directories that hold generated files, and are no sources: the copies, and all output unless it
goes to the library root itself. -/
def isGenerated (c : Config) (libraryRoot path : Path) : Bool :=
  path == c.copyRoot || (path == c.outputRoot && c.outputRoot != libraryRoot)

end Config
end PodSite
