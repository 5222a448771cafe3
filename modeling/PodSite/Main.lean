import PodSite.Command.Run
import Std.Time.DateTime.Timestamp

/-!
The program. What a command line works on is loaded from disk into a tree of files, the command runs
on the tree, and what it changed is stored. Times are in nanoseconds.
-/
namespace PodSite.Disk

/-- What was loaded: a tree, and the directories of which all is in it. -/
structure Loaded where
  tree : FileTree
  complete : List Location

def nameOf (loc : Location) : String := String.ofList (Path.absolute loc).spell

def timeOf (t : IO.FS.SystemTime) : Nat := (t.sec * 1000000000 + t.nsec.toNat).toNat

def endOfLink (name : String) : IO Text := do
  try return (← IO.FS.realPath name).toString.toList
  catch _ => return name.toList

def fileAt (name : String) (modified : Nat) : IO Entry := do
  try return .file (← IO.FS.readBinFile name).toList modified
  catch _ => return .unreadable modified

/-- What stands at a location on disk; a link is taken to lead straight to its end. -/
def entryAt? (loc : Location) : IO (Option Entry) := do
  let name := nameOf loc
  let path := (← IO.FS.realPath "/") / name
  try
    let data ← path.symlinkMetadata
    match data.type with
    | .symlink => return some (.link (← endOfLink name))
    | .dir => return some (.directory (timeOf data.modified))
    | _ => return some (← fileAt name (timeOf data.modified))
  catch _ => return none

mutual

/-- Loads what a path leads to, from the directory at `loc`, with all that is below it. -/
partial def loadPath (l : Loaded) (loc : Location) : Path → IO Loaded
  | [] => loadBelow l loc
  | .root :: rest => loadPath l [] rest
  | .current :: rest => loadPath l loc rest
  | .parent :: rest => loadPath l loc.dropLast rest
  | .name n :: rest => loadStep l (loc ++ [n]) rest

/-- Loads the entry at a location, and goes on from there. -/
partial def loadStep (l : Loaded) (here : Location) (rest : Path) : IO Loaded := do
  let some e ← (match l.tree.get? here with
    | some e => pure (some e)
    | none => entryAt? here) | return l
  let l := { l with tree := l.tree.put here e }
  match e with
  | .link target =>
    if target = (nameOf here).toList then return l
    else loadPath l [] (Path.ofText target ++ rest)
  | .directory _ => loadPath l here rest
  | .file _ _ | .unreadable _ => return l

/-- Loads everything below a directory. -/
partial def loadBelow (l : Loaded) (loc : Location) : IO Loaded := do
  if l.complete.contains loc then return l
  let path := (← IO.FS.realPath "/") / nameOf loc
  let mut l := { l with complete := loc :: l.complete }
  for child in ← (try path.readDir catch _ => pure #[]) do
    l ← loadStep l (loc ++ [child.fileName.toList]) []
  return l

end

def load (now : Nat) (cwd : Location) (a : Command.Arguments) : IO FileTree := do
  let file := a.config.getD Command.defaultFile
  let mut l ← loadPath ⟨⟨[], now⟩, []⟩ [] (Path.fromDirectory cwd file)
  for place in Command.places l.tree cwd a do
    l ← loadPath l [] (Path.fromDirectory cwd place)
  return l.tree

def store (before after : FileTree) : IO Unit := do
  for (loc, e) in after.entries do
    if before.entries.lookup loc ≠ some e then
      match e with
      | .directory _ => IO.FS.createDirAll (nameOf loc)
      | .file content _ => IO.FS.writeBinFile (nameOf loc) ⟨content.toArray⟩
      | .link _ | .unreadable _ => pure ()

def usage : String :=
  "Usage: projdocs [--config FILE] [--verbose] <build|status> [--out DIR] [--lib DIR]... " ++
    "[--except PATTERN]... [--force] [--title TEXT] [--desc TEXT] [--lang TEXT] [--json]"

def workingDirectory : IO Location := do
  let written := (← IO.FS.realPath (← IO.currentDir)).toString.toList
  return (Path.ofText written).filterMap fun
    | .name n => some n
    | _ => none

def run (arguments : List Text) : IO UInt32 := do
  let some a := Command.Arguments.ofTexts? arguments
    | IO.eprintln usage
      return 2
  let cwd ← workingDirectory
  let now ← Std.Time.Timestamp.now
  let before ← load now.toNanosecondsSinceUnixEpoch.val.toNat cwd a
  let (after, result) := Command.run before cwd arguments
  store before after
  IO.print (String.ofList result.output)
  if let some line := result.error then IO.eprintln (String.ofList line)
  return result.exit.toUInt32

end PodSite.Disk

def main (arguments : List String) : IO UInt32 := do
  try PodSite.Disk.run (arguments.map String.toList)
  catch e =>
    IO.eprintln s!"Error: {e}"
    return 1
