import PodSite.Path
import PodSite.Text.Utf8

/-!
A tree of files. A location is the list of names from the root down; the tree holds what stands at
each location except the root, which is a directory. Paths are followed step by step, through links.

Names are texts, those of files as well as those in links. A disk can hold a file whose name is not
valid UTF-8; no tree can, so nothing is said here of directories with such files.
-/
namespace PodSite

abbrev Location := List Text

inductive FileError where
  | notFound
  | alreadyExists
  | notADirectory
  | isADirectory
  | inputOutput
  | tooManyLinks
  | nameTooLong
  | zeroCharacter
  | notText
  | emptyPath
deriving DecidableEq, Repr

def FileError.message : FileError → Text
  | notFound => "No such file or directory (os error 2)".toList
  | alreadyExists => "File exists (os error 17)".toList
  | notADirectory => "Not a directory (os error 20)".toList
  | isADirectory => "Is a directory (os error 21)".toList
  | inputOutput => "Input/output error (os error 5)".toList
  | tooManyLinks => "Too many levels of symbolic links (os error 40)".toList
  | nameTooLong => "File name too long (os error 36)".toList
  | zeroCharacter => "file name contained an unexpected NUL byte".toList
  | notText => "stream did not contain valid UTF-8".toList
  | emptyPath => "cannot make an empty path absolute".toList

/-- What stands at a location. Times are counted from a fixed moment on. -/
inductive Entry where
  | file (content : Bytes) (modified : Nat)
  | directory (modified : Nat)
  | link (target : Text)
  /-- A file that cannot be read. `FileTree.write` refuses every content for it but the empty one,
  which leaves it as it is. -/
  | unreadable (modified : Nat)
deriving DecidableEq, Repr

namespace Entry

def isDirectory : Entry → Bool
  | directory _ => true
  | _ => false

def isLink : Entry → Bool
  | link _ => true
  | _ => false

def isFile : Entry → Bool
  | file _ _ | unreadable _ => true
  | directory _ | link _ => false

def modified? : Entry → Option Nat
  | file _ m | directory m | unreadable m => some m
  | link _ => none

end Entry

structure FileTree where
  entries : List (Location × Entry)
  /-- The present time. -/
  now : Nat

namespace FileTree

def get? (t : FileTree) (loc : Location) : Option Entry :=
  if loc = [] then some (.directory t.now) else t.entries.lookup loc

def put (t : FileTree) (loc : Location) (e : Entry) : FileTree :=
  if (t.entries.lookup loc).isSome then
    { t with entries := t.entries.map fun (p, old) => if p = loc then (p, e) else (p, old) }
  else { t with entries := t.entries ++ [(loc, e)] }

theorem lookup_replace_self (loc : Location) (e : Entry) (entries : List (Location × Entry))
    (found : (entries.lookup loc).isSome) :
    (entries.map fun (p, old) => if p = loc then (p, e) else (p, old)).lookup loc = some e := by
  induction entries with
  | nil => simp at found
  | cons pair rest ih =>
    obtain ⟨p, old⟩ := pair
    by_cases here : p = loc
    · simp [here]
    · have off : (loc == p) = false := beq_eq_false_iff_ne.mpr (Ne.symm here)
      rw [List.lookup_cons, off] at found
      simpa [here, List.lookup_cons, off] using ih found

theorem lookup_replace_of_ne {loc other : Location} (apart : other ≠ loc) (e : Entry)
    (entries : List (Location × Entry)) :
    (entries.map fun (p, old) => if p = loc then (p, e) else (p, old)).lookup other =
      entries.lookup other := by
  induction entries with
  | nil => rfl
  | cons pair rest ih =>
    obtain ⟨p, old⟩ := pair
    by_cases here : p = loc
    · simp [here, List.lookup_cons, beq_eq_false_iff_ne.mpr apart, ih]
    · simp [here, List.lookup_cons, ih]

theorem get?_put (t : FileTree) (loc other : Location) (e : Entry) (below : loc ≠ []) :
    (t.put loc e).get? other = if other = loc then some e else t.get? other := by
  by_cases found : (t.entries.lookup loc).isSome
  · by_cases same : other = loc
    · simp [put, get?, found, same, below, lookup_replace_self _ e _ found]
    · simp [put, get?, found, same, lookup_replace_of_ne same]
  · have missing : t.entries.lookup loc = none := Option.not_isSome_iff_eq_none.mp found
    by_cases same : other = loc
    · simp [put, get?, same, below, List.lookup_append, missing]
    · have off : (other == loc) = false := beq_eq_false_iff_ne.mpr same
      simp [put, get?, same, List.lookup_append, List.lookup_cons, off, missing]

/-- Gives a directory the present time, as a change of its names does. -/
def stamp (t : FileTree) (loc : Location) : FileTree :=
  match t.get? loc with
  | some (.directory _) => if loc = [] then t else t.put loc (.directory t.now)
  | _ => t

/-- Puts an entry at a location; a new name changes the directory around it. -/
def add (t : FileTree) (loc : Location) (e : Entry) : FileTree :=
  if (t.get? loc).isSome then t.put loc e else (t.put loc e).stamp loc.dropLast

def removeAt (t : FileTree) (loc : Location) : FileTree :=
  { t with entries := t.entries.filter fun (p, _) => !loc.isPrefixOf p }

def namesIn (t : FileTree) (loc : Location) : List Text :=
  let names := t.entries.filterMap fun (p, _) =>
    if p.dropLast = loc then p.getLast? else none
  names.mergeSort Text.precedes

def maxLinks : Nat := 40

def maxName : Nat := 255

def maxPath : Nat := 4095

/-- A path that can be followed: it is not too long, and no zero character stands in it. -/
def checkPath (p : Path) : Except FileError Unit :=
  if p.hasZero then .error .zeroCharacter
  else if maxPath < Text.byteCount p.spell then .error .nameTooLong
  else .ok ()

/-- Follows a path from a location that exists. `onLink` goes on at a link, given its directory, its
target and the rest of the path. With `create`, the last name need not exist. -/
def followWith (t : FileTree) (create : Bool)
    (onLink : Location → Text → Path → Except FileError Location) :
    Location → Path → Except FileError Location
  | loc, [] => .ok loc
  | _, .root :: rest => t.followWith create onLink [] rest
  | loc, .current :: rest =>
    if (t.get? loc).any Entry.isDirectory then t.followWith create onLink loc rest
    else .error .notADirectory
  | loc, .parent :: rest =>
    if (t.get? loc).any Entry.isDirectory then t.followWith create onLink loc.dropLast rest
    else .error .notADirectory
  | loc, .name n :: rest =>
    if (t.get? loc).any Entry.isDirectory then
      if maxName < Text.byteCount n then .error .nameTooLong
      else match t.get? (loc ++ [n]) with
      | none => if create && rest.isEmpty then .ok (loc ++ [n]) else .error .notFound
      | some (.link target) => onLink loc target rest
      | some _ => t.followWith create onLink (loc ++ [n]) rest
    else .error .notADirectory

def follow (t : FileTree) (create : Bool) :
    (links : Nat) → Location → Path → Except FileError Location
  | 0 => t.followWith create fun _ _ _ => .error .tooManyLinks
  | links + 1 => t.followWith create fun loc target rest =>
    t.follow create links loc (Path.steps target ++ rest)

def locate (t : FileTree) (cwd : Location) (p : Path) : Except FileError Location :=
  if p.isEmpty then .error .notFound
  else do
    checkPath p
    t.follow false maxLinks cwd p

/-- The location where a path leads or would lead if its last name existed. -/
def locateNew (t : FileTree) (cwd : Location) (p : Path) : Except FileError Location :=
  if p.isEmpty then .error .notFound
  else do
    checkPath p
    t.follow true maxLinks cwd p

def locateText (t : FileTree) (cwd : Location) (written : Text) : Except FileError Location :=
  if written.isEmpty then .error .notFound else t.locate cwd (Path.steps written)

def entryAt (t : FileTree) (cwd : Location) (p : Path) : Except FileError Entry := do
  let loc ← t.locate cwd p
  match t.get? loc with
  | some e => .ok e
  | none => .error .notFound

def leadsSomewhere (t : FileTree) (cwd : Location) (p : Path) : Bool :=
  match t.locate cwd p with
  | .ok _ => true
  | .error _ => false

def isDirectory (t : FileTree) (cwd : Location) (p : Path) : Bool :=
  match t.entryAt cwd p with
  | .ok e => e.isDirectory
  | .error _ => false

def modified? (t : FileTree) (p : Path) : Option Nat :=
  match t.entryAt [] p with
  | .ok e => e.modified?
  | .error _ => none

def read (t : FileTree) (cwd : Location) (p : Path) : Except FileError Bytes := do
  match ← t.entryAt cwd p with
  | .file content _ => .ok content
  | .directory _ => .error .isADirectory
  | .link _ => .error .tooManyLinks
  | .unreadable _ => .error .inputOutput

def readText (t : FileTree) (cwd : Location) (p : Path) : Except FileError Text := do
  match Text.Utf8.decode? (← t.read cwd p) with
  | some text => .ok text
  | none => .error .notText

def write (t : FileTree) (p : Path) (content : Bytes) : FileTree × Except FileError Unit :=
  match t.locateNew [] p with
  | .error e => (t, .error e)
  | .ok loc =>
    match t.get? loc with
    | some (.directory _) => (t, .error .isADirectory)
    | some (.unreadable _) =>
      if content.isEmpty then (t, .ok ()) else (t, .error .inputOutput)
    | _ => (t.add loc (.file content t.now), .ok ())

def writeText (t : FileTree) (written : Text) (content : Bytes) :
    FileTree × Except FileError Unit :=
  match checkPath (Path.steps written) with
  | .error e => (t, .error e)
  | .ok _ =>
    if Path.asksDirectory written then (t, .error .isADirectory)
    else t.write (Path.steps written) content

def makeDirectoriesFrom (t : FileTree) : Location → Path → FileTree × Except FileError Unit
  | _, [] => (t, .ok ())
  | _, .root :: rest => t.makeDirectoriesFrom [] rest
  | loc, .current :: rest => t.makeDirectoriesFrom loc rest
  | loc, .parent :: rest => t.makeDirectoriesFrom loc.dropLast rest
  | loc, .name n :: rest =>
    let here := loc ++ [n]
    let blocked : FileError := if rest.isEmpty then .alreadyExists else .notADirectory
    if maxName < Text.byteCount n then (t, .error .nameTooLong)
    else match t.get? here with
    | none => (t.add here (.directory t.now)).makeDirectoriesFrom here rest
    | some (.directory _) => t.makeDirectoriesFrom here rest
    | some (.file _ _) => (t, .error blocked)
    | some (.unreadable _) => (t, .error blocked)
    | some (.link target) =>
      match t.follow false maxLinks loc (Path.steps target) with
      | .error .notFound => (t, .error .alreadyExists)
      | .error e => (t, .error (if rest.isEmpty then .alreadyExists else e))
      | .ok found =>
        if (t.get? found).any Entry.isDirectory then t.makeDirectoriesFrom found rest
        else (t, .error blocked)

def makeDirectories (t : FileTree) (p : Path) : FileTree × Except FileError Unit :=
  match checkPath p with
  | .error e => (t, .error e)
  | .ok _ => t.makeDirectoriesFrom [] p

def makeRoom (t : FileTree) (written : Text) : FileTree × Except FileError Unit :=
  t.makeDirectories (Path.ofText (Path.parentText written))

end FileTree
end PodSite
