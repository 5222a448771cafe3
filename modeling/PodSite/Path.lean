import PodSite.Text.Basic

/-!
Paths. A path is the list of its components; a path as somebody wrote it is a text, from which the
components are read. Repeated slashes, and dots other than a leading one, leave no component.
-/
namespace PodSite

inductive Component where
  | root
  | current
  | parent
  | name (n : Text)
deriving DecidableEq, Repr

abbrev Path := List Component

namespace Component

def spell : Component → Text
  | root => ['/']
  | current => ['.']
  | parent => ['.', '.']
  | name n => n

def isName : Component → Bool
  | name _ => true
  | _ => false

def ofSegment (segment : Text) : Component :=
  if segment = [] ∨ segment = ['.'] then current
  else if segment = ['.', '.'] then parent
  else name segment

end Component

namespace Path

/-- The segments between slashes, one component each: an empty segment counts as a dot. -/
def steps (written : Text) : Path :=
  match written with
  | '/' :: rest => .root :: (Text.splitOn '/' rest).map Component.ofSegment
  | _ => (Text.splitOn '/' written).map Component.ofSegment

def ofText (written : Text) : Path :=
  match written with
  | [] => []
  | '/' :: _ => (steps written).filter (· != .current)
  | _ =>
    let parts := (steps written).filter (· != .current)
    if (Text.splitOn '/' written).head? = some ['.'] then .current :: parts else parts

def spell : Path → Text
  | .root :: rest => '/' :: ['/'].intercalate (rest.map Component.spell)
  | parts => ['/'].intercalate (parts.map Component.spell)

/-- A zero character stands in some name. No file can have such a path. -/
def hasZero (p : Path) : Bool := p.any fun part => part.spell.contains '\x00'

def parent? (p : Path) : Option Path :=
  match p.getLast? with
  | none | some .root => none
  | some _ => some p.dropLast

def fileName? (p : Path) : Option Text :=
  match p.getLast? with
  | some (.name n) => some n
  | _ => none

/-- A file name cut at its last dot, unless that dot is its first character. -/
def splitExtension (n : Text) : Text × Option Text :=
  let back := (n.reverse.takeWhile (· != '.')).reverse
  match (n.reverse.dropWhile (· != '.')).reverse.dropLast with
  | [] => (n, none)
  | stem => (stem, some back)

def extension? (p : Path) : Option Text := (fileName? p).bind fun n => (splitExtension n).2

def below? : (base p : Path) → Option Path
  | [], p => some p
  | _ :: _, [] => none
  | a :: base, b :: p => if a = b then below? base p else none

def common : Path → Path → Nat
  | a :: p, b :: q => if a = b then common p q + 1 else 0
  | _, _ => 0

def ofNames (names : List Text) : Path := names.map Component.name

def absolute (names : List Text) : Path := .root :: ofNames names

def joinedBy (mark : Text) (p : Path) : Text := mark.intercalate (p.map Component.spell)

def joinText (base written : Text) : Text :=
  match written with
  | '/' :: _ => written
  | _ =>
    if base = [] ∨ base.getLast? = some '/' then base ++ written else base ++ '/' :: written

def trimTail (written : Text) : Text := (go written.reverse).reverse
where
  go : Text → Text
    | ['/'] => ['/']
    | '/' :: rest => go rest
    | ['.', '/'] => ['/']
    | '.' :: '/' :: rest => go rest
    | t => t

def parentText (written : Text) : Text :=
  trimTail ((trimTail written).reverse.dropWhile (· != '/')).reverse

/-- A written path ends in a name with a slash after it, so that it can only be a directory. -/
def asksDirectory (written : Text) : Bool :=
  let segments := (Text.splitOn '/' written).filter (!·.isEmpty)
  written.getLast? = some '/' && segments.getLast?.any fun s => (Component.ofSegment s).isName

def fromDirectory (cwd : List Text) (written : Text) : Path :=
  match ofText written with
  | .root :: rest => .root :: rest
  | .current :: rest => absolute cwd ++ rest
  | parts => absolute cwd ++ parts

/-- A written path as seen from the directory `cwd`, without repeated slashes and dots. A slash at
its end is kept. -/
def absoluteText (cwd : List Text) (written : Text) : Text :=
  let p := fromDirectory cwd written
  let slash := if written.getLast? = some '/' ∧ p ≠ [.root] then ['/'] else []
  spell p ++ slash

end Path
end PodSite
