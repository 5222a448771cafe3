import PodSite.Pattern.Parse
import PodSite.Pattern.Program
import PodSite.Pattern.Size

/-!
Matching. All ways through a program are followed at once, in the order of preference, one character
of the text at a time; the leftmost match is found, and of those the preferred one.
-/
namespace PodSite

structure Pattern where
  source : Text
  start : Nat
  program : Pattern.Program

namespace Pattern

abbrev Slots := List (Nat × Nat)

structure Thread where
  next : Nat
  slots : Slots

structure Place where
  position : Nat
  before : Option Char
  after : Option Char

def isWordAt (unicode : Bool) (c : Option Char) : Bool :=
  c.any (if unicode then LetterClass.word.everyScript else LetterClass.word.ascii).has

def Assertion.holdsAt (a : Assertion) (p : Place) : Bool :=
  match a with
  | textStart => p.before.isNone
  | textEnd => p.after.isNone
  | lineStart => p.before.isNone || p.before == some '\n'
  | lineEnd => p.after.isNone || p.after == some '\n'
  | crlfStart =>
    p.before.isNone || p.before == some '\n' || (p.before == some '\r' && p.after != some '\n')
  | crlfEnd =>
    p.after.isNone || p.after == some '\r' || (p.after == some '\n' && p.before != some '\r')
  | wordBoundary u => isWordAt u p.before != isWordAt u p.after
  | noWordBoundary u => isWordAt u p.before == isWordAt u p.after
  | wordStart u => !isWordAt u p.before && isWordAt u p.after
  | wordEnd u => isWordAt u p.before && !isWordAt u p.after
  | wordStartHalf u => !isWordAt u p.before
  | wordEndHalf u => !isWordAt u p.after

/-- Follows threads up to the instructions that take a character or accept. An instruction is
reached once: the first thread there is the preferred one. The threads are given and returned in the
order of preference; `seen` marks the instructions reached, and `fuel` bounds the steps. -/
def settle (program : Program) (place : Place) :
    (fuel : Nat) → List Thread → (seen : Array Bool) → List Thread
  | 0, _, _ => []
  | _, [], _ => []
  | fuel + 1, t :: rest, seen =>
    if seen.getD t.next true then settle program place fuel rest seen
    else
      let seen := seen.setIfInBounds t.next true
      match program[t.next]? with
      | none => settle program place fuel rest seen
      | some (.char _ _) => t :: settle program place fuel rest seen
      | some .accept => t :: settle program place fuel rest seen
      | some (.assertion a next) =>
        if a.holdsAt place then settle program place fuel ({ t with next := next } :: rest) seen
        else settle program place fuel rest seen
      | some (.save slot next) =>
        settle program place fuel (⟨next, (slot, place.position) :: t.slots⟩ :: rest) seen
      | some (.split first second) =>
        settle program place fuel
          ({ t with next := first } :: { t with next := second } :: rest) seen

def cutAtAccept (program : Program) : List Thread → List Thread × Option Slots
  | [] => ([], none)
  | t :: rest =>
    match program[t.next]? with
    | some .accept => ([], some t.slots)
    | _ =>
      let (before, found) := cutAtAccept program rest
      (t :: before, found)

def advance (program : Program) (c : Char) (threads : List Thread) : List Thread :=
  threads.filterMap fun (t : Thread) =>
    match program[t.next]? with
    | some (.char set next) => if set.has c then some { t with next := next } else none
    | _ => none

/-- Matches the rest of a text. A match found ends the threads that are less preferred, and no new
ones start. -/
def search (p : Pattern) (position : Nat) (before : Option Char) (threads : List Thread)
    (found : Option Slots) : Text → Option Slots
  | [] =>
    let place : Place := ⟨position, before, none⟩
    (visit p place threads found).2
  | c :: rest =>
    let place : Place := ⟨position, before, some c⟩
    let (alive, found) := visit p place threads found
    search p (position + 1) (some c) (advance p.program c alive) found rest
where
  /-- The threads alive at a place, and the best match so far. -/
  visit (p : Pattern) (place : Place) (threads : List Thread) (found : Option Slots) :
      List Thread × Option Slots :=
    let threads := if found.isNone then threads ++ [⟨p.start, []⟩] else threads
    let fuel := 2 * p.program.size + threads.length + 2
    let settled := settle p.program place fuel threads (Array.replicate p.program.size false)
    let (alive, accepted) := cutAtAccept p.program settled
    (alive, accepted.orElse fun _ => found)

/-- Reads a pattern; one that would take too much memory is refused. -/
def ofText? (source : Text) : Option Pattern :=
  (parse? source).bind fun regex =>
    if regex.fits then
      let (start, program) := Program.ofRegex regex
      some ⟨source, start, program⟩
    else none

structure Captures where
  text : Text
  slots : Slots

def Captures.get? (c : Captures) (group : Nat) : Option Text := do
  let first ← c.slots.lookup (2 * group)
  let last ← c.slots.lookup (2 * group + 1)
  return (c.text.drop first).take (last - first)

def captures? (p : Pattern) (text : Text) : Option Captures :=
  (search p 0 none [] none text).map fun slots => ⟨text, slots⟩

def isMatch (p : Pattern) (text : Text) : Bool := (p.captures? text).isSome

end Pattern
end PodSite
