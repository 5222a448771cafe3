import PodSite.Pattern.Bracket
import PodSite.Text.Numeral

/-!
The notation of patterns: alternatives, repetitions, groups and options. There are no look-around
assertions.
-/
namespace PodSite.Pattern
open Text (CharSet)

def Flags.set? (flags : Flags) (letter : Char) (value : Bool) : Option Flags :=
  match letter with
  | 'i' => some { flags with ignoreCase := value }
  | 'm' => some { flags with multiLine := value }
  | 's' => some { flags with dotAll := value }
  | 'U' => some { flags with swapGreed := value }
  | 'u' => some { flags with unicode := value }
  | 'R' => some { flags with crlf := value }
  | 'x' => some { flags with verbose := value }
  | _ => none

/-- The options named by `letters`; after a hyphen they are switched off. No letter may come twice,
and a hyphen needs a letter after it. -/
def Flags.update? (flags : Flags) (seen : Text) (value : Bool) : Text → Option Flags
  | [] => if seen.getLast? = some '-' then none else some flags
  | '-' :: rest => if seen.contains '-' then none else flags.update? (seen ++ ['-']) false rest
  | letter :: rest =>
    if seen.contains letter then none
    else (flags.set? letter value).bind fun next => next.update? (seen ++ [letter]) value rest

def isNameStart (c : Char) : Bool := c == '_' || Text.isLetter c

def isNameChar (c : Char) : Bool :=
  c == '_' || c == '.' || c == '[' || c == ']' || Text.isAlphanumeric c

def readGroupName : Read Unit := do
  let name ← Read.takeRun (· != '>')
  Read.expect '>'
  match name with
  | [] => failure
  | c :: rest =>
    if isNameStart c && rest.all isNameChar && !(← get).names.contains name then
      modify fun s => { s with names := name :: s.names }
    else failure

def readCounts : Read (Nat × Option Nat) := do
  Read.skipSpace
  let least ← readDecimal?
  match ← Read.next with
  | '\x7d' =>
    match least with
    | some n => return (n, some n)
    | none => failure
  | ',' =>
    Read.skipSpace
    if (← Read.peek?) = some '\x7d' then
      Read.advance
      match least with
      | some n => return (n, none)
      | none => failure
    else
      let most ← readDecimal?
      Read.expect '\x7d'
      match least, most with
      | some n, some m => if n ≤ m then return (n, some m) else failure
      | _, _ => failure
  | _ => failure

def readGreed : Read Bool := do
  let lazy := (← Read.peek?) = some '?'
  if lazy then Read.advance
  return lazy == (← Read.flags).swapGreed

def literal (flags : Flags) (c : Char) : Regex :=
  if flags.unicode || isAscii c then .oneIn (closeCase flags (.single c)) else .literal [c]

def dot (flags : Flags) : Regex :=
  if flags.dotAll then .set .any
  else if flags.crlf then .set (CharSet.ofRanges [(0x0A, 0x0A), (0x0D, 0x0D)]).complement
  else .set (CharSet.single '\n').complement

def lineStart (flags : Flags) : Regex :=
  .assertion
    (if !flags.multiLine then .textStart else if flags.crlf then .crlfStart else .lineStart)

def lineEnd (flags : Flags) : Regex :=
  .assertion (if !flags.multiLine then .textEnd else if flags.crlf then .crlfEnd else .lineEnd)

def ofPrimitive (flags : Flags) : Primitive → Regex
  | .literal c => literal flags c
  | .set s => .oneIn s
  | .assertion a => .assertion a

/-- An element of a sequence as it is written: a change of options, or an expression and how deep it
is nested. -/
inductive Piece where
  | options
  | expression (regex : Regex) (depth : Nat)

namespace Piece

def regex : Piece → Regex
  | options => .empty
  | expression r _ => r

def depth : Piece → Nat
  | options => 0
  | expression _ d => d

end Piece

def depthOf (depths : List Nat) : Nat :=
  match depths with
  | [] => 0
  | [d] => d
  | ds => ds.foldl max 0 + 1

/-- An open group: its number if it captures, the options outside of it, the alternatives read, and
what was read of the present one. Both lists have the last element first. -/
structure OpenGroup where
  capture : Option Nat
  outside : Flags
  finished : List (Regex × Nat)
  pieces : List Piece

namespace OpenGroup

def add (g : OpenGroup) (r : Regex) (depth : Nat) : OpenGroup :=
  { g with pieces := .expression r depth :: g.pieces }

def addOptions (g : OpenGroup) : OpenGroup := { g with pieces := .options :: g.pieces }

def present (g : OpenGroup) : Regex × Nat :=
  (.inOrder (g.pieces.reverse.map Piece.regex), depthOf (g.pieces.map Piece.depth))

def nextAlternative (g : OpenGroup) : OpenGroup :=
  { g with finished := g.present :: g.finished, pieces := [] }

def body (g : OpenGroup) : Regex × Nat :=
  match g.finished with
  | [] => g.present
  | finished =>
    let all := g.present :: finished
    (.oneOf (all.reverse.map (·.1)), depthOf (all.map (·.2)))

def close (g : OpenGroup) : Regex × Nat :=
  let (r, depth) := g.body
  match g.capture with
  | some index => (.capture index r, depth + 1)
  | none => (r, depth + 1)

def repeatLast? (g : OpenGroup) (least : Nat) (most : Option Nat) (greedy : Bool) :
    Option OpenGroup :=
  match g.pieces with
  | .expression r depth :: before =>
    some { g with pieces := .expression (.times least most greedy r) (depth + 1) :: before }
  | _ => none

end OpenGroup

inductive Opening where
  | group (g : OpenGroup)
  | options

def readOpening : Read Opening := do
  Read.skipSpace
  let outside ← Read.flags
  let capture : Read Opening := do
    let index := (← get).groups + 1
    modify fun s => { s with groups := index }
    return .group ⟨some index, outside, [], []⟩
  if ← Read.take? ['?'] then
    let ahead := (← get).rest
    if [['='], ['!'], ['<', '='], ['<', '!']].any (List.isPrefixOf · ahead) then failure
    else if ← Read.take? ['P', '<'] then
      readGroupName
      capture
    else if ← Read.take? ['<'] then
      readGroupName
      capture
    else
      let letters ← Read.takeRun fun c => c != ')' && c != ':'
      match outside.update? [] true letters, ← Read.next with
      | none, _ => failure
      | some flags, ':' =>
        modify fun s => { s with flags := flags }
        return .group ⟨none, outside, [], []⟩
      | some flags, _ =>
        if letters.isEmpty then failure
        modify fun s => { s with flags := flags }
        return .options
  else capture

/-- Reads the rest of a pattern inside open groups. The options set in a group end with it. -/
def readPieces : (fuel : Nat) → (inner : OpenGroup) → (outer : List OpenGroup) → Read (Regex × Nat)
  | 0, _, _ => failure
  | fuel + 1, inner, outer => do
    Read.skipSpace
    let flags ← Read.flags
    let repeated (least : Nat) (most : Option Nat) : Read (Regex × Nat) := do
      let greedy ← readGreed
      match inner.repeatLast? least most greedy with
      | some inner => readPieces fuel inner outer
      | none => failure
    match ← Read.peek? with
    | none => if outer.isEmpty then return inner.body else failure
    | some '[' =>
      let (s, depth) ← readBracketed
      readPieces fuel (inner.add (.oneIn s) depth) outer
    | some c =>
      Read.advance
      match c with
      | ')' =>
        match outer with
        | [] => failure
        | next :: others =>
          modify fun s => { s with flags := inner.outside }
          let (r, depth) := inner.close
          readPieces fuel (next.add r depth) others
      | '(' =>
        match ← readOpening with
        | .group g => readPieces fuel g (inner :: outer)
        | .options => readPieces fuel inner.addOptions outer
      | '|' => readPieces fuel inner.nextAlternative outer
      | '*' => repeated 0 none
      | '+' => repeated 1 none
      | '?' => repeated 0 (some 1)
      | '\x7b' =>
        let (least, most) ← readCounts
        Read.skipSpace
        repeated least most
      | '\\' => readPieces fuel (inner.add (ofPrimitive flags (← readEscape)) 0) outer
      | '.' =>
        if !flags.unicode then failure
        readPieces fuel (inner.add (dot flags) 0) outer
      | '^' => readPieces fuel (inner.add (lineStart flags) 0) outer
      | '$' => readPieces fuel (inner.add (lineEnd flags) 0) outer
      | c => readPieces fuel (inner.add (literal flags c) 0) outer

def maxDepth : Nat := 250

def parse? (source : Text) : Option Regex := do
  let start : ReadState := ⟨source, .initial, 0, []⟩
  let ((regex, depth), _) ←
    (readPieces (source.length + 1) ⟨none, .initial, [], []⟩ []).run start
  if depth ≤ maxDepth then some regex else none

end PodSite.Pattern
