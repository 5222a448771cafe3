import PodSite.Pattern.Compose
import PodSite.Pattern.NamedClass
import PodSite.Text.Folding
import PodSite.Text.Number

/-!
Reading the characters of a pattern: white space and comments where the options allow them, and
escapes. A reader takes characters from the front of the pattern and fails on anything it does not
know.
-/
namespace PodSite.Pattern
open Text (CharSet)

structure Flags where
  ignoreCase : Bool
  multiLine : Bool
  dotAll : Bool
  swapGreed : Bool
  unicode : Bool
  crlf : Bool
  verbose : Bool

def Flags.initial : Flags := ⟨false, false, false, false, true, false, false⟩

structure ReadState where
  rest : Text
  flags : Flags
  groups : Nat
  names : List Text

abbrev Read := StateT ReadState Option

def skipVerbose (inComment : Bool) : Text → Text
  | [] => []
  | c :: rest =>
    if inComment then skipVerbose (c != '\n') rest
    else if Text.isBlank c then skipVerbose false rest
    else if c = '#' then skipVerbose true rest
    else c :: rest

/-- The leading characters that satisfy `p`, and the rest. In a verbose pattern white space and
comments in front of each character, and after the last one, are left out. -/
def takeSpaced (verbose : Bool) (p : Char → Bool) (inComment : Bool) : Text → Text × Text
  | [] => ([], [])
  | c :: rest =>
    if inComment then takeSpaced verbose p (c != '\n') rest
    else if verbose && Text.isBlank c then takeSpaced verbose p false rest
    else if verbose && c == '#' then takeSpaced verbose p true rest
    else if p c then
      let (taken, rest) := takeSpaced verbose p false rest
      (c :: taken, rest)
    else ([], c :: rest)

namespace Read

def flags : Read Flags := do return (← get).flags

def peek? : Read (Option Char) := do return (← get).rest.head?

def second? : Read (Option Char) := do return (← get).rest.tail.head?

def advance : Read Unit := modify fun s => { s with rest := s.rest.tail }

def next : Read Char := do
  match (← get).rest with
  | [] => failure
  | c :: rest => modify fun s => { s with rest := rest }; return c

def take? (front : Text) : Read Bool := do
  match Text.dropPrefix? front (← get).rest with
  | some rest => modify fun s => { s with rest := rest }; return true
  | none => return false

def expect (c : Char) : Read Unit := do
  if (← next) ≠ c then failure

def skipSpace : Read Unit :=
  modify fun s => if s.flags.verbose then { s with rest := skipVerbose false s.rest } else s

def takeRun (p : Char → Bool) : Read Text := do
  let taken := (← get).rest.takeWhile p
  modify fun s => { s with rest := s.rest.drop taken.length }
  return taken

def takeSpacedRun (p : Char → Bool) : Read Text := do
  let s ← get
  let (taken, rest) := takeSpaced s.flags.verbose p false s.rest
  set { s with rest := rest }
  return taken

end Read

def readDecimal? : Read (Option Nat) := do
  let _ ← Read.takeRun Text.isBlank
  let digits ← Read.takeSpacedRun Text.isAsciiDigit
  let _ ← Read.takeRun Text.isBlank
  if digits.isEmpty then return none
  match Text.number? 10 digits with
  | some n => if n < 0x100000000 then return some n else failure
  | none => failure

def hexChar (digits : Text) : Read Char := do
  match Text.number? 16 digits with
  | some n =>
    if n < 0xD800 ∨ (0xDFFF < n ∧ n < 0x110000) then return Char.ofNat n else failure
  | none => failure

def isAscii (c : Char) : Bool := c.toNat < 128

def isHexDigit (c : Char) : Bool := (Text.digitValue? 16 c).isSome

def readHexDigits : Nat → Read Text
  | 0 => return []
  | n + 1 => do
    Read.skipSpace
    let c ← Read.next
    if isHexDigit c then return c :: (← readHexDigits n) else failure

/-- The character of a hexadecimal escape: its digits stand in braces, or are as many as `width`.
Two digits without braces stand for a byte, which is no character if only ASCII counts and it is
none. -/
def readHex (width : Nat) : Read Char := do
  Read.skipSpace
  if (← Read.peek?) = some '\x7b' then
    Read.advance
    let digits ← Read.takeSpacedRun (· != '\x7d')
    Read.expect '\x7d'
    Read.skipSpace
    if digits.all isHexDigit then hexChar digits else failure
  else
    let c ← hexChar (← readHexDigits width)
    Read.skipSpace
    if width = 2 ∧ !(← Read.flags).unicode ∧ !isAscii c then failure
    return c

inductive Primitive where
  | literal (c : Char)
  | set (s : CharSet)
  | assertion (a : Assertion)

def closeCase (flags : Flags) (s : CharSet) : CharSet :=
  if !flags.ignoreCase then s
  else if flags.unicode then s.foldCase
  else s.foldCase.intersection .ascii

def foldAndNegate (flags : Flags) (negated : Bool) (s : CharSet) : CharSet :=
  if negated then (closeCase flags s).complement else closeCase flags s

def propertySet? (name : Text) : Option (CharSet × Bool) :=
  match Text.splitAtFirst? ['!', '='] name with
  | some (key, value) => (CharSet.valued? key value).map fun s => (s, true)
  | none =>
    match Text.splitOnce? (· == ':') name with
    | some (key, value) => (CharSet.valued? key value).map fun s => (s, false)
    | none =>
      match Text.splitOnce? (· == '=') name with
      | some (key, value) => (CharSet.valued? key value).map fun s => (s, false)
      | none => (CharSet.named? name).map fun s => (s, false)

def readProperty (negated : Bool) : Read Primitive := do
  Read.skipSpace
  let c ← Read.next
  let found ←
    if c = '\x7b' then do
      let name ← Read.takeSpacedRun (· != '\x7d')
      Read.expect '\x7d'
      pure (propertySet? name)
    else if c = '\\' then failure
    else do
      Read.skipSpace
      pure ((CharSet.named? [c]).map fun s => (s, false))
  let flags ← Read.flags
  match found with
  | some (s, inverted) =>
    if flags.unicode then return .set (foldAndNegate flags (negated != inverted) s) else failure
  | none => failure

/-- A letter for digits, white space or word characters; its capital stands for all others, which
are not all ASCII. -/
def letterClass? (flags : Flags) (c : Char) : Option CharSet :=
  let kind : LetterClass :=
    match c.toLower with
    | 'd' => .digit
    | 's' => .blank
    | _ => .word
  if flags.unicode then
    some (if c.isUpper then kind.everyScript.complement else kind.everyScript)
  else if c.isUpper then none
  else some kind.ascii

/-- The word boundary named in braces after its escape. What stands in the braces is no name if it
starts with something else than a letter or a hyphen. -/
def readBoundary : Read Assertion := do
  let unicode := (← Read.flags).unicode
  let before ← get
  if before.rest.head? ≠ some '\x7b' then return .wordBoundary unicode
  Read.advance
  let name ← Read.takeSpacedRun fun c => Text.isAsciiLetter c || c == '-'
  if name.isEmpty then
    if (← Read.peek?).isNone then failure
    set before
    return .wordBoundary unicode
  Read.expect '\x7d'
  match String.ofList name with
  | "start" => return .wordStart unicode
  | "end" => return .wordEnd unicode
  | "start-half" => return .wordStartHalf unicode
  | "end-half" => return .wordEndHalf unicode
  | _ => failure

def readEscape : Read Primitive := do
  let c ← Read.next
  let flags ← Read.flags
  match c with
  | 'x' => return .literal (← readHex 2)
  | 'u' => return .literal (← readHex 4)
  | 'U' => return .literal (← readHex 8)
  | 'p' => readProperty false
  | 'P' => readProperty true
  | 'd' | 's' | 'w' | 'D' | 'S' | 'W' =>
    match letterClass? flags c with
    | some s => return .set s
    | none => failure
  | 'a' => return .literal '\x07'
  | 'f' => return .literal '\x0C'
  | 't' => return .literal '\t'
  | 'n' => return .literal '\n'
  | 'r' => return .literal '\r'
  | 'v' => return .literal '\x0B'
  | 'A' => return .assertion .textStart
  | 'z' => return .assertion .textEnd
  | 'b' => return .assertion (← readBoundary)
  | 'B' => return .assertion (.noWordBoundary flags.unicode)
  | '<' => return .assertion (.wordStart flags.unicode)
  | '>' => return .assertion (.wordEnd flags.unicode)
  | c => if isAscii c && !Text.isAsciiAlphanumeric c then return .literal c else failure

end PodSite.Pattern
