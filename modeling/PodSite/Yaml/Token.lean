import PodSite.Text.Number
import PodSite.Text.Utf8

/-!
Tokens of YAML. The scanner keeps the place it has reached, the columns of the open block
collections, and the places where a key may have started: a key is known as such only when its colon
comes, and the tokens that announce it are then put in front of it.
-/
namespace PodSite.Yaml

inductive ScalarStyle where
  | plain
  | singleQuoted
  | doubleQuoted
  | literal
  | folded
deriving DecidableEq, Repr

inductive Token where
  | versionDirective (major minor : Nat)
  | tagDirective (handle : Text) (tagStart : Bytes)
  | documentStart
  | documentEnd
  | blockSequenceStart
  | blockMappingStart
  | blockEnd
  | flowSequenceStart
  | flowSequenceEnd
  | flowMappingStart
  | flowMappingEnd
  | blockEntry
  | flowEntry
  | key
  | value
  | alias (name : Text)
  | anchor (name : Text)
  | tag (handle : Text) (suffix : Bytes)
  | scalar (text : Text) (style : ScalarStyle)
deriving DecidableEq, Repr

structure KeyStart where
  /-- Nothing but a key can stand there. -/
  required : Bool
  /-- The number of tokens in front of it. -/
  tokens : Nat
  /-- The number of bytes in front of it. -/
  index : Nat
  line : Nat
  column : Nat

structure Scanner where
  rest : Text
  /-- The number of bytes read. -/
  index : Nat
  line : Nat
  column : Nat
  /-- The column of the innermost block collection, `-1` outside all of them. -/
  indent : Int
  indents : List Int
  /-- A key may start at this place. -/
  keyAllowed : Bool
  /-- The possible key of the innermost flow collection first, that of the block context last. -/
  keys : List (Option KeyStart)
  tokens : Array Token

abbrev Scan := StateT Scanner Option

def isBreak (c : Char) : Bool :=
  c == '\n' || c == '\r' || c == '\x85' || c == '\u2028' || c == '\u2029'

def isSpace (c : Char) : Bool := c == ' ' || c == '\t'

def isGap (c : Option Char) : Bool := c.all fun c => isSpace c || isBreak c

def isLineEnd (c : Option Char) : Bool := c.all isBreak

def isNameChar (c : Char) : Bool := Text.isAsciiAlphanumeric c || c == '_' || c == '-'

namespace Scan

def peek : Scan (Option Char) := do return (← get).rest.head?

def ahead (n : Nat) : Scan (Option Char) := do return (← get).rest[n]?

def column : Scan Nat := do return (← get).column

def startsWith (front : Text) : Scan Bool := do return (Text.dropPrefix? front (← get).rest).isSome

def skip : Scan Unit :=
  modify fun s => { s with
    rest := s.rest.tail
    index := s.index + (s.rest.head?.map Char.utf8Size).getD 0
    column := s.column + 1 }

def take : Scan Char := do
  match ← peek with
  | some c => skip; return c
  | none => failure

def takeBreak : Scan Text := do
  let s ← get
  let (rest, width, shown) : Text × Nat × Text :=
    match s.rest with
    | '\r' :: '\n' :: rest => (rest, 2, ['\n'])
    | '\r' :: rest => (rest, 1, ['\n'])
    | '\n' :: rest => (rest, 1, ['\n'])
    | '\x85' :: rest => (rest, 2, ['\n'])
    | '\u2028' :: rest => (rest, 3, ['\u2028'])
    | '\u2029' :: rest => (rest, 3, ['\u2029'])
    | rest => (rest, 0, [])
  if 0 < width then
    set { s with rest := rest, index := s.index + width, column := 0, line := s.line + 1 }
  return shown

def takeWhile (p : Char → Bool) : Scan Text := do
  let taken := (← get).rest.takeWhile p
  modify fun s => { s with
    rest := s.rest.drop taken.length
    index := s.index + Text.byteCount taken
    column := s.column + taken.length }
  return taken

def skipWhile (p : Char → Bool) : Scan Unit := do
  let _ ← takeWhile p

def skipComment : Scan Unit := do
  if (← peek) = some '#' then skipWhile fun c => !isBreak c

def inFlow : Scan Bool := do return 1 < (← get).keys.length

def emit (t : Token) : Scan Unit := modify fun s => { s with tokens := s.tokens.push t }

def emitAt (place : Nat) (t : Token) : Scan Unit :=
  modify fun s => { s with tokens := s.tokens.insertIdxIfInBounds place t }

def allowKey (allowed : Bool) : Scan Unit := modify fun s => { s with keyAllowed := allowed }

def setKey (key : Option KeyStart) : Scan Unit :=
  modify fun s => { s with keys := key :: s.keys.tail }

def dropKey : Scan Unit := do
  match (← get).keys.head? with
  | some (some key) => if key.required then failure else setKey none
  | _ => return

def saveKey : Scan Unit := do
  let s ← get
  if s.keyAllowed then
    dropKey
    let required := !(← inFlow) && s.indent == s.column
    setKey (some ⟨required, s.tokens.size, s.index, s.line, s.column⟩)

/-- The possible key, if its colon can still come: a key is short and stands in one line. -/
def validKey : Scan (Option KeyStart) := do
  let s ← get
  match s.keys.head? with
  | some (some key) =>
    if key.line < s.line || key.index + 1024 < s.index then
      if key.required then failure
      setKey none
      return none
    return some key
  | _ => return none

/-- Starts a block collection at `column` if that is further in; its token goes to `place`. -/
def roll (column : Nat) (place : Option Nat) (t : Token) : Scan Unit := do
  let s ← get
  if !(← inFlow) && s.indent < column then
    set { s with indent := column, indents := s.indent :: s.indents }
    match place with
    | some n => emitAt n t
    | none => emit t

def unroll (column : Int) : Scan Unit := do
  if !(← inFlow) then
    modify fun s => go s s.indents
where
  go (s : Scanner) : List Int → Scanner
    | [] => s
    | outer :: more =>
      if column < s.indent then
        go { s with indent := outer, indents := more, tokens := s.tokens.push .blockEnd } more
      else s

/-- Passes over white space, comments and line breaks, and over a byte order mark at the start of a
line. In a block, tabs do not count as white space where a key may start. -/
def toToken : (fuel : Nat) → Scan Unit
  | 0 => return
  | fuel + 1 => do
    if (← column) = 0 ∧ (← peek) = some '\uFEFF' then skip
    let tabs := (← inFlow) || !(← get).keyAllowed
    skipWhile fun c => c == ' ' || (tabs && c == '\t')
    skipComment
    if (← peek).any isBreak then
      let _ ← takeBreak
      if !(← inFlow) then allowKey true
      toToken fuel

def atMarker : Scan Bool := do
  if (← column) ≠ 0 then return false
  let marker := (← startsWith "---".toList) || (← startsWith "...".toList)
  return marker && isGap (← ahead 3)

def name : Scan Text := do
  let n ← takeWhile isNameChar
  let next ← peek
  if n.isEmpty then failure
  if isGap next || next.any (fun c => "?:,]\x7d%@\x60".toList.contains c) then return n
  failure

def isUriChar (verbatim : Bool) (c : Char) : Bool :=
  isNameChar c || ";/?:@&=+$.!~*'()%".toList.contains c || (verbatim && ",[]".toList.contains c)

def width? (first : Nat) : Option Nat :=
  if first < 0x80 then some 1
  else if first < 0xC0 then none
  else if first < 0xE0 then some 2
  else if first < 0xF0 then some 3
  else if first < 0xF8 then some 4
  else none

/-- The bytes of a part of a tag, with its percent escapes replaced; `skip` characters belong to the
escape before, and `owed` bytes to the character before. A character is escaped as a whole, but
nothing more is asked of its bytes than that the number of them is right. -/
def uriBytes (skip owed : Nat) : Text → Option Bytes
  | [] => if owed = 0 then some [] else none
  | c :: rest =>
    match skip with
    | skip + 1 => uriBytes skip owed rest
    | 0 =>
      if c = '%' then do
        let high ← rest.head?.bind (Text.digitValue? 16)
        let low ← rest.tail.head?.bind (Text.digitValue? 16)
        let byte := high * 16 + low
        let owed ←
          match owed with
          | 0 => (width? byte).map (· - 1)
          | more + 1 => if 0x80 ≤ byte ∧ byte < 0xC0 then some more else none
        return byte.toUInt8 :: (← uriBytes 2 owed rest)
      else if owed = 0 then return Text.Utf8.encode [c] ++ (← uriBytes 0 0 rest)
      else none

def upToZero (bytes : Bytes) : Bytes := bytes.takeWhile (· != 0)

def uri (verbatim : Bool) (front : Text) : Scan Bytes := do
  let t ← takeWhile (isUriChar verbatim)
  if front.isEmpty && t.isEmpty then failure
  match uriBytes 0 0 t with
  | some bytes => return upToZero (Text.Utf8.encode (front.drop 1) ++ bytes)
  | none => failure

def tagHandle : Scan Text := do
  Scan.skip
  let word ← takeWhile isNameChar
  if (← peek) = some '!' then
    skip
    return '!' :: word ++ ['!']
  return '!' :: word

def tag : Scan Token := do
  let (handle, suffix) ←
    if (← ahead 1) = some '<' then do
      skip
      skip
      let suffix ← uri true []
      if (← take) ≠ '>' then failure
      pure ([], suffix)
    else do
      let handle ← tagHandle
      if 1 < handle.length && handle.getLast? == some '!' then
        pure (handle, ← uri false [])
      else
        let suffix ← uri false handle
        if suffix.isEmpty then pure ([], Text.Utf8.encode ['!']) else pure (['!'], suffix)
  let next ← peek
  if isGap next || ((← inFlow) && next == some ',') then return .tag handle suffix
  failure

def directive : Scan Token := do
  skip
  let name ← takeWhile isNameChar
  if !isGap (← peek) then failure
  skipWhile isSpace
  let t ←
    if name = "YAML".toList then do
      let major ← takeWhile Text.isAsciiDigit
      if (← take) ≠ '.' then failure
      let minor ← takeWhile Text.isAsciiDigit
      if major.length > 9 || minor.length > 9 then failure
      match Text.number? 10 major, Text.number? 10 minor with
      | some a, some b => pure (Token.versionDirective a b)
      | _, _ => failure
    else if name = "TAG".toList then do
      if (← peek) ≠ some '!' then failure
      let handle ← tagHandle
      if handle ≠ ['!'] && handle.getLast? ≠ some '!' then failure
      if !(← peek).any isSpace then failure
      skipWhile isSpace
      let start ← uri true []
      if !isGap (← peek) then failure
      pure (Token.tagDirective handle start)
    else failure
  skipWhile isSpace
  skipComment
  if !isLineEnd (← peek) then failure
  let _ ← takeBreak
  return t

end Scan
end PodSite.Yaml
