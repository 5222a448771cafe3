import PodSite.Yaml.Scalar

/-!
The tokens of a YAML text, from its first character to its last.
-/
namespace PodSite.Yaml

namespace Scan

def mark (t : Token) : Scan Unit := do
  skip
  emit t

def leaveBlocks : Scan Unit := do
  unroll (-1)
  dropKey
  allowKey false

def marker (t : Token) : Scan Unit := do
  leaveBlocks
  skip
  skip
  mark t

def openFlow (t : Token) : Scan Unit := do
  saveKey
  modify fun s => { s with keys := none :: s.keys }
  allowKey true
  mark t

def closeFlow (t : Token) : Scan Unit := do
  dropKey
  if ← inFlow then modify fun s => { s with keys := s.keys.tail }
  allowKey false
  mark t

def flowEntry : Scan Unit := do
  dropKey
  allowKey true
  mark .flowEntry

def startBlock (t : Token) : Scan Unit := do
  if !(← inFlow) then
    if !(← get).keyAllowed then failure
    roll (← column) none t

def blockEntry : Scan Unit := do
  startBlock .blockSequenceStart
  dropKey
  allowKey true
  mark .blockEntry

def keyMark : Scan Unit := do
  startBlock .blockMappingStart
  dropKey
  allowKey !(← inFlow)
  mark .key

def valueMark : Scan Unit := do
  match ← validKey with
  | some key =>
    emitAt key.tokens .key
    roll key.column (some key.tokens) .blockMappingStart
    setKey none
    allowKey false
  | none =>
    startBlock .blockMappingStart
    allowKey !(← inFlow)
  mark .value

def keyLike (t : Scan Token) : Scan Unit := do
  saveKey
  allowKey false
  emit (← t)

def blockScalar (literal : Bool) : Scan Unit := do
  dropKey
  allowKey true
  skip
  let text ← block literal
  emit (.scalar text (if literal then .literal else .folded))

def quotedScalar (single : Bool) : Scan Token := do
  skip
  let text ← quoted single ((← get).rest.length + 1) []
  return .scalar text (if single then .singleQuoted else .doubleQuoted)

def plainScalar : Scan Token := do
  let s ← get
  let text ← plain (s.indent + 1).toNat (s.rest.length + 1) [] Gap.empty
  return .scalar text .plain

def indicators : Text := "-?:,[]\x7b\x7d#&*!|>'\"%@\x60".toList

def token : Scan Bool := do
  toToken ((← get).rest.length + 1)
  unroll (← column)
  let atStart := (← column) = 0
  let flow ← inFlow
  let next ← ahead 1
  match ← peek with
  | none =>
    leaveBlocks
    return false
  | some c =>
    if atStart && c == '%' then
      leaveBlocks
      emit (← directive)
    else if ← atMarker then marker (if c == '-' then .documentStart else .documentEnd)
    else if c == '[' then openFlow .flowSequenceStart
    else if c == '\x7b' then openFlow .flowMappingStart
    else if c == ']' then closeFlow .flowSequenceEnd
    else if c == '\x7d' then closeFlow .flowMappingEnd
    else if c == ',' then flowEntry
    else if c == '-' && isGap next then blockEntry
    else if c == '?' && (flow || isGap next) then keyMark
    else if c == ':' && (flow || isGap next) then valueMark
    else if c == '*' then keyLike (do skip; return .alias (← name))
    else if c == '&' then keyLike (do skip; return .anchor (← name))
    else if c == '!' then keyLike tag
    else if c == '|' && !flow then blockScalar true
    else if c == '>' && !flow then blockScalar false
    else if c == '\'' then keyLike (quotedScalar true)
    else if c == '"' then keyLike (quotedScalar false)
    else if !isGap (some c) && (!indicators.contains c || (c == '-' && !next.any isSpace) ||
        (!flow && (c == '?' || c == ':') && !isGap next)) then
      keyLike plainScalar
    else failure
    return true

def tokens : (fuel : Nat) → Scan Unit
  | 0 => failure
  | fuel + 1 => do if ← token then tokens fuel

end Scan

def isAllowed (c : Char) : Bool :=
  let n := c.toNat
  n == 9 || n == 10 || n == 13 || (0x20 ≤ n && n ≤ 0x7E) || n == 0x85 ||
    (0xA0 ≤ n && n ≤ 0xFFFD) || 0x10000 ≤ n

def tokens? (text : Text) : Option (List Token) := do
  if !text.all isAllowed then none
  let start : Scanner := ⟨text, 0, 0, 0, -1, [], true, [none], #[]⟩
  let (_, s) ← (Scan.tokens (text.length + 1)).run start
  return s.tokens.toList

end PodSite.Yaml
