import PodSite.Yaml.Token

/-!
Scalars of YAML in their five notations. Line breaks inside a scalar are folded: a single one
becomes a space, and of several the first is dropped. What has been read of a scalar is kept with
its last character first.
-/
namespace PodSite.Yaml

structure Gap where
  /-- White space in front of the first line break. -/
  blanks : Text
  /-- The first line break. -/
  first : Text
  /-- The line breaks after it. -/
  more : Text
  /-- A line break was passed. -/
  broken : Bool

def Gap.empty : Gap := ⟨[], [], [], false⟩

def Gap.folded (g : Gap) : Text :=
  if g.broken then
    if g.first.head? = some '\n' then (if g.more.isEmpty then [' '] else g.more)
    else g.first ++ g.more
  else g.blanks

namespace Scan

/-- Takes white space and line breaks. With a bound for the indentation, a tab in front of it is
refused. -/
def gap (indent : Option Nat) : (fuel : Nat) → Gap → Scan Gap
  | 0, g => return g
  | fuel + 1, g => do
    match ← peek with
    | none => return g
    | some c =>
      if isSpace c then
        if g.broken && c == '\t' && indent.any ((← column) < ·) then failure
        skip
        gap indent fuel (if g.broken then g else { g with blanks := g.blanks ++ [c] })
      else if isBreak c then
        let shown ← takeBreak
        if g.broken then gap indent fuel { g with more := g.more ++ shown }
        else gap indent fuel ⟨[], shown, g.more, true⟩
      else return g

def codeEscape (width : Nat) : Scan Text := do
  let digits := (← get).rest.take width
  let _ ← (List.replicate width ()).mapM fun _ => take
  if !digits.all (fun c => (Text.digitValue? 16 c).isSome) then failure
  match Text.number? 16 digits with
  | some n =>
    if n < 0xD800 ∨ (0xDFFF < n ∧ n < 0x110000) then return [Char.ofNat n] else failure
  | none => failure

def escape : Scan Text := do
  match ← take with
  | '0' => return ['\x00']
  | 'a' => return ['\x07']
  | 'b' => return ['\x08']
  | 't' => return ['\t']
  | '\t' => return ['\t']
  | 'n' => return ['\n']
  | 'v' => return ['\x0B']
  | 'f' => return ['\x0C']
  | 'r' => return ['\r']
  | 'e' => return ['\x1B']
  | ' ' => return [' ']
  | '"' => return ['"']
  | '/' => return ['/']
  | '\\' => return ['\\']
  | 'N' => return ['\x85']
  | '_' => return ['\u00A0']
  | 'L' => return ['\u2028']
  | 'P' => return ['\u2029']
  | 'x' => codeEscape 2
  | 'u' => codeEscape 4
  | 'U' => codeEscape 8
  | _ => failure

/-- Takes the rest of a word of a quoted scalar in front of what was read, and tells whether an
escaped line break ended it. -/
def quotedWord (single : Bool) : (fuel : Nat) → Text → Scan (Text × Bool)
  | 0, _ => failure
  | fuel + 1, seen => do
    let next ← ahead 1
    match ← peek with
    | none => return (seen, false)
    | some c =>
      if isGap (some c) then return (seen, false)
      else if single && c == '\'' && next == some '\'' then
        skip
        skip
        quotedWord single fuel ('\'' :: seen)
      else if c == (if single then '\'' else '"') then return (seen, false)
      else if !single && c == '\\' then
        skip
        if next.any isBreak then
          let _ ← takeBreak
          return (seen, true)
        quotedWord single fuel ((← escape).reverse ++ seen)
      else
        skip
        quotedWord single fuel (c :: seen)

def quoted (single : Bool) : (fuel : Nat) → Text → Scan Text
  | 0, _ => failure
  | fuel + 1, seen => do
    if ← atMarker then failure
    let (seen, escaped) ← quotedWord single (fuel + 1) seen
    match ← peek with
    | none => failure
    | some c =>
      if c == (if single then '\'' else '"') then
        skip
        return seen.reverse
      let g ← gap none fuel { Gap.empty with broken := escaped }
      quoted single fuel (g.folded.reverse ++ seen)

def plainWord : (fuel : Nat) → Text → Scan Text
  | 0, seen => return seen
  | fuel + 1, seen => do
    let flow ← inFlow
    let next ← ahead 1
    match ← peek with
    | none => return seen
    | some c =>
      if isGap (some c) then return seen
      else if flow && c == ':' && next.any (fun d => ",?[]\x7b\x7d".toList.contains d) then failure
      else if c == ':' && isGap next then return seen
      else if flow && ",[]\x7b\x7d".toList.contains c then return seen
      else
        skip
        plainWord fuel (c :: seen)

/-- The rest of a plain scalar after what was read, from which `g` separates it. In a block it ends
where the indentation does. -/
def plain (indent : Nat) : (fuel : Nat) → Text → Gap → Scan Text
  | 0, _, _ => failure
  | fuel + 1, seen, g => do
    if (← atMarker) || (← peek) = some '#' then
      if g.broken then allowKey true
      return seen.reverse
    else
      let word ← plainWord fuel []
      let (seen, g) :=
        if word.isEmpty then (seen, g) else (word ++ g.folded.reverse ++ seen, Gap.empty)
      if !(← peek).any (fun c => isSpace c || isBreak c) then
        if g.broken then allowKey true
        return seen.reverse
      let g ← gap (some indent) fuel g
      if !(← inFlow) && (← column) < indent then
        if g.broken then allowKey true
        return seen.reverse
      plain indent fuel seen g

inductive Chomping where
  | clip
  | strip
  | keep

def blockHeader : Scan (Chomping × Nat) := do
  let chomp ← chomping?
  let increment ← increment?
  let chomp ← if chomp.isSome then pure chomp else chomping?
  return (chomp.getD .clip, increment.getD 0)
where
  chomping? : Scan (Option Chomping) := do
    match ← peek with
    | some '+' => skip; return some .keep
    | some '-' => skip; return some .strip
    | _ => return none
  increment? : Scan (Option Nat) := do
    match ← peek with
    | some c =>
      if Text.isAsciiDigit c then
        if c == '0' then failure
        skip
        return some (c.toNat - 48)
      return none
    | none => return none

/-- Takes indentation and empty lines. An indentation of zero is not known yet; the deepest line
sets it. -/
def blockBreaks (indent : Nat) : (fuel deepest : Nat) → Text → Scan (Nat × Text)
  | 0, _, _ => failure
  | fuel + 1, deepest, breaks => do
    let start ← get
    let room := if indent = 0 then start.rest.length else indent - start.column
    let spaces := (start.rest.take room).takeWhile (· == ' ')
    let _ ← spaces.mapM fun _ => take
    let deepest := max deepest (← column)
    let here ← column
    if (indent = 0 ∨ here < indent) ∧ (← peek) = some '\t' then failure
    if (← peek).any isBreak then
      let shown ← takeBreak
      blockBreaks indent fuel deepest (breaks ++ shown)
    else if indent = 0 then
      let outer := ((← get).indent + 1).toNat
      return (max deepest (max outer 1), breaks)
    else return (indent, breaks)

/-- The lines of a block scalar: what was read without its last line break, that line break, the
empty lines after it, and whether the last line started with white space. -/
def blockLines (literal : Bool) (indent : Nat) :
    (fuel : Nat) → (seen leading trailing : Text) → Bool → Scan (Text × Text × Text)
  | 0, _, _, _, _ => failure
  | fuel + 1, seen, leading, trailing, blankBefore => do
    if (← column) ≠ indent ∨ (← peek) = none then return (seen.reverse, leading, trailing)
    let blank := (← peek).any isSpace
    let folds := !literal && leading.head? == some '\n' && !blankBefore && !blank
    let joint :=
      if folds then (if trailing.isEmpty then [' '] else trailing) else leading ++ trailing
    let line ← takeWhile fun c => !isBreak c
    let shown ← takeBreak
    let (_, more) ← blockBreaks indent (fuel + 1) 0 []
    blockLines literal indent fuel (line.reverse ++ joint.reverse ++ seen) shown more blank

def block (literal : Bool) : Scan Text := do
  let (chomping, increment) ← blockHeader
  skipWhile isSpace
  skipComment
  if !isLineEnd (← peek) then failure
  let _ ← takeBreak
  let outer := (← get).indent
  let given := if increment = 0 then 0 else if 0 ≤ outer then outer.toNat + increment else increment
  let size := (← get).rest.length + 1
  let (indent, breaks) ← blockBreaks given size 0 []
  let (text, leading, trailing) ← blockLines literal indent size [] [] breaks false
  match chomping with
  | .strip => return text
  | .clip => return text ++ leading
  | .keep => return text ++ leading ++ trailing

end Scan
end PodSite.Yaml
