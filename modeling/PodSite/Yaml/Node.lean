import PodSite.Yaml.Scanner

/-!
A YAML document as a tree of nodes, read from its tokens. An alias leads to a node by the number of
its anchor, and is followed only where its node is used.
-/
namespace PodSite

inductive Yaml where
  | scalar (text : Text) (style : Yaml.ScalarStyle) (tag : Option Bytes)
  | sequence (tag : Option Bytes) (items : List Yaml)
  | mapping (tag : Option Bytes) (pairs : List (Yaml × Yaml))
  | alias (anchor : Nat)
deriving Repr, Inhabited

namespace Yaml

def missing : Yaml := .scalar [] .plain none

/-- A document: its root, the nodes of its anchors by their numbers, and the number of marks that
write it down, one for a scalar or an alias and two for a collection. -/
structure Document where
  root : Yaml
  anchored : List (Nat × Yaml)
  marks : Nat

def Document.ofTree (root : Yaml) : Document := ⟨root, [], 0⟩

/-- The tokens still to be read, the names of tags, the anchors by their names, those by their
numbers, each with its place in the text, and the finished nodes by these places. The latest come
first. An anchor has as its number the number of names in front of it, so a name that comes again
shares its number with the next new name. -/
structure TreeState where
  tokens : List Token
  handles : List (Text × Bytes)
  names : List (Text × Nat)
  places : List (Nat × Nat)
  finished : List (Nat × Yaml)
  marks : Nat

abbrev Build := StateT TreeState Option

namespace Build

def peek : Build (Option Token) := do return (← get).tokens.head?

def skip : Build Unit := modify fun s => { s with tokens := s.tokens.tail }

def skipIf (t : Token) : Build Bool := do
  if (← peek) = some t then
    skip
    return true
  return false

def atAny (ts : List Token) : Build Bool := do return (← peek).any ts.contains

def resolveTag (handle : Text) (suffix : Bytes) : Build Bytes := do
  if handle.isEmpty then return suffix
  match (← get).handles.lookup handle with
  | some start => return start ++ suffix
  | none => failure

def takeAnchor : Build (Option Text) := do
  match ← peek with
  | some (.anchor name) => skip; return some name
  | _ => return none

def takeTag : Build (Option Bytes) := do
  match ← peek with
  | some (.tag handle suffix) =>
    skip
    return some (← resolveTag handle suffix)
  | _ => return none

def properties : Build (Option Text × Option Bytes) := do
  let anchor ← takeAnchor
  let tag ← takeTag
  let anchor ← if anchor.isSome then pure anchor else takeAnchor
  return (anchor, tag)

def count (marks : Nat) : Build Unit := modify fun s => { s with marks := s.marks + marks }

def openAnchor (name : Text) : Build Nat := do
  let s ← get
  let number := (s.names.map (·.1)).eraseDups.length
  let place := s.places.length
  set { s with names := (name, number) :: s.names, places := (number, place) :: s.places }
  return place

def closeAnchor (place : Nat) (node : Yaml) : Build Unit :=
  modify fun s => { s with finished := (place, node) :: s.finished }

def scalar (text : Text) (style : ScalarStyle) (tag : Option Bytes) : Build Yaml := do
  count 1
  return .scalar text style tag

def noNode : Build Yaml := scalar [] .plain none

/-- Where a node stands: in a flow collection, in a block, or as a value in a block mapping, where a
sequence needs no indentation. -/
inductive Context where
  | flow
  | block
  | indentless
deriving DecidableEq

mutual
def node (context : Context) : (fuel : Nat) → Build Yaml
  | 0 => failure
  | fuel + 1 => do
    match ← peek with
    | some (.alias name) =>
      skip
      count 1
      match (← get).names.lookup name with
      | some number => return .alias number
      | none => failure
    | _ =>
      match ← properties with
      | (some name, tag) =>
        let place ← openAnchor name
        let found ← content context true tag fuel
        closeAnchor place found
        return found
      | (none, tag) => content context tag.isSome tag fuel
def content (context : Context) (optional : Bool) (tag : Option Bytes) :
    (fuel : Nat) → Build Yaml
  | 0 => failure
  | fuel + 1 => do
    match ← peek with
    | some (.scalar text style) =>
      skip
      scalar text style tag
    | some .flowSequenceStart =>
      skip
      count 2
      return .sequence tag (← flowItems true fuel)
    | some .flowMappingStart =>
      skip
      count 2
      return .mapping tag (← flowPairs true fuel)
    | some .blockEntry =>
      if context = .indentless then
        count 2
        return .sequence tag (← indentlessItems fuel)
      else if optional then scalar [] .plain tag
      else failure
    | some .blockSequenceStart =>
      if context ≠ .flow then
        skip
        count 2
        return .sequence tag (← blockItems fuel)
      else if optional then scalar [] .plain tag
      else failure
    | some .blockMappingStart =>
      if context ≠ .flow then
        skip
        count 2
        return .mapping tag (← blockPairs fuel)
      else if optional then scalar [] .plain tag
      else failure
    | _ => if optional then scalar [] .plain tag else failure
def nodeUnless (context : Context) (stops : List Token) : (fuel : Nat) → Build Yaml
  | 0 => failure
  | fuel + 1 => do if ← atAny stops then noNode else node context fuel
def blockItems : (fuel : Nat) → Build (List Yaml)
  | 0 => failure
  | fuel + 1 => do
    if ← skipIf .blockEntry then
      let item ← nodeUnless .block [.blockEntry, .blockEnd] fuel
      return item :: (← blockItems fuel)
    else if ← skipIf .blockEnd then return []
    else failure
def indentlessItems : (fuel : Nat) → Build (List Yaml)
  | 0 => failure
  | fuel + 1 => do
    if ← skipIf .blockEntry then
      let item ← nodeUnless .block [.blockEntry, .key, .value, .blockEnd] fuel
      return item :: (← indentlessItems fuel)
    else return []
def blockPairs : (fuel : Nat) → Build (List (Yaml × Yaml))
  | 0 => failure
  | fuel + 1 => do
    let stops := [Token.key, .value, .blockEnd]
    if ← skipIf .blockEnd then return []
    else if ← skipIf .key then
      let key ← nodeUnless .indentless stops fuel
      let value ←
        if ← skipIf .value then nodeUnless .indentless stops fuel else noNode
      return (key, value) :: (← blockPairs fuel)
    else failure
def flowItems (first : Bool) : (fuel : Nat) → Build (List Yaml)
  | 0 => failure
  | fuel + 1 => do
    if ← skipIf .flowSequenceEnd then return []
    if !first && !(← skipIf .flowEntry) then failure
    if ← skipIf .flowSequenceEnd then return []
    if ← skipIf .key then
      count 2
      let pair ← flowPair fuel
      return .mapping none [pair] :: (← flowItems false fuel)
    let item ← node .flow fuel
    return item :: (← flowItems false fuel)
def flowPair : (fuel : Nat) → Build (Yaml × Yaml)
  | 0 => failure
  | fuel + 1 => do
    let key ←
      if ← atAny [.value, .flowEntry, .flowSequenceEnd] then do
        skip
        noNode
      else node .flow fuel
    let value ←
      if ← skipIf .value then nodeUnless .flow [.flowEntry, .flowSequenceEnd] fuel else noNode
    return (key, value)
def flowPairs (first : Bool) : (fuel : Nat) → Build (List (Yaml × Yaml))
  | 0 => failure
  | fuel + 1 => do
    if ← skipIf .flowMappingEnd then return []
    if !first && !(← skipIf .flowEntry) then failure
    if ← skipIf .flowMappingEnd then return []
    let stops := [Token.flowEntry, .flowMappingEnd]
    if ← skipIf .key then
      let key ← nodeUnless .flow (.value :: stops) fuel
      let value ← if ← skipIf .value then nodeUnless .flow stops fuel else noNode
      return (key, value) :: (← flowPairs false fuel)
    let key ← node .flow fuel
    return (key, ← noNode) :: (← flowPairs false fuel)
end

def directives (versioned : Bool) (named : List Text) : (fuel : Nat) → Build Unit
  | 0 => failure
  | fuel + 1 => do
    match ← peek with
    | some (.versionDirective major minor) =>
      if versioned || major ≠ 1 || (minor ≠ 1 && minor ≠ 2) then failure
      skip
      directives true named fuel
    | some (.tagDirective handle start) =>
      if named.contains handle then failure
      skip
      modify fun s => { s with handles := (handle, start) :: s.handles }
      directives versioned (handle :: named) fuel
    | _ => return

def documentEnds : (fuel : Nat) → Build Unit
  | 0 => return
  | fuel + 1 => do if ← skipIf .documentEnd then documentEnds fuel

def isDirective : Token → Bool
  | .versionDirective _ _ => true
  | .tagDirective _ _ => true
  | _ => false

def document (fuel : Nat) : Build (Option Yaml) := do
  match ← peek with
  | none => return none
  | some t =>
    let root ←
      if isDirective t || t == .documentStart then do
        directives false [] fuel
        if !(← skipIf .documentStart) then failure
        match ← peek with
        | none => noNode
        | some t =>
          if isDirective t || t == .documentStart || t == .documentEnd then noNode
          else node .block fuel
      else node .block fuel
    documentEnds fuel
    if (← peek).isSome then failure
    return some root

end Build

def standardHandles : List (Text × Bytes) :=
  [ (['!'], Text.Utf8.encode ['!']),
    (['!', '!'], Text.Utf8.encode "tag:yaml.org,2002:".toList)]

def parse? (text : Text) : Option Document := do
  let tokens ← tokens? text
  let fuel := 3 * tokens.length + 4
  let (root, s) ← (Build.document fuel).run ⟨tokens, standardHandles, [], [], [], 0⟩
  let anchored := s.places.filterMap fun (number, place) =>
    (s.finished.lookup place).map fun node => (number, node)
  return ⟨root.getD missing, anchored, s.marks⟩

end Yaml
end PodSite
