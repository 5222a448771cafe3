import PodSite.Inline.Scan

/-!
Links: an optional label, and a target that is an address or a page with an optional part of it.
-/
namespace PodSite

inductive Target where
  | url (address : Text)
  /-- A page, with an empty name for the present one, and a part of it. -/
  | page (name : Text) (part : Option Text)
deriving DecidableEq, Repr

structure Link where
  label : Option Text
  target : Target
deriving DecidableEq, Repr

namespace Link

/-- Cuts at the first bar outside angle brackets; `depth` brackets are open. -/
def splitLabel? (depth : Nat) : Text → Option (Text × Text)
  | [] => none
  | c :: rest =>
    if c = '|' ∧ depth = 0 then some ([], rest)
    else
      let inner := if c = '<' then depth + 1 else if c = '>' then depth - 1 else depth
      (splitLabel? inner rest).map fun (front, back) => (c :: front, back)

def isSchemeChar (c : Char) : Bool :=
  Text.isAsciiAlphanumeric c || c == '+' || c == '.' || c == '-'

/-- A scheme, a colon, and something other than a second colon. -/
def isAddress (t : Text) : Bool :=
  match t with
  | c :: rest =>
    Text.isAsciiLetter c &&
      match rest.dropWhile isSchemeChar with
      | ':' :: d :: _ => d != ':'
      | _ => false
  | [] => false

def partOf? (t : Text) : Option Text :=
  match Text.trim (Text.trimChar '"' (Text.trim t)) with
  | [] => none
  | part => some part

def targetOf (t : Text) : Target :=
  if isAddress t then .url t
  else if t.head? = some '"' then .page [] (partOf? t)
  else
    match Text.splitOnce? (· == '/') t with
    | some (name, part) => .page (Text.trim name) (partOf? part)
    | none => .page t none

def ofText (raw : Text) : Link :=
  match splitLabel? 0 raw with
  | some (label, target) => ⟨some (Text.trim label), targetOf (Text.trim target)⟩
  | none => ⟨none, targetOf (Text.trim raw)⟩

def shown (plain : Text → Text) (link : Link) : Text :=
  match link.label with
  | some label => plain label
  | none =>
    match link.target with
    | .url address => address
    | .page name none => name
    | .page [] (some part) => plain part
    | .page name (some part) => plain part ++ " in ".toList ++ name

end Link

namespace Inline

mutual
def nodeText (linkText : Text → Text) : Inline → Text
  | .text t => t
  | .character t => t
  | .entity name => '&' :: name ++ [';']
  | .styled _ content => contentText linkText content
  | .link raw => linkText raw
def contentText (linkText : Text → Text) : List Inline → Text
  | [] => []
  | node :: rest => nodeText linkText node ++ contentText linkText rest
end

/-- The text of a link. Labels are read again, at most `depth` links deep. -/
def linkText : (depth : Nat) → Text → Text
  | 0, raw => raw
  | depth + 1, raw => (Link.ofText raw).shown fun t => contentText (linkText depth) (parse t)

def unmarkedWithin (depth : Nat) (t : Text) : Text := contentText (linkText depth) (parse t)

/-- A text without its markup. No link is nested deeper than the text is long. -/
def unmarked (t : Text) : Text := unmarkedWithin t.length t

end Inline
end PodSite
