import PodSite.Inline.Character

/-!
Reading inline markup. A code is a letter with angle brackets around its content, such as `B<bold>`.
With more than one bracket and white space inside them, the content ends at white space followed by
as many closing brackets. A code left open ends with the text.

The reader goes through the text once and keeps the codes that are open, innermost first.
-/
namespace PodSite.Inline

inductive Closer where
  | angle
  | angles (n : Nat)
deriving DecidableEq, Repr

structure OpenCode where
  letter : Char
  closer : Closer
  /-- The text from the start of the content on. -/
  start : Text
  /-- The nodes in front of the code, last first. -/
  before : List Inline

structure Reader where
  codes : List OpenCode
  /-- The finished nodes of the innermost open code, last first. -/
  nodes : List Inline
  /-- The text after those nodes, last character first. -/
  text : Text
  /-- How many of the coming characters were read already. -/
  skip : Nat

def isCodeLetter (c : Char) : Bool := "BICLEFSXZ".toList.contains c

def spacedClose? (n : Nat) (t : Text) : Option Nat :=
  let blanks := (t.takeWhile Text.isBlank).length
  if (t.drop blanks).take n = List.replicate n '>' then some (blanks + n) else none

def Closer.width? (closer : Closer) (t : Text) : Option Nat :=
  match closer, t with
  | .angle, '>' :: _ => some 1
  | .angles n, c :: _ => if Text.isBlank c then spacedClose? n t else none
  | _, _ => none

/-- The code that starts `t`: what ends it, and the number of characters in front of its content.
White space there belongs to the opening, unless it is what ends the code. -/
def opening? (t : Text) : Option (Closer × Nat) :=
  match t with
  | c :: '<' :: rest =>
    if isCodeLetter c then
      let angles := (rest.takeWhile (· == '<')).length + 1
      let inner := rest.drop (angles - 1)
      let blanks := (inner.takeWhile Text.isBlank).length
      if 1 < angles ∧ 0 < blanks then
        let leading := if (spacedClose? angles inner).isSome then 0 else blanks
        some (.angles angles, 1 + angles + leading)
      else some (.angle, 2)
    else none
  | _ => none

/-- The node of a finished code. Index entries and null codes leave none. -/
def ofCode? (letter : Char) (content : List Inline) (raw : Text) : Option Inline :=
  match letter with
  | 'B' => some (.styled .bold content)
  | 'I' => some (.styled .italic content)
  | 'C' => some (.styled .code content)
  | 'F' => some (.styled .file content)
  | 'S' => some (.styled .unbroken content)
  | 'L' => some (.link (Text.trim raw))
  | 'E' => some (ofCharacterCode (Text.trim raw))
  | _ => none

def flush (nodes : List Inline) (text : Text) : List Inline :=
  if text.isEmpty then nodes else .text text.reverse :: nodes

/-- The nodes after a code whose content ends where `rest` starts, last first. -/
def OpenCode.close (code : OpenCode) (nodes : List Inline) (rest : Text) : List Inline :=
  let raw := code.start.take (code.start.length - rest.length)
  match ofCode? code.letter nodes.reverse raw with
  | some node => node :: code.before
  | none => code.before

namespace Reader

def initial : Reader := ⟨[], [], [], 0⟩

def enter (r : Reader) (c : Char) (rest : Text) : Reader :=
  match opening? (c :: rest) with
  | some (closer, width) =>
    ⟨⟨c, closer, (c :: rest).drop width, flush r.nodes r.text⟩ :: r.codes, [], [], width - 1⟩
  | none => { r with text := c :: r.text }

def step (r : Reader) (c : Char) (rest : Text) : Reader :=
  if 0 < r.skip then { r with skip := r.skip - 1 }
  else
    match r.codes with
    | code :: outer =>
      match code.closer.width? (c :: rest) with
      | some width => ⟨outer, code.close (flush r.nodes r.text) (c :: rest), [], width - 1⟩
      | none => r.enter c rest
    | [] => r.enter c rest

def run (r : Reader) : Text → Reader
  | [] => r
  | c :: rest => (r.step c rest).run rest

def closeAll (nodes : List Inline) : List OpenCode → List Inline
  | [] => nodes
  | code :: outer => closeAll (code.close nodes []) outer

def finish (r : Reader) : List Inline := (closeAll (flush r.nodes r.text) r.codes).reverse

end Reader

def parse (t : Text) : List Inline := (Reader.initial.run t).finish

end PodSite.Inline
