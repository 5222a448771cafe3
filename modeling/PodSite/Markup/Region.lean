import PodSite.Text.Basic

/-!
Markup regions of a source file. Markup starts at a line that opens with a command and ends at the
next cut line. Where markup stands in block comments, their bodies are joined first.
-/
namespace PodSite.Markup

inductive Placement where
  /-- Between the lines of the program. -/
  | lines
  /-- Inside block comments. -/
  | comments
deriving DecidableEq, Repr

def isCommandChar (c : Char) : Bool := Text.isAsciiAlphanumeric c || c == '_' || c == ':'

def commandOf? (line : Text) : Option Text :=
  match line with
  | '=' :: c :: rest =>
    if Text.isAsciiLetter c then some (c :: rest.takeWhile isCommandChar) else none
  | _ => none

def isCut (line : Text) : Bool := commandOf? line == some "cut".toList

/-- The lines of the regions, each with its line feed; a cut line leaves an empty line. -/
def regionLines (inside : Bool) : List Text → Text
  | [] => []
  | line :: rest =>
    if inside then
      if isCut line then '\n' :: regionLines false rest
      else line ++ '\n' :: regionLines true rest
    else if (commandOf? line).isSome && !isCut line then
      line ++ '\n' :: regionLines true rest
    else regionLines false rest

/-- The bodies of all block comments, each followed by a line feed. A comment left open ends with
the text. -/
def commentText (inside : Bool) : Text → Text
  | [] => if inside then ['\n'] else []
  | c :: d :: rest =>
    if inside then
      if c = '*' ∧ d = '/' then '\n' :: commentText false rest
      else c :: commentText true (d :: rest)
    else if c = '/' ∧ d = '*' then commentText true rest
    else commentText false (d :: rest)
  | [c] => if inside then [c, '\n'] else []

def dropByteOrderMark : Text → Text
  | '\uFEFF' :: rest => rest
  | t => t

def ofSource (placement : Placement) (source : Text) : Text :=
  let source := dropByteOrderMark source
  match placement with
  | .lines => regionLines false (Text.lines source)
  | .comments => regionLines false (Text.lines (commentText false source))

end PodSite.Markup
