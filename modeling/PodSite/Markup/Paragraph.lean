import PodSite.Markup.Region

/-!
Paragraphs of markup. Blank lines separate them; a paragraph is a command, indented literal text, or
running text.
-/
namespace PodSite.Markup

inductive Paragraph where
  | command (name text : Text)
  | verbatim (text : Text)
  | prose (text : Text)
deriving DecidableEq, Repr

namespace Paragraph

def ofLines (first : Text) (rest : List Text) : Paragraph :=
  match commandOf? first with
  | some name =>
    let head := Text.trim (first.drop (name.length + 1))
    command name (Text.trim (['\n'].intercalate (head :: rest)))
  | none =>
    match first with
    | ' ' :: _ | '\t' :: _ => verbatim (['\n'].intercalate ((first :: rest).map Text.trimEnd))
    | _ => prose (['\n'].intercalate (first :: rest))

/-- Puts a paragraph in front of others. Two literal paragraphs become one. -/
def cons (p : Paragraph) (ps : List Paragraph) : List Paragraph :=
  match p, ps with
  | verbatim a, verbatim b :: more => verbatim (a ++ "\n\n".toList ++ b) :: more
  | p, ps => p :: ps

end Paragraph

def lineGroups : List Text → List (List Text)
  | [] => []
  | [line] => if Text.isAllBlank line then [] else [[line]]
  | line :: next :: rest =>
    if Text.isAllBlank line then lineGroups (next :: rest)
    else if Text.isAllBlank next then [line] :: lineGroups (next :: rest)
    else
      match lineGroups (next :: rest) with
      | [] => [[line]]
      | group :: more => (line :: group) :: more

def paragraphOf? : List Text → Option Paragraph
  | [] => none
  | first :: rest => some (.ofLines first rest)

def paragraphs (markup : Text) : List Paragraph :=
  ((lineGroups (Text.lines markup)).filterMap paragraphOf?).foldr Paragraph.cons []

end PodSite.Markup
