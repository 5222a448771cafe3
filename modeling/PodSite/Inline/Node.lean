import PodSite.Text.Basic

/-!
Inline markup as a list of nodes. A styled node holds further nodes; a link keeps its content as it
was written.
-/
namespace PodSite

inductive Style where
  | bold
  | italic
  | code
  | file
  /-- Spaces inside do not break a line. -/
  | unbroken
deriving DecidableEq, Repr

inductive Inline where
  | text (t : Text)
  | styled (style : Style) (content : List Inline)
  /-- A character given by its name or number. -/
  | character (t : Text)
  /-- A named reference passed on to the page. -/
  | entity (name : Text)
  | link (raw : Text)
deriving Repr, Inhabited

end PodSite
