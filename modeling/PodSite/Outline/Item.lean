import PodSite.Text.Basic

/-!
List items: the kind of list that its first item asks for, and the text of an item without its mark.
-/
namespace PodSite

inductive ListStyle where
  | bullet
  | number
  | definition
deriving DecidableEq, Repr

namespace ListStyle

def isBulletMark (c : Char) : Bool := c == '*' || c == '-' || c == '+'

def afterNumber (t : Text) : Text :=
  match t.dropWhile Text.isAsciiDigit with
  | '.' :: rest => rest
  | rest => rest

def isSetOff : Text → Bool
  | [] => true
  | c :: _ => Text.isBlank c

def ofItem (t : Text) : ListStyle :=
  match Text.trim t with
  | [] => bullet
  | c :: rest =>
    if isBulletMark c && isSetOff rest then bullet
    else if Text.isAsciiDigit c && isSetOff (afterNumber (c :: rest)) then number
    else definition

def bulletText (t : Text) : Text :=
  match Text.trim t with
  | [] => []
  | c :: rest => if isBulletMark c then Text.trim rest else Text.trim (c :: rest)

def numberText (t : Text) : Text := Text.trim (afterNumber (Text.trim t))

end ListStyle
end PodSite
