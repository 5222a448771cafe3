import PodSite.Html.Escape

/-!
Page bodies as trees of elements, and how a tree is written.
-/
namespace PodSite

inductive Tag where
  | heading (level : Nat)
  | paragraph
  | preformatted
  | unorderedList
  | orderedList
  | listItem
  | definitionList
  | term
  | description
  | strong
  | emphasis
  | code
  | anchor
  | navigation
deriving DecidableEq, Repr

def Tag.name : Tag → Text
  | heading level => 'h' :: Text.decimal level
  | paragraph => ['p']
  | preformatted => "pre".toList
  | unorderedList => "ul".toList
  | orderedList => "ol".toList
  | listItem => "li".toList
  | definitionList => "dl".toList
  | term => "dt".toList
  | description => "dd".toList
  | strong => "strong".toList
  | emphasis => "em".toList
  | code => "code".toList
  | anchor => ['a']
  | navigation => "nav".toList

/-- An attribute with its value as it is written, escapes included. -/
structure Attribute where
  name : Text
  value : Text
deriving DecidableEq, Repr

inductive Html where
  | text (t : Text)
  /-- A named character reference. -/
  | reference (name : Text)
  | element (tag : Tag) (attributes : List Attribute) (content : List Html)
  | image (attributes : List Attribute)
  /-- Written as it is. -/
  | raw (t : Text)
deriving Repr, Inhabited

namespace Html

def writeAttribute (a : Attribute) : Text := ' ' :: a.name ++ ['=', '"'] ++ a.value ++ ['"']

def writeAttributes (attributes : List Attribute) : Text := attributes.flatMap writeAttribute

mutual
def writeNode : Html → Text
  | text t => escape t
  | reference name => '&' :: name ++ [';']
  | element tag attributes content =>
    '<' :: tag.name ++ writeAttributes attributes ++ ['>'] ++ write content ++
      ['<', '/'] ++ tag.name ++ ['>']
  | image attributes => "<img".toList ++ writeAttributes attributes ++ ['>']
  | raw t => t
def write : List Html → Text
  | [] => []
  | node :: rest => writeNode node ++ write rest
end

def plain (tag : Tag) (content : List Html) : Html := element tag [] content

def newline : Html := text ['\n']

end Html
end PodSite
