import PodSite.Text.PropertyName

/-!
The classes of characters that patterns name by a letter, or by a word inside brackets and colons.
-/
namespace PodSite.Pattern
open Text (CharSet)

inductive LetterClass where
  | digit
  | blank
  | word
deriving DecidableEq, Repr

namespace LetterClass

def everyScript : LetterClass → CharSet
  | digit => Text.Category.set .decimalNumber
  | blank => Text.Property.whiteSpace
  | word => Text.Property.word

def ascii : LetterClass → CharSet
  | digit => .ofRanges [(0x30, 0x39)]
  | blank => .ofRanges [(0x09, 0x0D), (0x20, 0x20)]
  | word => .ofRanges [(0x30, 0x39), (0x41, 0x5A), (0x5F, 0x5F), (0x61, 0x7A)]

end LetterClass

def bracketClasses : List (String × CharSet) :=
  [ ("alnum", .ofRanges [(0x30, 0x39), (0x41, 0x5A), (0x61, 0x7A)]),
    ("alpha", .ofRanges [(0x41, 0x5A), (0x61, 0x7A)]),
    ("ascii", .ascii),
    ("blank", .ofRanges [(0x09, 0x09), (0x20, 0x20)]),
    ("cntrl", .ofRanges [(0x00, 0x1F), (0x7F, 0x7F)]),
    ("digit", LetterClass.digit.ascii),
    ("graph", .ofRanges [(0x21, 0x7E)]),
    ("lower", .ofRanges [(0x61, 0x7A)]),
    ("print", .ofRanges [(0x20, 0x7E)]),
    ("punct", .ofRanges [(0x21, 0x2F), (0x3A, 0x40), (0x5B, 0x60), (0x7B, 0x7E)]),
    ("space", LetterClass.blank.ascii),
    ("upper", .ofRanges [(0x41, 0x5A)]),
    ("word", LetterClass.word.ascii),
    ("xdigit", .ofRanges [(0x30, 0x39), (0x41, 0x46), (0x61, 0x66)])]

end PodSite.Pattern
