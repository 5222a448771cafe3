/-!
Text as a list of characters: blanks, lines, words and the ways a text is cut and put together.
-/
namespace PodSite

abbrev Text := List Char

namespace Text

def isBlank (c : Char) : Bool :=
  let n := c.toNat
  (9 ≤ n && n ≤ 13) || n == 0x20 || n == 0x85 || n == 0xA0 || n == 0x1680 ||
    (0x2000 ≤ n && n ≤ 0x200A) || n == 0x2028 || n == 0x2029 || n == 0x202F || n == 0x205F ||
    n == 0x3000

def isAsciiLetter (c : Char) : Bool := ('a' ≤ c && c ≤ 'z') || ('A' ≤ c && c ≤ 'Z')

def isAsciiDigit (c : Char) : Bool := '0' ≤ c && c ≤ '9'

def isAsciiAlphanumeric (c : Char) : Bool := isAsciiLetter c || isAsciiDigit c

def trimStart (t : Text) : Text := t.dropWhile isBlank

def trimEnd (t : Text) : Text := (t.reverse.dropWhile isBlank).reverse

def trim (t : Text) : Text := trimEnd (trimStart t)

def trimChar (c : Char) (t : Text) : Text :=
  ((t.dropWhile (· == c)).reverse.dropWhile (· == c)).reverse

def byteCount (t : Text) : Nat := t.foldl (fun n c => n + c.utf8Size) 0

def isAllBlank (t : Text) : Bool := t.all isBlank

/-- The lines of a text. A line ends at a line feed or at a carriage return with a line feed; a last
line needs no end. -/
def lines : Text → List Text
  | [] => []
  | '\r' :: '\n' :: rest => [] :: lines rest
  | '\n' :: rest => [] :: lines rest
  | c :: rest =>
    match lines rest with
    | [] => [[c]]
    | line :: more => (c :: line) :: more

/-- The pieces between the occurrences of `c`: one more than there are occurrences. -/
def splitOn (c : Char) : Text → List Text
  | [] => [[]]
  | d :: rest =>
    if d = c then [] :: splitOn c rest
    else
      match splitOn c rest with
      | [] => [[d]]
      | piece :: more => (d :: piece) :: more

def splitOnce? (p : Char → Bool) : Text → Option (Text × Text)
  | [] => none
  | c :: rest =>
    if p c then some ([], rest)
    else (splitOnce? p rest).map fun (front, back) => (c :: front, back)

def dropPrefix? : (front t : Text) → Option Text
  | [], t => some t
  | _ :: _, [] => none
  | a :: front, b :: t => if a = b then dropPrefix? front t else none

def splitAtFirst? (mark : Text) : Text → Option (Text × Text)
  | [] => (dropPrefix? mark []).map fun back => ([], back)
  | c :: rest =>
    match dropPrefix? mark (c :: rest) with
    | some back => some ([], back)
    | none => (splitAtFirst? mark rest).map fun (front, back) => (c :: front, back)

def runs (p : Char → Bool) : Text → List Text
  | [] => []
  | [c] => if p c then [[c]] else []
  | c :: d :: rest =>
    if p c then
      if p d then
        match runs p (d :: rest) with
        | [] => [[c]]
        | run :: more => (c :: run) :: more
      else [c] :: runs p (d :: rest)
    else runs p (d :: rest)

def words (t : Text) : List Text := runs (fun c => !isBlank c) t

def collapseBlanks (t : Text) : Text := [' '].intercalate (words t)

def replaceChar (c : Char) (new : Text) (t : Text) : Text :=
  t.flatMap fun d => if d = c then new else [d]

def decimal (n : Nat) : Text := Nat.toDigits 10 n

def asciiLower (t : Text) : Text := t.map Char.toLower

def sameAsciiLetters (a b : Text) : Bool := asciiLower a == asciiLower b

def precedes : Text → Text → Bool
  | [], _ => true
  | _ :: _, [] => false
  | a :: s, b :: t => if a = b then precedes s t else a.toNat < b.toNat

end Text
end PodSite
