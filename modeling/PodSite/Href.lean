import PodSite.Path
import PodSite.Text.Utf8

/-!
Links between pages: percent-encoded segments and relative references.
-/
namespace PodSite.Href

def isUnreserved (b : UInt8) : Bool :=
  let n := b.toNat
  (48 ≤ n && n ≤ 57) || (65 ≤ n && n ≤ 90) || (97 ≤ n && n ≤ 122) ||
    n == 45 || n == 46 || n == 95 || n == 126

def hexDigit (n : Nat) : Char := Char.ofNat (if n < 10 then 48 + n else 55 + n)

def encodeByte (b : UInt8) : Text :=
  if isUnreserved b then [Char.ofNat b.toNat]
  else ['%', hexDigit (b.toNat / 16), hexDigit (b.toNat % 16)]

def encodeSegment (segment : Text) : Text := (Text.Utf8.encode segment).flatMap encodeByte

def encode (path : Text) : Text :=
  ['/'].intercalate ((Text.splitOn '/' path).map encodeSegment)

/-- The reference from the page at `here` to the file at `target`: up to the directory they share,
then down. -/
def relative (here target : Path) : Text :=
  let base := (Path.parent? here).getD []
  let shared := Path.common base target
  let up := List.replicate (base.length - shared) ['.', '.']
  let down := (target.drop shared).map fun c => encodeSegment c.spell
  ['/'].intercalate (up ++ down)

end PodSite.Href
