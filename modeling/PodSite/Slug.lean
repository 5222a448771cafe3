import PodSite.Text.Casing
import PodSite.Text.Numeral
import PodSite.Text.Basic

/-!
Slugs: the lower-case words of a title joined by hyphens.
-/
namespace PodSite

def isSlugChar (c : Char) : Bool := Text.isAlphabetic c || Text.isDecimal c

/-- Lower case, with a single hyphen for every run of other characters between two words. -/
def Slug.ofText (t : Text) : Text := ['-'].intercalate (Text.runs isSlugChar (Text.lowered t))

end PodSite
