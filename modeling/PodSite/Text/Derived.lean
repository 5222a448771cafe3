import PodSite.Text.Category
import PodSite.Text.Letter
import PodSite.Text.Property

/-!
The properties of characters that follow from categories and from listed properties.
-/
namespace PodSite.Text.Property

def lowercase : CharSet := (Category.set .lowercaseLetter).union otherLowercase

def uppercase : CharSet := (Category.set .uppercaseLetter).union otherUppercase

def cased : CharSet := .unions [lowercase, uppercase, Category.set .titlecaseLetter]

def alphabetic : CharSet := .ofRanges alphabeticRanges

def math : CharSet := (Category.set .mathSymbol).union otherMath

def graphemeExtend : CharSet :=
  (ofCategories [.nonspacingMark, .enclosingMark]).union otherGraphemeExtend

def graphemeBase : CharSet :=
  ((ofCategories [.control, .format, .privateUse, .unassigned, .lineSeparator,
    .paragraphSeparator]).union graphemeExtend).complement

def patternReserved : CharSet := patternSyntax.union patternWhiteSpace

def idStart : CharSet :=
  ((ofCategories (.letterNumber :: Category.letters)).union otherIdStart).difference
    patternReserved

def idContinue : CharSet :=
  (.unions [idStart,
    ofCategories [.nonspacingMark, .spacingMark, .decimalNumber, .connectorPunctuation],
    otherIdContinue] : CharSet).difference patternReserved

/-- Characters that fall apart into a space and a mark under compatibility. -/
def spacedMarks : CharSet :=
  .ofRanges [(0x37A, 0x37A), (0x309B, 0x309C), (0xFC5E, 0xFC63), (0xFDFA, 0xFDFB),
    (0xFE70, 0xFE70), (0xFE72, 0xFE72), (0xFE74, 0xFE74), (0xFE76, 0xFE76), (0xFE78, 0xFE78),
    (0xFE7A, 0xFE7A), (0xFE7C, 0xFE7C), (0xFE7E, 0xFE7E)]

/-- Letters that are read as marks or start with one under compatibility. -/
def markLetters : CharSet := .ofRanges [(0xE33, 0xE33), (0xEB3, 0xEB3), (0xFF9E, 0xFF9F)]

def xidStart : CharSet := idStart.difference (spacedMarks.union markLetters)

def xidContinue : CharSet := idContinue.difference spacedMarks

def defaultIgnorableCodePoint : CharSet :=
  (.unions [otherDefaultIgnorableCodePoint, Category.set .format,
    variationSelector] : CharSet).difference
  (.unions [whiteSpace, prependedConcatenationMark,
    .ofRanges [(0xFFF9, 0xFFFB), (0x13430, 0x13440)]])

def midWord : CharSet :=
  .ofRanges [(0x27, 0x27), (0x2E, 0x2E), (0x3A, 0x3A), (0xB7, 0xB7), (0x387, 0x387),
    (0x55F, 0x55F), (0x5F4, 0x5F4), (0x2018, 0x2019), (0x2024, 0x2024), (0x2027, 0x2027),
    (0xFE13, 0xFE13), (0xFE52, 0xFE52), (0xFE55, 0xFE55), (0xFF07, 0xFF07), (0xFF0E, 0xFF0E),
    (0xFF1A, 0xFF1A)]

def caseIgnorable : CharSet :=
  (ofCategories [.nonspacingMark, .enclosingMark, .format, .modifierLetter,
    .modifierSymbol]).union midWord

def word : CharSet :=
  .unions [alphabetic, ofCategories Category.marks,
    ofCategories [.decimalNumber, .connectorPunctuation], joinControl]

end PodSite.Text.Property
