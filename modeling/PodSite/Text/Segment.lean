import PodSite.Text.Derived
import PodSite.Text.Script

/-!
The classes of characters by which a text is cut into characters as readers see them, into words and
into sentences.
-/
namespace PodSite.Text.Segment
open Property

def complexContext : CharSet :=
  .ofRanges [
    (0xE01, 0xE3A), (0xE40, 0xE4E), (0xE81, 0xE82), (0xE84, 0xE84), (0xE86, 0xE8A), (0xE8C, 0xEA3),
    (0xEA5, 0xEA5), (0xEA7, 0xEBD), (0xEC0, 0xEC4), (0xEC6, 0xEC6), (0xEC8, 0xECE), (0xEDC, 0xEDF),
    (0x1000, 0x103F), (0x1050, 0x108F), (0x109A, 0x109F), (0x1780, 0x17D3), (0x17D7, 0x17D7),
    (0x17DC, 0x17DD), (0x1950, 0x196D), (0x1970, 0x1974), (0x1980, 0x19AB), (0x19B0, 0x19C9),
    (0x19DA, 0x19DA), (0x19DE, 0x19DF), (0x1A20, 0x1A5E), (0x1A60, 0x1A7C), (0x1AA0, 0x1AAD),
    (0xA9E0, 0xA9EF), (0xA9FA, 0xA9FE), (0xAA60, 0xAAC2), (0xAADB, 0xAADF), (0x11700, 0x1171A),
    (0x1171D, 0x1172B), (0x1173A, 0x1173B), (0x1173F, 0x11746)]

def quotation : CharSet :=
  .ofRanges [
    (0x22, 0x22), (0x27, 0x27), (0xAB, 0xAB), (0xBB, 0xBB), (0x2018, 0x2019), (0x201B, 0x201D),
    (0x201F, 0x201F), (0x2039, 0x203A), (0x275B, 0x2760), (0x2E00, 0x2E0D), (0x2E1C, 0x2E1D),
    (0x2E20, 0x2E21), (0x1F676, 0x1F678)]

def prefixed : CharSet :=
  .ofRanges [
    (0xD4E, 0xD4E), (0x111C2, 0x111C3), (0x113D1, 0x113D1), (0x1193F, 0x1193F), (0x11941, 0x11941),
    (0x11A3A, 0x11A3A), (0x11A84, 0x11A89), (0x11D46, 0x11D46), (0x11F02, 0x11F02)]

/-- The mark that stands in front of a word, where the others stand in front of a number. -/
def wordMark : CharSet := .ofRanges [(0x70F, 0x70F)]

def carriageReturn : CharSet := .single '\r'

def lineFeed : CharSet := .single '\n'

def joiner : CharSet := .ofRanges [(0x200D, 0x200D)]

namespace Grapheme

def extend : CharSet := graphemeExtend.union emojiModifier

def control : CharSet :=
  (.unions [ofCategories [.lineSeparator, .paragraphSeparator, .control, .format],
    (Category.set .unassigned).intersection defaultIgnorableCodePoint] : CharSet).difference
  (.unions [carriageReturn, lineFeed, .ofRanges [(0x200C, 0x200D)], prependedConcatenationMark,
    extend])

def prepend : CharSet := prefixed.union prependedConcatenationMark

def nonspacing : CharSet :=
  .ofRanges [
    (0x102B, 0x102C), (0x1038, 0x1038), (0x1062, 0x1064), (0x1067, 0x106D), (0x1083, 0x1083),
    (0x1087, 0x108C), (0x108F, 0x108F), (0x109A, 0x109C), (0x1A61, 0x1A61), (0x1A63, 0x1A64),
    (0xAA7B, 0xAA7B), (0xAA7D, 0xAA7D), (0x11720, 0x11721)]

def spacingMark : CharSet :=
  ((Category.set .spacingMark).union (.ofRanges [(0xE33, 0xE33), (0xEB3, 0xEB3)])).difference
    (extend.union nonspacing)

def leading : CharSet := .ofRanges [(0x1100, 0x115F), (0xA960, 0xA97C)]

def vowel : CharSet :=
  .ofRanges [(0x1160, 0x11A7), (0xD7B0, 0xD7C6), (0x16D63, 0x16D63), (0x16D67, 0x16D6A)]

def trailing : CharSet := .ofRanges [(0x11A8, 0x11FF), (0xD7CB, 0xD7FB)]

def openSyllable : CharSet := .ofRuns [(0xAC00, 0xD788, 28)]

def closedSyllable : CharSet := (.ofRanges [(0xAC00, 0xD7A3)] : CharSet).difference openSyllable

end Grapheme

namespace Word

def newline : CharSet := .ofRanges [(0xB, 0xC), (0x85, 0x85), (0x2028, 0x2029)]

def midNumLet : CharSet :=
  .ofRanges [
    (0x2E, 0x2E), (0x2018, 0x2019), (0x2024, 0x2024), (0xFE52, 0xFE52), (0xFF07, 0xFF07),
    (0xFF0E, 0xFF0E)]

def midLetter : CharSet :=
  .ofRanges [
    (0x3A, 0x3A), (0xB7, 0xB7), (0x387, 0x387), (0x55F, 0x55F), (0x5F4, 0x5F4), (0x2027, 0x2027),
    (0xFE13, 0xFE13), (0xFE55, 0xFE55), (0xFF1A, 0xFF1A)]

def midNum : CharSet :=
  .ofRanges [
    (0x2C, 0x2C), (0x3B, 0x3B), (0x37E, 0x37E), (0x589, 0x589), (0x60C, 0x60D), (0x66C, 0x66C),
    (0x7F8, 0x7F8), (0x2044, 0x2044), (0xFE10, 0xFE10), (0xFE14, 0xFE14), (0xFE50, 0xFE50),
    (0xFE54, 0xFE54), (0xFF0C, 0xFF0C), (0xFF1B, 0xFF1B)]

def extendNumLet : CharSet :=
  (Category.set .connectorPunctuation).union (.ofRanges [(0x202F, 0x202F)])

def space : CharSet :=
  (Category.set .spaceSeparator).difference
    (.ofRanges [(0xA0, 0xA0), (0x2007, 0x2007), (0x202F, 0x202F)])

def extend : CharSet :=
  (.unions [graphemeExtend, Category.set .spacingMark, emojiModifier] : CharSet).difference joiner

def format : CharSet :=
  (Category.set .format).difference
    (.unions [.ofRanges [(0x200B, 0x200D)], prependedConcatenationMark, extend])

def numeric : CharSet :=
  .unions [Category.set .decimalNumber, .ofRanges [(0x66B, 0x66B)],
    prependedConcatenationMark.difference wordMark]

def hebrewLetter : CharSet := Script.hebrew.set.intersection (Category.set .otherLetter)

def katakana : CharSet :=
  Script.katakana.set.union
    (.ofRanges [(0x3031, 0x3035), (0x309B, 0x309C), (0x30A0, 0x30A0), (0x30FC, 0x30FC),
      (0xFF70, 0xFF70)])

def letterLike : CharSet :=
  .ofRanges [
    (0x2C2, 0x2C5), (0x2D2, 0x2D7), (0x2DE, 0x2DF), (0x2E5, 0x2EB), (0x2ED, 0x2ED), (0x2EF, 0x2FF),
    (0x55A, 0x55C), (0x55E, 0x55E), (0x58A, 0x58A), (0x5F3, 0x5F3), (0xA708, 0xA716),
    (0xA720, 0xA721), (0xA789, 0xA78A), (0xAB5B, 0xAB5B)]

def letter : CharSet :=
  (.unions [alphabetic, letterLike, wordMark] : CharSet).difference
    (.unions [ideographic, katakana, complexContext, Script.hiragana.set, extend, hebrewLetter])

end Word

namespace Sentence

def separator : CharSet := .ofRanges [(0x85, 0x85), (0x2028, 0x2029)]

def extend : CharSet := .unions [graphemeExtend, Category.set .spacingMark, joiner]

def format : CharSet :=
  (Category.set .format).difference
    (.unions [.ofRanges [(0x200C, 0x200D)], prependedConcatenationMark, extend])

def space : CharSet :=
  whiteSpace.difference (.unions [carriageReturn, lineFeed, separator])

def caseless : CharSet := .ofRanges [(0x10D0, 0x10FA), (0x10FD, 0x10FF)]

def caselessCapitals : CharSet := .ofRanges [(0x1C90, 0x1CBA), (0x1CBD, 0x1CBF)]

def lower : CharSet := lowercase.difference (graphemeExtend.union caseless)

def upper : CharSet :=
  ((Category.set .titlecaseLetter).union uppercase).difference caselessCapitals

def letter : CharSet :=
  (.unions [alphabetic, .ofRanges [(0x5F3, 0x5F3)], wordMark, caseless] : CharSet).difference
    (.unions [lower, upper, extend])

def numeric : CharSet :=
  .unions [Category.set .decimalNumber, .ofRanges [(0x66B, 0x66C)],
    prependedConcatenationMark.difference wordMark]

def ambiguousTerminal : CharSet :=
  .ofRanges [(0x2E, 0x2E), (0x2024, 0x2024), (0xFE52, 0xFE52), (0xFF0E, 0xFF0E)]

def continuation : CharSet :=
  .ofRanges [
    (0x2C, 0x2D), (0x3A, 0x3B), (0x37E, 0x37E), (0x55D, 0x55D), (0x60C, 0x60D), (0x7F8, 0x7F8),
    (0x1802, 0x1802), (0x1808, 0x1808), (0x2013, 0x2014), (0x3001, 0x3001), (0xFE10, 0xFE11),
    (0xFE13, 0xFE14), (0xFE31, 0xFE32), (0xFE50, 0xFE51), (0xFE54, 0xFE55), (0xFE58, 0xFE58),
    (0xFE63, 0xFE63), (0xFF0C, 0xFF0D), (0xFF1A, 0xFF1B), (0xFF64, 0xFF64)]

def terminal : CharSet := sentenceTerminal.difference ambiguousTerminal

def close : CharSet :=
  ((ofCategories [.openPunctuation, .closePunctuation]).union quotation).difference
    (.unions [ambiguousTerminal, terminal, .ofRanges [(0x5F3, 0x5F3)]])

end Sentence
end PodSite.Text.Segment
