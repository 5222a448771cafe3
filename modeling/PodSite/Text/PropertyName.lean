import PodSite.Text.Age
import PodSite.Text.Segment

/-!
The names of sets of characters: categories, scripts, yes-or-no properties and the values of other
properties. Names are compared without regard to case, spaces, hyphens and underscores.
-/
namespace PodSite.Text

abbrev NamedSets := List (List String × CharSet)

def NamedSets.find? (sets : NamedSets) (name : String) : Option CharSet :=
  (List.find? (fun (names, _) => names.contains name) sets).map (·.2)

namespace Category

/-- The names of the categories and of groups of them. The code points of surrogates are no
characters, and their category has no name here. -/
def names : List (List String × List Category) :=
  [ (["l", "letter"], letters), (["m", "mark", "combiningmark"], marks),
    (["n", "number"], numbers), (["p", "punct", "punctuation"], punctuation),
    (["s", "symbol"], symbols), (["z", "separator"], separators), (["c", "other"], others),
    (["lc", "casedletter"], [.uppercaseLetter, .lowercaseLetter, .titlecaseLetter]),
    (["lu", "uppercaseletter"], [.uppercaseLetter]),
    (["ll", "lowercaseletter"], [.lowercaseLetter]),
    (["lt", "titlecaseletter"], [.titlecaseLetter]),
    (["lm", "modifierletter"], [.modifierLetter]),
    (["lo", "otherletter"], [.otherLetter]),
    (["mn", "nonspacingmark"], [.nonspacingMark]),
    (["mc", "spacingmark"], [.spacingMark]),
    (["me", "enclosingmark"], [.enclosingMark]),
    (["nd", "decimalnumber", "digit"], [.decimalNumber]),
    (["nl", "letternumber"], [.letterNumber]),
    (["no", "othernumber"], [.otherNumber]),
    (["pc", "connectorpunctuation"], [.connectorPunctuation]),
    (["pd", "dashpunctuation"], [.dashPunctuation]),
    (["ps", "openpunctuation"], [.openPunctuation]),
    (["pe", "closepunctuation"], [.closePunctuation]),
    (["pi", "initialpunctuation"], [.initialPunctuation]),
    (["pf", "finalpunctuation"], [.finalPunctuation]),
    (["po", "otherpunctuation"], [.otherPunctuation]),
    (["sm", "mathsymbol"], [.mathSymbol]),
    (["sc", "currencysymbol"], [.currencySymbol]),
    (["sk", "modifiersymbol"], [.modifierSymbol]),
    (["so", "othersymbol"], [.otherSymbol]),
    (["zs", "spaceseparator"], [.spaceSeparator]),
    (["zl", "lineseparator"], [.lineSeparator]),
    (["zp", "paragraphseparator"], [.paragraphSeparator]),
    (["cc", "control", "cntrl"], [.control]),
    (["cf", "format"], [.format]),
    (["cn", "unassigned"], [.unassigned]),
    (["co", "privateuse"], [.privateUse])]

def find? (name : String) : Option CharSet :=
  if name = "any" then some .any
  else if name = "ascii" then some .ascii
  else if name = "assigned" then some (set .unassigned).complement
  else (names.find? fun (spellings, _) => spellings.contains name).map fun (_, ks) =>
    ofCategories ks

end Category

def Script.find? (name : String) : Option Script :=
  Script.all.find? fun s => s.names.contains name

def Property.sets : NamedSets :=
  [ (["alphabetic", "alpha"], alphabetic), (["asciihexdigit", "ahex"], asciiHexDigit),
    (["bidicontrol", "bidic"], bidiControl), (["bidimirrored", "bidim"], bidiMirrored),
    (["cased"], cased), (["caseignorable", "ci"], caseIgnorable),
    (["changeswhencasefolded", "cwcf"], changesWhenCasefolded),
    (["changeswhencasemapped", "cwcm"], changesWhenCasemapped),
    (["changeswhenlowercased", "cwl"], changesWhenLowercased),
    (["changeswhentitlecased", "cwt"], changesWhenTitlecased),
    (["changeswhenuppercased", "cwu"], changesWhenUppercased), (["dash"], dash),
    (["defaultignorablecodepoint", "di"], defaultIgnorableCodePoint),
    (["deprecated", "dep"], deprecated), (["diacritic", "dia"], diacritic), (["emoji"], emoji),
    (["emojicomponent", "ecomp"], emojiComponent), (["emojimodifier", "emod"], emojiModifier),
    (["emojimodifierbase", "ebase"], emojiModifierBase),
    (["emojipresentation", "epres"], emojiPresentation),
    (["extendedpictographic", "extpict"], extendedPictographic), (["extender", "ext"], extender),
    (["graphemebase", "grbase"], graphemeBase), (["graphemeextend", "grext"], graphemeExtend),
    (["graphemelink", "grlink"], graphemeLink), (["hexdigit", "hex"], hexDigit),
    (["hyphen"], hyphen), (["idcompatmathcontinue"], idCompatMathContinue),
    (["idcompatmathstart"], idCompatMathStart), (["idcontinue", "idc"], idContinue),
    (["ideographic", "ideo"], ideographic), (["idsbinaryoperator", "idsb"], idsBinaryOperator),
    (["idstart", "ids"], idStart), (["idstrinaryoperator", "idst"], idsTrinaryOperator),
    (["idsunaryoperator", "idsu"], idsUnaryOperator), (["joincontrol", "joinc"], joinControl),
    (["logicalorderexception", "loe"], logicalOrderException), (["lowercase", "lower"], lowercase),
    (["math"], math), (["modifiercombiningmark", "mcm"], modifierCombiningMark),
    (["noncharactercodepoint", "nchar"], noncharacterCodePoint),
    (["otheralphabetic", "oalpha"], otherAlphabetic),
    (["otherdefaultignorablecodepoint", "odi"], otherDefaultIgnorableCodePoint),
    (["othergraphemeextend", "ogrext"], otherGraphemeExtend),
    (["otheridcontinue", "oidc"], otherIdContinue), (["otheridstart", "oids"], otherIdStart),
    (["otherlowercase", "olower"], otherLowercase), (["othermath", "omath"], otherMath),
    (["otheruppercase", "oupper"], otherUppercase), (["patternsyntax", "patsyn"], patternSyntax),
    (["patternwhitespace", "patws"], patternWhiteSpace),
    (["prependedconcatenationmark", "pcm"], prependedConcatenationMark),
    (["quotationmark", "qmark"], quotationMark), (["radical"], radical),
    (["regionalindicator", "ri"], regionalIndicator),
    (["sentenceterminal", "sterm"], sentenceTerminal), (["softdotted", "sd"], softDotted),
    (["terminalpunctuation", "term"], terminalPunctuation),
    (["unifiedideograph", "uideo"], unifiedIdeograph), (["uppercase", "upper"], uppercase),
    (["variationselector", "vs"], variationSelector),
    (["whitespace", "wspace", "space"], whiteSpace), (["xidcontinue", "xidc"], xidContinue),
    (["xidstart", "xids"], xidStart)]

namespace Segment

def Grapheme.sets : NamedSets :=
  [ (["cn", "control"], control), (["cr"], carriageReturn), (["ex", "extend"], extend),
    (["l"], leading), (["lf"], lineFeed), (["lv"], openSyllable), (["lvt"], closedSyllable),
    (["pp", "prepend"], prepend), (["ri", "regionalindicator"], Property.regionalIndicator),
    (["sm", "spacingmark"], spacingMark), (["t"], trailing), (["v"], vowel), (["zwj"], joiner)]

def Word.sets : NamedSets :=
  [ (["cr"], carriageReturn), (["dq", "doublequote"], .single '"'),
    (["ex", "extendnumlet"], extendNumLet), (["extend"], extend), (["fo", "format"], format),
    (["hl", "hebrewletter"], hebrewLetter), (["ka", "katakana"], katakana),
    (["le", "aletter"], letter), (["lf"], lineFeed), (["mb", "midnumlet"], midNumLet),
    (["ml", "midletter"], midLetter), (["mn", "midnum"], midNum), (["nl", "newline"], newline),
    (["nu", "numeric"], numeric), (["ri", "regionalindicator"], Property.regionalIndicator),
    (["sq", "singlequote"], .single '\x27'), (["wsegspace"], space),
    (["zwj"], joiner)]

def Sentence.sets : NamedSets :=
  [ (["at", "aterm"], ambiguousTerminal), (["cl", "close"], close), (["cr"], carriageReturn),
    (["ex", "extend"], extend), (["fo", "format"], format), (["le", "oletter"], letter),
    (["lf"], lineFeed), (["lo", "lower"], lower), (["nu", "numeric"], numeric),
    (["sc", "scontinue"], continuation), (["se", "sep"], separator), (["sp"], space),
    (["st", "sterm"], terminal), (["up", "upper"], upper)]

end Segment

def compactName (name : List Char) : List Char :=
  (name.filter fun c => c.toNat < 128 && c != ' ' && c != '-' && c != '_').map Char.toLower

/-- The normal form of a name. A leading `is` is dropped, except where the single letter `c` would
be left: that is the name of a property without yes and no. -/
def normalName (name : List Char) : String :=
  match name with
  | a :: b :: rest =>
    if a.toLower = 'i' ∧ b.toLower = 's' then
      if compactName rest = ['c'] then "isc" else String.ofList (compactName rest)
    else String.ofList (compactName name)
  | _ => String.ofList (compactName name)

namespace CharSet

def named? (name : List Char) : Option CharSet :=
  let name := normalName name
  let property := if ["cf", "sc", "lc"].contains name then none else Property.sets.find? name
  match property, Category.find? name with
  | some set, _ => some set
  | none, some set => some set
  | none, none => (Script.find? name).map Script.set

/-- The set of the characters for which the property `key` has the given value. The characters of an
edition are also those of the editions before it. -/
def valued? (key value : List Char) : Option CharSet :=
  let key := normalName key
  let value := normalName value
  if ["gc", "generalcategory"].contains key then Category.find? value
  else if ["sc", "script"].contains key then (Script.find? value).map Script.set
  else if ["scx", "scriptextensions"].contains key then (Script.find? value).map Script.extended
  else if key = "age" then Age.upTo? value
  else if ["gcb", "graphemeclusterbreak"].contains key then Segment.Grapheme.sets.find? value
  else if ["wb", "wordbreak"].contains key then Segment.Word.sets.find? value
  else if ["sb", "sentencebreak"].contains key then Segment.Sentence.sets.find? value
  else none

end CharSet
end PodSite.Text
