import Homophone.Unicode.BasicProperty
import Homophone.Unicode.Category
import Homophone.Unicode.WhiteSpace

/-! Properties of characters that follow from their categories and from other properties, and all
properties by name. -/

set_option autoImplicit false

namespace Homophone.Unicode.Property

open Category

def lowercase : Ranges := lowercaseLetter.union otherLowercase

def uppercase : Ranges := uppercaseLetter.union otherUppercase

def cased : Ranges := .unions [lowercase, uppercase, titlecaseLetter]

/-- What may stand inside a word without ending it, the categories apart. -/
def wordMiddle : Ranges := .ofText "27 2e 3a b7 387 55f 5f4 2018-2019 2024 2027 fe13 fe52 fe55 ff07
  ff0e ff1a"

def caseIgnorable : Ranges :=
  .unions [nonspacingMark, enclosingMark, format, modifierLetter, modifierSymbol, wordMiddle]

def changesWhenCaseMapped : Ranges :=
  .unions [changesWhenLowercased, changesWhenTitlecased, changesWhenUppercased]

def alphabetic : Ranges := .unions [letter, letterNumber, otherAlphabetic]

def math : Ranges := mathSymbol.union otherMath

def patternReserved : Ranges := patternSyntax.union patternWhiteSpace

def idStart : Ranges := (Ranges.unions [letter, letterNumber, otherIdStart]).diff patternReserved

def idContinue : Ranges :=
  (Ranges.unions [idStart, nonspacingMark, spacingMark, decimalNumber, connectorPunctuation,
    otherIdContinue]).diff patternReserved

/-- Letters that compatibility composition takes out of the middle of an identifier. -/
def notInComposed : Ranges :=
  .ofText "37a 309b-309c fc5e-fc63 fdfa-fdfb fe70 fe72 fe74 fe76 fe78 fe7a fe7c fe7e"

/-- Letters that compatibility composition takes away from the start of an identifier. -/
def notFirstInComposed : Ranges := notInComposed.union (.ofText "e33 eb3 ff9e-ff9f")

def xidStart : Ranges := idStart.diff notFirstInComposed

def xidContinue : Ranges := idContinue.diff notInComposed

def graphemeExtend : Ranges := .unions [enclosingMark, nonspacingMark, otherGraphemeExtend]

def graphemeBase : Ranges :=
  assigned.diff (.unions [control, format, privateUse, lineSeparator, paragraphSeparator,
    graphemeExtend])

def defaultIgnorable : Ranges :=
  (Ranges.unions [otherDefaultIgnorable, format, variationSelector]).diff
    (.unions [whiteSpace, prependedConcatenationMark, .ofText "fff9-fffb 13430-13440"])

def named : List (List String × Ranges) := [
  (["alphabetic", "alpha"], alphabetic),
  (["asciihexdigit", "ahex"], asciiHexDigit),
  (["bidicontrol", "bidic"], bidiControl),
  (["caseignorable", "ci"], caseIgnorable),
  (["cased"], cased),
  (["changeswhencasefolded", "cwcf"], changesWhenCaseFolded),
  (["changeswhencasemapped", "cwcm"], changesWhenCaseMapped),
  (["changeswhenlowercased", "cwl"], changesWhenLowercased),
  (["changeswhentitlecased", "cwt"], changesWhenTitlecased),
  (["changeswhenuppercased", "cwu"], changesWhenUppercased),
  (["dash"], dash),
  (["defaultignorablecodepoint", "di"], defaultIgnorable),
  (["deprecated", "dep"], deprecated),
  (["diacritic", "dia"], diacritic),
  (["emoji"], emoji),
  (["emojicomponent", "ecomp"], emojiComponent),
  (["emojimodifier", "emod"], emojiModifier),
  (["emojimodifierbase", "ebase"], emojiModifierBase),
  (["emojipresentation", "epres"], emojiPresentation),
  (["extendedpictographic", "extpict"], extendedPictographic),
  (["extender", "ext"], extender),
  (["graphemebase", "grbase"], graphemeBase),
  (["graphemeextend", "grext"], graphemeExtend),
  (["graphemelink", "grlink"], graphemeLink),
  (["hexdigit", "hex"], hexDigit),
  (["hyphen"], hyphen),
  (["idcompatmathcontinue"], idCompatMathContinue),
  (["idcompatmathstart"], idCompatMathStart),
  (["idcontinue", "idc"], idContinue),
  (["ideographic", "ideo"], ideographic),
  (["idsbinaryoperator", "idsb"], idsBinaryOperator),
  (["idstart", "ids"], idStart),
  (["idstrinaryoperator", "idst"], idsTrinaryOperator),
  (["idsunaryoperator", "idsu"], idsUnaryOperator),
  (["joincontrol", "joinc"], joinControl),
  (["logicalorderexception", "loe"], logicalOrderException),
  (["lowercase", "lower"], lowercase),
  (["math"], math),
  (["modifiercombiningmark", "mcm"], modifierCombiningMark),
  (["noncharactercodepoint", "nchar"], noncharacterCodePoint),
  (["otheralphabetic", "oalpha"], otherAlphabetic),
  (["otherdefaultignorablecodepoint", "odi"], otherDefaultIgnorable),
  (["othergraphemeextend", "ogrext"], otherGraphemeExtend),
  (["otheridcontinue", "oidc"], otherIdContinue),
  (["otheridstart", "oids"], otherIdStart),
  (["otherlowercase", "olower"], otherLowercase),
  (["othermath", "omath"], otherMath),
  (["otheruppercase", "oupper"], otherUppercase),
  (["patternsyntax", "patsyn"], patternSyntax),
  (["patternwhitespace", "patws"], patternWhiteSpace),
  (["prependedconcatenationmark", "pcm"], prependedConcatenationMark),
  (["quotationmark", "qmark"], quotationMark),
  (["radical"], radical),
  (["regionalindicator", "ri"], regionalIndicator),
  (["sentenceterminal", "sterm"], sentenceTerminal),
  (["softdotted", "sd"], softDotted),
  (["terminalpunctuation", "term"], terminalPunctuation),
  (["unifiedideograph", "uideo"], unifiedIdeograph),
  (["uppercase", "upper"], uppercase),
  (["variationselector", "vs"], variationSelector),
  (["whitespace", "wspace", "space"], whiteSpace),
  (["xidcontinue", "xidc"], xidContinue),
  (["xidstart", "xids"], xidStart)]

def ranges? (name : String) : Option Ranges := (named.find? (·.1.contains name)).map (·.2)

end Homophone.Unicode.Property
