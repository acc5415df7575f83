import BenchChart.Text.Blank
import BenchChart.Unicode.Category
import BenchChart.Unicode.Property.Rows

/-!
# Properties of characters

Predicates on characters from the Unicode standard. Most follow from the general category, with a
table of the characters that are exceptions; the others are tables of their own.
-/

namespace BenchChart

namespace Unicode

namespace Property

def otherAlphabetic : Ranges := .ofRows Rows.otherAlphabetic

def otherLowercase : Ranges := .ofRows Rows.otherLowercase

def otherUppercase : Ranges := .ofRows Rows.otherUppercase

def otherCaseIgnorable : Ranges := .ofRows Rows.otherCaseIgnorable

def otherMath : Ranges := .ofRows Rows.otherMath

def otherIdStart : Ranges := .ofRows Rows.otherIdStart

def otherIdContinue : Ranges := .ofRows Rows.otherIdContinue

def unstableIdStart : Ranges := .ofRows Rows.unstableIdStart

def unstableIdContinue : Ranges := .ofRows Rows.unstableIdContinue

def otherGraphemeExtend : Ranges := .ofRows Rows.otherGraphemeExtend

def joinControl : Ranges := .ofRows Rows.joinControl

end Property

/-- Whether a character is a letter or stands for one. -/
def isAlphabetic (c : Char) : Bool :=
  Category.holds (.letterNumber :: Category.letters) c || Property.otherAlphabetic.contains c

def isNumeric (c : Char) : Bool := Category.holds Category.numbers c

def isLowercase (c : Char) : Bool :=
  Category.holds [.lowercaseLetter] c || Property.otherLowercase.contains c

def isUppercase (c : Char) : Bool :=
  Category.holds [.uppercaseLetter] c || Property.otherUppercase.contains c

def isCased (c : Char) : Bool :=
  isLowercase c || isUppercase c || Category.holds [.titlecaseLetter] c

def isDecimalDigit (c : Char) : Bool := Category.holds [.decimalNumber] c

def isWord (c : Char) : Bool :=
  isAlphabetic c ||
    Category.holds (.decimalNumber :: .connectorPunctuation :: Category.marks) c ||
    Property.joinControl.contains c

/-- Whether a character extends the one before it and does not show by itself. -/
def extendsGrapheme (c : Char) : Bool :=
  Category.holds [.nonspacingMark, .enclosingMark] c || Property.otherGraphemeExtend.contains c

def isCaseIgnorable (c : Char) : Bool :=
  Category.holds [.nonspacingMark, .enclosingMark, .format, .modifierLetter, .modifierSymbol] c ||
    Property.otherCaseIgnorable.contains c

def isMath (c : Char) : Bool := Category.holds [.mathSymbol] c || Property.otherMath.contains c

def startsIdentifier (c : Char) : Bool :=
  (Category.holds (.letterNumber :: Category.letters) c && c != '\u2E2F') ||
    Property.otherIdStart.contains c

def continuesIdentifier (c : Char) : Bool :=
  startsIdentifier c ||
    Category.holds [.nonspacingMark, .spacingMark, .decimalNumber, .connectorPunctuation] c ||
    Property.otherIdContinue.contains c

def isGraphemeBase (c : Char) : Bool :=
  !extendsGrapheme c &&
    !Category.holds (.lineSeparator :: .paragraphSeparator :: Category.others) c

/-- Whether a character shows by itself or is the plain space. -/
def isPrintable (c : Char) : Bool :=
  c == ' ' || !Category.holds (Category.others ++ Category.separators) c

def properties : List (List String × (Char → Bool)) := [
  (["alphabetic", "alpha"], isAlphabetic),
  (["asciihexdigit", "ahex"], Ranges.contains (.ofRows Property.Rows.asciiHexDigit)),
  (["bidicontrol", "bidic"], Ranges.contains (.ofRows Property.Rows.bidiControl)),
  (["bidimirrored", "bidim"], Ranges.contains (.ofRows Property.Rows.bidiMirrored)),
  (["caseignorable", "ci"], isCaseIgnorable),
  (["cased"], isCased),
  (["dash"], Ranges.contains (.ofRows Property.Rows.dash)),
  (["defaultignorablecodepoint", "di"],
    Ranges.contains (.ofRows Property.Rows.defaultIgnorableCodePoint)),
  (["deprecated", "dep"], Ranges.contains (.ofRows Property.Rows.deprecated)),
  (["diacritic", "dia"], Ranges.contains (.ofRows Property.Rows.diacritic)),
  (["emoji"], Ranges.contains (.ofRows Property.Rows.emoji)),
  (["emojicomponent", "ecomp"], Ranges.contains (.ofRows Property.Rows.emojiComponent)),
  (["emojimodifier", "emod"], Ranges.contains (.ofRows Property.Rows.emojiModifier)),
  (["emojimodifierbase", "ebase"], Ranges.contains (.ofRows Property.Rows.emojiModifierBase)),
  (["emojipresentation", "epres"], Ranges.contains (.ofRows Property.Rows.emojiPresentation)),
  (["extendedpictographic", "extpict"],
    Ranges.contains (.ofRows Property.Rows.extendedPictographic)),
  (["extender", "ext"], Ranges.contains (.ofRows Property.Rows.extender)),
  (["graphemebase", "grbase"], isGraphemeBase),
  (["graphemeextend", "grext"], extendsGrapheme),
  (["hexdigit", "hex"], Ranges.contains (.ofRows Property.Rows.hexDigit)),
  (["idcontinue", "idc"], continuesIdentifier),
  (["idstart", "ids"], startsIdentifier),
  (["ideographic", "ideo"], Ranges.contains (.ofRows Property.Rows.ideographic)),
  (["idsbinaryoperator", "idsb"], Ranges.contains (.ofRows Property.Rows.idsBinaryOperator)),
  (["idstrinaryoperator", "idst"], Ranges.contains (.ofRows Property.Rows.idsTrinaryOperator)),
  (["joincontrol", "joinc"], Property.joinControl.contains),
  (["logicalorderexception", "loe"],
    Ranges.contains (.ofRows Property.Rows.logicalOrderException)),
  (["lowercase", "lower"], isLowercase),
  (["math"], isMath),
  (["noncharactercodepoint", "nchar"],
    Ranges.contains (.ofRows Property.Rows.noncharacterCodePoint)),
  (["otheralphabetic", "oalpha"], Property.otherAlphabetic.contains),
  (["othergraphemeextend", "ogrext"], Property.otherGraphemeExtend.contains),
  (["otherlowercase", "olower"], Property.otherLowercase.contains),
  (["othermath", "omath"], Property.otherMath.contains),
  (["otheruppercase", "oupper"], Property.otherUppercase.contains),
  (["patternsyntax", "patsyn"], Ranges.contains (.ofRows Property.Rows.patternSyntax)),
  (["patternwhitespace", "patws"], Ranges.contains (.ofRows Property.Rows.patternWhiteSpace)),
  (["quotationmark", "qmark"], Ranges.contains (.ofRows Property.Rows.quotationMark)),
  (["radical"], Ranges.contains (.ofRows Property.Rows.radical)),
  (["regionalindicator", "ri"], Ranges.contains (.ofRows Property.Rows.regionalIndicator)),
  (["sentenceterminal", "sterm"], Ranges.contains (.ofRows Property.Rows.sentenceTerminal)),
  (["softdotted", "sd"], Ranges.contains (.ofRows Property.Rows.softDotted)),
  (["terminalpunctuation", "term"],
    Ranges.contains (.ofRows Property.Rows.terminalPunctuation)),
  (["unifiedideograph", "uideo"], Ranges.contains (.ofRows Property.Rows.unifiedIdeograph)),
  (["uppercase", "upper"], isUppercase),
  (["variationselector", "vs"], Ranges.contains (.ofRows Property.Rows.variationSelector)),
  (["whitespace", "wspace", "space"], Text.isBlank),
  (["xidcontinue", "xidc"],
    fun c => continuesIdentifier c && !Property.unstableIdContinue.contains c),
  (["xidstart", "xids"], fun c => startsIdentifier c && !Property.unstableIdStart.contains c)]

/-- Names of further properties, which relate characters to values of other kinds. -/
def otherPropertyNames : List String := [
  "age", "bc", "bidiclass", "bidimirroringglyph", "bidipairedbracket", "bidipairedbrackettype",
  "blk", "block", "bmg", "bpb", "bpt", "canonicalcombiningclass", "casefolding", "ccc", "ce", "cf",
  "changeswhencasefolded", "changeswhencasemapped", "changeswhenlowercased",
  "changeswhennfkccasefolded", "changeswhentitlecased", "changeswhenuppercased", "compex",
  "compositionexclusion", "cwcf", "cwcm", "cwkcf", "cwl", "cwt", "cwu", "decompositionmapping",
  "decompositiontype", "dm", "dt", "ea", "eastasianwidth", "equideo", "equivalentunifiedideograph",
  "expandsonnfc", "expandsonnfd", "expandsonnfkc", "expandsonnfkd", "fcnfkc", "fcnfkcclosure",
  "fullcompositionexclusion", "gcb", "graphemeclusterbreak", "graphemelink", "grlink",
  "hangulsyllabletype", "hst", "hyphen", "indicpositionalcategory", "indicsyllabiccategory", "inpc",
  "insc", "isc", "isocomment", "jamoshortname", "jg", "joininggroup", "joiningtype", "jsn", "jt",
  "lb", "lc", "linebreak", "lowercasemapping", "na", "na1", "name", "namealias", "nfcqc",
  "nfcquickcheck", "nfdqc", "nfdquickcheck", "nfkccasefold", "nfkccf", "nfkcqc", "nfkcquickcheck",
  "nfkdqc", "nfkdquickcheck", "nt", "numerictype", "numericvalue", "nv", "odi", "oidc", "oids",
  "otherdefaultignorablecodepoint", "otheridcontinue", "otheridstart", "pcm",
  "prependedconcatenationmark", "sb", "scf", "sentencebreak", "sfc", "simplecasefolding",
  "simplelowercasemapping", "simpletitlecasemapping", "simpleuppercasemapping", "slc", "stc",
  "suc", "tc", "titlecasemapping", "uc", "unicode1name", "unicoderadicalstroke",
  "uppercasemapping", "urs", "verticalorientation", "vo", "wb", "wordbreak", "xonfc", "xonfd",
  "xonfkc", "xonfkd"]

end Unicode

end BenchChart
