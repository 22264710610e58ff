import JvmSource.Unicode.BinaryProperty.Emoji
import JvmSource.Unicode.BinaryProperty.Tables
import JvmSource.Unicode.CaseFold
import JvmSource.Unicode.Property

/-!
# Properties that characters have or lack

The properties of the Unicode character database that are true or false of a character. Where the
standard derives a property from others, so does this module.
-/

namespace JvmSource.Unicode

/-- A property that every character either has or lacks. -/
inductive BinaryProperty where
  | alphabetic | asciiHexDigit | bidiControl | caseIgnorable | cased
  | changesWhenCasefolded | changesWhenCasemapped | changesWhenLowercased
  | changesWhenTitlecased | changesWhenUppercased
  | dash | defaultIgnorable | deprecated | diacritic
  | emoji | emojiComponent | emojiModifier | emojiModifierBase | emojiPresentation
  | extendedPictographic | extender | graphemeBase | graphemeExtend | graphemeLink
  | hexDigit | hyphen | idCompatMathContinue | idCompatMathStart | idContinue | idStart
  | idsBinaryOperator | idsTrinaryOperator | idsUnaryOperator | ideographic
  | joinControl | logicalOrderException | lowercase | math | modifierCombiningMark
  | noncharacter | otherAlphabetic | otherDefaultIgnorable | otherGraphemeExtend
  | otherIdContinue | otherIdStart | otherLowercase | otherMath | otherUppercase
  | patternSyntax | patternWhiteSpace | prependedConcatenationMark | quotationMark
  | radical | regionalIndicator | sentenceTerminal | softDotted | terminalPunctuation
  | unifiedIdeograph | uppercase | variationSelector | whiteSpace | xidContinue | xidStart
deriving DecidableEq, Repr

namespace BinaryProperty

open CharSet Category

/-- Letters and what counts as letters in words. -/
def alphabeticSet : CharSet :=
  (sets (letters ++ [letterNumber])).union (ofRanges Unicode.otherAlphabetic)

/-- Characters in lower case. -/
def lowercaseSet : CharSet := lowercaseLetter.set.union (ofRanges Unicode.otherLowercase)

/-- Characters in upper case. -/
def uppercaseSet : CharSet := uppercaseLetter.set.union (ofRanges Unicode.otherUppercase)

/-- Characters that are drawn together with the one before them. -/
def graphemeExtendSet : CharSet :=
  (sets [nonspacingMark, enclosingMark]).union (ofRanges Unicode.otherGraphemeExtend)

/-- Characters that folding by case changes, and those that they become. -/
def foldSources : CharSet := ofCodePoints ((foldRuns.flatMap (·.pairs)).map (·.1))

/-- Characters that another character becomes when it is folded by case. -/
def foldTargets : CharSet := ofCodePoints ((foldRuns.flatMap (·.pairs)).map (·.2))

/-- Characters that have another form in lower case. Cherokee letters fold to upper case. -/
def lowercasing : CharSet :=
  unions [foldSources.difference lowercaseSet, ofRanges [(0x130, 0x130), (0x13A0, 0x13F5)]]

/-- Characters that have another form in upper case. -/
def uppercasing : CharSet :=
  ((foldSources.union foldTargets).difference uppercaseSet).union (ofRanges expandingUppercase)

/-- Characters that have another form at the start of a title. Georgian letters have none. -/
def titlecasing : CharSet :=
  let kept := titlecaseLetter.set.union (ofRanges [(0x10D0, 0x10FA), (0x10FD, 0x10FF)])
  (uppercasing.difference kept).union
    (ofRanges [(0x1C4, 0x1C4), (0x1C7, 0x1C7), (0x1CA, 0x1CA), (0x1F1, 0x1F1)])

/-- Code points that have no sign of their own and are ignored where they are not supported. -/
def defaultIgnorableSet : CharSet :=
  let shown := ofRanges ([(0xFFF9, 0xFFFB), (0x13430, 0x1343F)] ++ prependedMarks ++ blanks)
  (unions [format.set, ofRanges Unicode.otherDefaultIgnorable,
    ofRanges variationSelectors]).difference shown

/-- Characters that identifiers may start with. -/
def idStartSet : CharSet :=
  ((sets (letters ++ [letterNumber])).union (ofRanges otherIdentifierStarts)).difference
    (ofRanges Unicode.patternSyntax)

/-- Characters that identifiers may go on with. -/
def idContinueSet : CharSet :=
  (unions [idStartSet, sets [nonspacingMark, spacingMark, decimalNumber, .connectorPunctuation],
    ofRanges otherIdentifierContinuations]).difference (ofRanges Unicode.patternSyntax)

/-- The code points that no character will ever have. -/
def noncharacters : Ranges :=
  (0xFDD0, 0xFDEF) :: (List.range 17).map fun plane =>
    (plane * 0x10000 + 0xFFFE, plane * 0x10000 + 0xFFFF)

/-- The characters that have a property. -/
def set : BinaryProperty → CharSet
  | alphabetic => alphabeticSet
  | asciiHexDigit => ofRanges asciiHexDigits
  | bidiControl => ofRanges bidiControls
  | caseIgnorable =>
    (sets [nonspacingMark, enclosingMark, format, modifierLetter, modifierSymbol]).union
      (ofRanges ((0x27, 0x27) :: midLetters ++ midNumbersAndLetters))
  | cased => unions [lowercaseSet, uppercaseSet, titlecaseLetter.set]
  | changesWhenCasefolded =>
    (foldSources.union (ofRanges expandingFolds)).difference (ofRanges decomposedFolds)
  | changesWhenCasemapped => unions [lowercasing, uppercasing, titlecasing]
  | changesWhenLowercased => lowercasing
  | changesWhenTitlecased => titlecasing
  | changesWhenUppercased => uppercasing
  | dash => ofRanges dashes
  | defaultIgnorable => defaultIgnorableSet
  | deprecated => ofRanges deprecatedCharacters
  | diacritic => ofRanges diacritics
  | emoji => ofRanges Unicode.emoji
  | emojiComponent => ofRanges emojiComponents
  | emojiModifier => ofRanges [(0x1F3FB, 0x1F3FF)]
  | emojiModifierBase => ofRanges emojiModifierBases
  | emojiPresentation => ofRanges Unicode.emojiPresentation
  | extendedPictographic => ofRanges Unicode.extendedPictographic
  | extender => ofRanges extenders
  | graphemeBase =>
    (unions [sets (others ++ [lineSeparator, paragraphSeparator]), graphemeExtendSet]).complement
  | graphemeExtend => graphemeExtendSet
  | graphemeLink => ofRanges graphemeLinks
  | hexDigit => ofRanges hexDigits
  | hyphen => ofRanges hyphens
  | idCompatMathContinue => ofRanges (mathIdentifierStarts ++ mathIdentifierContinuations)
  | idCompatMathStart => ofRanges mathIdentifierStarts
  | idContinue => idContinueSet
  | idStart => idStartSet
  | idsBinaryOperator => ofRanges binaryCompositions
  | idsTrinaryOperator => ofRanges [(0x2FF2, 0x2FF3)]
  | idsUnaryOperator => ofRanges [(0x2FFE, 0x2FFF)]
  | ideographic => ofRanges ideographs
  | joinControl => ofRanges [(0x200C, 0x200D)]
  | logicalOrderException => ofRanges logicalOrderExceptions
  | lowercase => lowercaseSet
  | math => mathSymbol.set.union (ofRanges Unicode.otherMath)
  | modifierCombiningMark => ofRanges modifierCombiningMarks
  | noncharacter => ofRanges noncharacters
  | otherAlphabetic => ofRanges Unicode.otherAlphabetic
  | otherDefaultIgnorable => ofRanges Unicode.otherDefaultIgnorable
  | otherGraphemeExtend => ofRanges Unicode.otherGraphemeExtend
  | otherIdContinue => ofRanges otherIdentifierContinuations
  | otherIdStart => ofRanges otherIdentifierStarts
  | otherLowercase => ofRanges Unicode.otherLowercase
  | otherMath => ofRanges Unicode.otherMath
  | otherUppercase => ofRanges Unicode.otherUppercase
  | patternSyntax => ofRanges Unicode.patternSyntax
  | patternWhiteSpace =>
    ofRanges [(0x9, 0xD), (0x20, 0x20), (0x85, 0x85), (0x200E, 0x200F), (0x2028, 0x2029)]
  | prependedConcatenationMark => ofRanges prependedMarks
  | quotationMark => ofRanges quotationMarks
  | radical => ofRanges radicals
  | regionalIndicator => ofRanges [(0x1F1E6, 0x1F1FF)]
  | sentenceTerminal => ofRanges sentenceEnds
  | softDotted => ofRanges Unicode.softDotted
  | terminalPunctuation => ofRanges Unicode.terminalPunctuation
  | unifiedIdeograph => ofRanges unifiedIdeographs
  | uppercase => uppercaseSet
  | variationSelector => ofRanges variationSelectors
  | whiteSpace => ofRanges blanks
  | xidContinue => idContinueSet.difference (ofRanges unnormalizedContinuations)
  | xidStart => idStartSet.difference (ofRanges unnormalizedStarts)

/-- The properties with their short and long names, in lower case without separators. -/
def named : List (List String × BinaryProperty) := [
  (["alpha", "alphabetic"], alphabetic), (["ahex", "asciihexdigit"], asciiHexDigit),
  (["bidic", "bidicontrol"], bidiControl), (["ci", "caseignorable"], caseIgnorable),
  (["cased"], cased), (["cwcf", "changeswhencasefolded"], changesWhenCasefolded),
  (["cwcm", "changeswhencasemapped"], changesWhenCasemapped),
  (["cwl", "changeswhenlowercased"], changesWhenLowercased),
  (["cwt", "changeswhentitlecased"], changesWhenTitlecased),
  (["cwu", "changeswhenuppercased"], changesWhenUppercased), (["dash"], dash),
  (["di", "defaultignorablecodepoint"], defaultIgnorable), (["dep", "deprecated"], deprecated),
  (["dia", "diacritic"], diacritic), (["emoji"], emoji),
  (["ecomp", "emojicomponent"], emojiComponent), (["emod", "emojimodifier"], emojiModifier),
  (["ebase", "emojimodifierbase"], emojiModifierBase),
  (["epres", "emojipresentation"], emojiPresentation),
  (["extpict", "extendedpictographic"], extendedPictographic), (["ext", "extender"], extender),
  (["grbase", "graphemebase"], graphemeBase), (["grext", "graphemeextend"], graphemeExtend),
  (["grlink", "graphemelink"], graphemeLink), (["hex", "hexdigit"], hexDigit),
  (["hyphen"], hyphen), (["idcompatmathcontinue"], idCompatMathContinue),
  (["idcompatmathstart"], idCompatMathStart), (["idc", "idcontinue"], idContinue),
  (["ids", "idstart"], idStart), (["idsb", "idsbinaryoperator"], idsBinaryOperator),
  (["idst", "idstrinaryoperator"], idsTrinaryOperator),
  (["idsu", "idsunaryoperator"], idsUnaryOperator), (["ideo", "ideographic"], ideographic),
  (["joinc", "joincontrol"], joinControl),
  (["loe", "logicalorderexception"], logicalOrderException),
  (["lower", "lowercase"], lowercase), (["math"], math),
  (["mcm", "modifiercombiningmark"], modifierCombiningMark),
  (["nchar", "noncharactercodepoint"], noncharacter),
  (["oalpha", "otheralphabetic"], otherAlphabetic),
  (["odi", "otherdefaultignorablecodepoint"], otherDefaultIgnorable),
  (["ogrext", "othergraphemeextend"], otherGraphemeExtend),
  (["oidc", "otheridcontinue"], otherIdContinue), (["oids", "otheridstart"], otherIdStart),
  (["olower", "otherlowercase"], otherLowercase), (["omath", "othermath"], otherMath),
  (["oupper", "otheruppercase"], otherUppercase), (["patsyn", "patternsyntax"], patternSyntax),
  (["patws", "patternwhitespace"], patternWhiteSpace),
  (["pcm", "prependedconcatenationmark"], prependedConcatenationMark),
  (["qmark", "quotationmark"], quotationMark), (["radical"], radical),
  (["ri", "regionalindicator"], regionalIndicator),
  (["sterm", "sentenceterminal"], sentenceTerminal), (["sd", "softdotted"], softDotted),
  (["term", "terminalpunctuation"], terminalPunctuation),
  (["uideo", "unifiedideograph"], unifiedIdeograph), (["upper", "uppercase"], uppercase),
  (["vs", "variationselector"], variationSelector),
  (["wspace", "whitespace", "space"], whiteSpace), (["xidc", "xidcontinue"], xidContinue),
  (["xids", "xidstart"], xidStart)]

end BinaryProperty

end JvmSource.Unicode
