import FormIntake.Text.Boundary.Table
import FormIntake.Text.Category
import FormIntake.Text.Property.Table

namespace FormIntake.Text

inductive Property
  | asciiHexDigit | alphabetic | bidiControl | bidiMirrored | caseIgnorable | cased
  | changesWhenCasefolded | changesWhenCasemapped | changesWhenLowercased | changesWhenTitlecased
  | changesWhenUppercased | dash | defaultIgnorable | deprecated | diacritic | emoji
  | emojiComponent | emojiModifier | emojiModifierBase | emojiPresentation | extendedPictographic
  | extender | graphemeBase | graphemeExtend | graphemeLink | hexDigit | hyphen
  | idsBinaryOperator | idsTrinaryOperator | idsUnaryOperator | idCompatMathContinue
  | idCompatMathStart | idContinue | idStart | ideographic | joinControl | logicalOrderException
  | lowercase | math | modifierCombiningMark | noncharacter | otherAlphabetic
  | otherDefaultIgnorable | otherGraphemeExtend | otherIdContinue | otherIdStart | otherLowercase
  | otherMath | otherUppercase | patternSyntax | patternWhiteSpace | prependedConcatenationMark
  | quotationMark | radical | regionalIndicator | sentenceTerminal | softDotted
  | terminalPunctuation | unifiedIdeograph | uppercase | variationSelector | whiteSpace
  | xidContinue | xidStart
  deriving DecidableEq, Repr

namespace Property

open CharSet

def lowercaseSet : CharSet := ofCategories [.lowercaseLetter] ∪ ofRanges otherLowercaseRanges

def uppercaseSet : CharSet := ofCategories [.uppercaseLetter] ∪ ofRanges otherUppercaseRanges

def titlecaseSet : CharSet := ofCategories [.titlecaseLetter]

def alphabeticSet : CharSet :=
  ofCategories (.letterNumber :: Category.letters) ∪
    ofRanges (otherLowercaseRanges ++ otherUppercaseRanges ++ otherAlphabeticRanges)

def caseIgnorableSet : CharSet :=
  ofCategories [.nonspacingMark, .enclosingMark, .format, .modifierLetter, .modifierSymbol] ∪
    ofRanges ((0x27, 0x27) :: Boundary.midLetterRanges ++ Boundary.midNumLetRanges)

def graphemeExtendSet : CharSet :=
  ofCategories [.nonspacingMark, .enclosingMark] ∪ ofRanges otherGraphemeExtendRanges

def graphemeBaseSet : CharSet :=
  ofCategories (.spaceSeparator :: Category.visible) \ graphemeExtendSet

/-- The format characters that have no effect of their own where they are not known, and others that
are to be ignored there. -/
def defaultIgnorableSet : CharSet :=
  (ofRanges (otherDefaultIgnorableRanges ++ variationSelectorRanges) ∪ ofCategories [.format]) \
    ofRanges ([(0xFFF9, 0xFFFB), (0x13430, 0x1343F)] ++ prependedConcatenationMarkRanges)

def patternSet : CharSet := ofRanges (patternSyntaxRanges ++ patternWhiteSpaceRanges)

def idStartSet : CharSet :=
  (ofCategories (.letterNumber :: Category.letters) ∪ ofRanges otherIdStartRanges) \ patternSet

def idContinueSet : CharSet :=
  (idStartSet ∪
    ofCategories [.nonspacingMark, .spacingMark, .decimalNumber, .connectorPunctuation] ∪
    ofRanges otherIdContinueRanges) \ patternSet

def changesWhenLowercasedSet : CharSet :=
  (uppercaseSet ∪ titlecaseSet) \ ofRanges fixedUppercaseRanges

def changesWhenUppercasedSet : CharSet :=
  (lowercaseSet ∪ titlecaseSet) \ ofRanges fixedLowercaseRanges

def changesWhenTitlecasedSet : CharSet :=
  (changesWhenUppercasedSet \ ofRanges fixedTitlecaseRanges) ∪ ofRanges digraphRanges

/-- The small letters of Cherokee fold to capital letters, which stay as they are. -/
def changesWhenCasefoldedSet : CharSet :=
  (changesWhenLowercasedSet \ range 0x13A0 0x13F5) ∪ ofRanges foldedLowercaseRanges

def set : Property → CharSet
  | asciiHexDigit => ofRanges [(0x30, 0x39), (0x41, 0x46), (0x61, 0x66)]
  | alphabetic => alphabeticSet
  | bidiControl => ofRanges bidiControlRanges
  | bidiMirrored => ofRanges bidiMirroredRanges
  | caseIgnorable => caseIgnorableSet
  | cased => lowercaseSet ∪ uppercaseSet ∪ titlecaseSet
  | changesWhenCasefolded => changesWhenCasefoldedSet
  | changesWhenCasemapped =>
    changesWhenLowercasedSet ∪ changesWhenUppercasedSet ∪ changesWhenTitlecasedSet
  | changesWhenLowercased => changesWhenLowercasedSet
  | changesWhenTitlecased => changesWhenTitlecasedSet
  | changesWhenUppercased => changesWhenUppercasedSet
  | dash => ofRanges dashRanges
  | defaultIgnorable => defaultIgnorableSet
  | deprecated => ofRanges deprecatedRanges
  | diacritic => ofRanges diacriticRanges
  | emoji => ofRanges emojiRanges
  | emojiComponent => ofRanges emojiComponentRanges
  | emojiModifier => ofRanges emojiModifierRanges
  | emojiModifierBase => ofRanges emojiModifierBaseRanges
  | emojiPresentation => ofRanges emojiPresentationRanges
  | extendedPictographic => ofRanges extendedPictographicRanges
  | extender => ofRanges extenderRanges
  | graphemeBase => graphemeBaseSet
  | graphemeExtend => graphemeExtendSet
  | graphemeLink => ofRanges graphemeLinkRanges
  | hexDigit => ofRanges hexDigitRanges
  | hyphen => ofRanges hyphenRanges
  | idsBinaryOperator => ofRanges idsBinaryOperatorRanges
  | idsTrinaryOperator => ofRanges idsTrinaryOperatorRanges
  | idsUnaryOperator => ofRanges idsUnaryOperatorRanges
  | idCompatMathContinue => ofRanges idCompatMathContinueRanges
  | idCompatMathStart => ofRanges idCompatMathStartRanges
  | idContinue => idContinueSet
  | idStart => idStartSet
  | ideographic => ofRanges ideographicRanges
  | joinControl => ofRanges joinControlRanges
  | logicalOrderException => ofRanges logicalOrderExceptionRanges
  | lowercase => lowercaseSet
  | math => ofCategories [.mathSymbol] ∪ ofRanges otherMathRanges
  | modifierCombiningMark => ofRanges modifierCombiningMarkRanges
  | noncharacter => ofRanges noncharacterRanges
  | otherAlphabetic => ofRanges otherAlphabeticRanges
  | otherDefaultIgnorable => ofRanges otherDefaultIgnorableRanges
  | otherGraphemeExtend => ofRanges otherGraphemeExtendRanges
  | otherIdContinue => ofRanges otherIdContinueRanges
  | otherIdStart => ofRanges otherIdStartRanges
  | otherLowercase => ofRanges otherLowercaseRanges
  | otherMath => ofRanges otherMathRanges
  | otherUppercase => ofRanges otherUppercaseRanges
  | patternSyntax => ofRanges patternSyntaxRanges
  | patternWhiteSpace => ofRanges patternWhiteSpaceRanges
  | prependedConcatenationMark => ofRanges prependedConcatenationMarkRanges
  | quotationMark => ofRanges quotationMarkRanges
  | radical => ofRanges radicalRanges
  | regionalIndicator => ofRanges regionalIndicatorRanges
  | sentenceTerminal => ofRanges sentenceTerminalRanges
  | softDotted => ofRanges softDottedRanges
  | terminalPunctuation => ofRanges terminalPunctuationRanges
  | unifiedIdeograph => ofRanges unifiedIdeographRanges
  | uppercase => uppercaseSet
  | variationSelector => ofRanges variationSelectorRanges
  | whiteSpace => ofRanges whiteSpaceRanges
  | xidContinue => idContinueSet \ ofRanges incompatibleContinueRanges
  | xidStart => idStartSet \ ofRanges incompatibleStartRanges

end Property

def isAlphabetic (c : Char) : Bool :=
  Property.alphabeticSet.contains c || inRanges Added.alphabeticRanges c

def isGraphemeExtend (c : Char) : Bool :=
  0x80 ≤ c.toNat &&
    (Property.graphemeExtendSet.contains c || inRanges Added.graphemeExtendRanges c)

end FormIntake.Text
