import FormIntake.Text.Property
import FormIntake.Text.Script

namespace FormIntake.Text

inductive ClusterPart
  | control | carriageReturn | extend | leadingJamo | lineFeed | openSyllable | closedSyllable
  | prepend | regionalIndicator | spacingMark | trailingJamo | vowelJamo | joiner
  deriving DecidableEq, Repr

inductive WordPart
  | letter | carriageReturn | doubleQuote | extend | connector | format | hebrewLetter | katakana
  | lineFeed | midLetter | midNumber | midNumberOrLetter | newline | numeric | regionalIndicator
  | singleQuote | space | joiner
  deriving DecidableEq, Repr

inductive SentencePart
  | fullStop | carriageReturn | closing | extend | format | lineFeed | lower | numeric
  | otherLetter | continuation | terminal | separator | space | upper
  deriving DecidableEq, Repr

namespace Boundary

open CharSet Property

def carriageReturnSet : CharSet := char '\r'

def lineFeedSet : CharSet := char '\n'

def joinerSet : CharSet := char '\u200D'

/-- The syllables of Hangul without a consonant at their end, every twenty-eighth of all. -/
def openSyllableSet : CharSet :=
  ofRanges ((List.range 399).map fun k => (0xAC00 + 28 * k, 0xAC00 + 28 * k))

def spacingMarkSet : CharSet := ofCategories [.spacingMark]

def clusterExtendSet : CharSet := graphemeExtendSet ∪ emojiModifier.set

def clusterControlSet : CharSet :=
  let kept := ofRanges ([(0x0A, 0x0A), (0x0D, 0x0D), (0x200C, 0x200D)] ++ tagRanges ++
    prependedConcatenationMarkRanges)
  (ofCategories [.lineSeparator, .paragraphSeparator, .control, .format] ∪
    (unassignedSet ∩ defaultIgnorableSet)) \ kept

def scriptSet (name : String) : CharSet := ((Script.ofName? name).map (·.set)).getD .empty

def hebrewLetterSet : CharSet := scriptSet "hebr" ∩ ofCategories [.otherLetter]

def katakanaSet : CharSet := scriptSet "kana" ∪ ofRanges kanaMarkRanges

def wordExtendSet : CharSet := (clusterExtendSet ∪ spacingMarkSet) \ joinerSet

def wordLetterSet : CharSet :=
  (alphabeticSet \
    (ideographic.set ∪ katakanaSet ∪ scriptSet "hira" ∪ hebrewLetterSet ∪ wordExtendSet ∪
      ofRanges dictionaryLetterRanges)) ∪ ofRanges wordSymbolRanges

def wordNumericSet : CharSet := ofCategories [.decimalNumber] ∪ ofRanges numberSignRanges

def sentenceExtendSet : CharSet := graphemeExtendSet ∪ spacingMarkSet ∪ joinerSet

def sentenceLowerSet : CharSet :=
  lowercaseSet \ (graphemeExtendSet ∪ ofRanges lowerExceptionRanges)

def sentenceUpperSet : CharSet := (uppercaseSet ∪ titlecaseSet) \ ofRanges upperExceptionRanges

def closingSet : CharSet :=
  ((ofCategories [.openPunctuation, .closePunctuation, .initialPunctuation, .finalPunctuation] ∪
    quotationMark.set) \ ofRanges openQuoteRanges) ∪ ofRanges closingRanges

end Boundary

open Boundary CharSet Property

def ClusterPart.set : ClusterPart → CharSet
  | control => clusterControlSet
  | carriageReturn => carriageReturnSet
  | extend => clusterExtendSet
  | leadingJamo => ofRanges leadingJamoRanges
  | lineFeed => lineFeedSet
  | openSyllable => openSyllableSet
  | closedSyllable => ofRanges syllableRanges \ openSyllableSet
  | prepend => ofRanges (prependedConcatenationMarkRanges ++ prependedRanges)
  | regionalIndicator => Property.regionalIndicator.set
  | spacingMark =>
    (spacingMarkSet \ (clusterExtendSet ∪ ofRanges separateSpacingMarkRanges)) ∪
      ofRanges joinedVowelRanges
  | trailingJamo => ofRanges trailingJamoRanges
  | vowelJamo => ofRanges vowelJamoRanges
  | joiner => joinerSet

def WordPart.set : WordPart → CharSet
  | letter => wordLetterSet
  | carriageReturn => carriageReturnSet
  | doubleQuote => char '"'
  | extend => wordExtendSet
  | connector => ofCategories [.connectorPunctuation] ∪ char '\u202F'
  | format => ofCategories [.format] \ ofRanges (wordFormatExceptionRanges ++ tagRanges)
  | hebrewLetter => hebrewLetterSet
  | katakana => katakanaSet
  | lineFeed => lineFeedSet
  | midLetter => ofRanges midLetterRanges
  | midNumber => ofRanges midNumRanges
  | midNumberOrLetter => ofRanges midNumLetRanges
  | newline => ofRanges newlineRanges
  | numeric => wordNumericSet
  | regionalIndicator => Property.regionalIndicator.set
  | singleQuote => char '\''
  | space => ofCategories [.spaceSeparator] \ ofRanges noBreakSpaceRanges
  | joiner => joinerSet

def SentencePart.set : SentencePart → CharSet
  | fullStop => ofRanges fullStopRanges
  | carriageReturn => carriageReturnSet
  | closing => closingSet
  | extend => sentenceExtendSet
  | format =>
    ofCategories [.format] \
      ofRanges ([(0x200C, 0x200D)] ++ tagRanges ++
        prependedConcatenationMarkRanges.filter (· ≠ (0x070F, 0x070F)))
  | lineFeed => lineFeedSet
  | lower => sentenceLowerSet
  | numeric => wordNumericSet ∪ char '\u066C'
  | otherLetter =>
    (alphabeticSet \ (sentenceLowerSet ∪ sentenceUpperSet ∪ sentenceExtendSet)) ∪ char '\u05F3'
  | continuation => ofRanges continuationRanges
  | terminal => sentenceTerminal.set \ ofRanges fullStopRanges
  | separator => ofRanges [(0x85, 0x85), (0x2028, 0x2029)]
  | space =>
    whiteSpace.set \ ofRanges [(0x0A, 0x0A), (0x0D, 0x0D), (0x85, 0x85), (0x2028, 0x2029)]
  | upper => sentenceUpperSet

end FormIntake.Text
