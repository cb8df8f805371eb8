import FormIntake.Text.Added
import FormIntake.Text.Category.Table
import FormIntake.Text.CharSet

namespace FormIntake.Text

inductive Category
  | uppercaseLetter | lowercaseLetter | titlecaseLetter | modifierLetter | otherLetter
  | nonspacingMark | spacingMark | enclosingMark
  | decimalNumber | letterNumber | otherNumber
  | connectorPunctuation | dashPunctuation | openPunctuation | closePunctuation
  | initialPunctuation | finalPunctuation | otherPunctuation
  | mathSymbol | currencySymbol | modifierSymbol | otherSymbol
  | spaceSeparator | lineSeparator | paragraphSeparator
  | control | format | privateUse
  deriving DecidableEq, Repr

namespace Category

def ranges : Category → List (Nat × Nat)
  | uppercaseLetter => uppercaseLetterRanges
  | lowercaseLetter => lowercaseLetterRanges
  | titlecaseLetter => titlecaseLetterRanges
  | modifierLetter => modifierLetterRanges
  | otherLetter => otherLetterRanges
  | nonspacingMark => nonspacingMarkRanges
  | spacingMark => spacingMarkRanges
  | enclosingMark => enclosingMarkRanges
  | decimalNumber => decimalNumberRanges
  | letterNumber => letterNumberRanges
  | otherNumber => otherNumberRanges
  | connectorPunctuation => connectorPunctuationRanges
  | dashPunctuation => dashPunctuationRanges
  | openPunctuation => openPunctuationRanges
  | closePunctuation => closePunctuationRanges
  | initialPunctuation => initialPunctuationRanges
  | finalPunctuation => finalPunctuationRanges
  | otherPunctuation => otherPunctuationRanges
  | mathSymbol => mathSymbolRanges
  | currencySymbol => currencySymbolRanges
  | modifierSymbol => modifierSymbolRanges
  | otherSymbol => otherSymbolRanges
  | spaceSeparator => spaceSeparatorRanges
  | lineSeparator => lineSeparatorRanges
  | paragraphSeparator => paragraphSeparatorRanges
  | control => controlRanges
  | format => formatRanges
  | privateUse => privateUseRanges

def letters : List Category :=
  [uppercaseLetter, lowercaseLetter, titlecaseLetter, modifierLetter, otherLetter]

def marks : List Category := [nonspacingMark, spacingMark, enclosingMark]

def numbers : List Category := [decimalNumber, letterNumber, otherNumber]

def punctuation : List Category :=
  [connectorPunctuation, dashPunctuation, openPunctuation, closePunctuation, initialPunctuation,
    finalPunctuation, otherPunctuation]

def symbols : List Category := [mathSymbol, currencySymbol, modifierSymbol, otherSymbol]

def separators : List Category := [spaceSeparator, lineSeparator, paragraphSeparator]

def visible : List Category := letters ++ marks ++ numbers ++ punctuation ++ symbols

def assigned : List Category := visible ++ separators ++ [control, format, privateUse]

end Category

def CharSet.ofCategories (categories : List Category) : CharSet :=
  .ofRanges (categories.flatMap Category.ranges)

def unassignedSet : CharSet := (CharSet.ofCategories Category.assigned).compl

def hasCategory (categories : List Category) (c : Char) : Bool :=
  categories.any fun k => inRanges k.ranges c

/-- The characters that show as themselves, the plain space among them, and those of version 17 of
the standard included. -/
def isVisible (c : Char) : Bool :=
  if c.toNat < 0x80 then 0x20 ≤ c.toNat && c.toNat < 0x7F
  else hasCategory Category.visible c || inRanges Added.allRanges c

def isNumeric (c : Char) : Bool :=
  hasCategory Category.numbers c || inRanges Added.numberRanges c

end FormIntake.Text
