import FormIntake.Pattern.CharClass
import FormIntake.Text.Age
import FormIntake.Text.Boundary

namespace FormIntake.Pattern

open Text (Age Category CharSet ClusterPart Property Script SentencePart WordPart)

def beginsWithIs : List Char → Bool
  | i :: s :: _ => i.toLower = 'i' && s.toLower = 's'
  | _ => false

/-- A name without what makes no difference in it: letter case, spaces, hyphens, underscores,
characters outside ASCII, and `is` in front. A lone `c` behind `is` is another name than `c`. -/
def normalName (name : List Char) : String :=
  let bare := (if beginsWithIs name then name.drop 2 else name).filter fun c =>
    c ≠ ' ' && c ≠ '_' && c ≠ '-' && c.toNat < 0x80
  let plain := bare.map Char.toLower
  String.ofList (if beginsWithIs name ∧ plain = ['c'] then "isc".toList else plain)

def propertyNames : List (String × Property) :=
  [("ahex", .asciiHexDigit), ("asciihexdigit", .asciiHexDigit), ("alpha", .alphabetic),
   ("alphabetic", .alphabetic), ("bidic", .bidiControl), ("bidicontrol", .bidiControl),
   ("bidim", .bidiMirrored), ("bidimirrored", .bidiMirrored), ("caseignorable", .caseIgnorable),
   ("ci", .caseIgnorable), ("cased", .cased), ("changeswhencasefolded", .changesWhenCasefolded),
   ("cwcf", .changesWhenCasefolded), ("changeswhencasemapped", .changesWhenCasemapped),
   ("cwcm", .changesWhenCasemapped), ("changeswhenlowercased", .changesWhenLowercased),
   ("cwl", .changesWhenLowercased), ("changeswhentitlecased", .changesWhenTitlecased),
   ("cwt", .changesWhenTitlecased), ("changeswhenuppercased", .changesWhenUppercased),
   ("cwu", .changesWhenUppercased), ("dash", .dash),
   ("defaultignorablecodepoint", .defaultIgnorable), ("di", .defaultIgnorable),
   ("dep", .deprecated), ("deprecated", .deprecated), ("dia", .diacritic),
   ("diacritic", .diacritic), ("emoji", .emoji), ("ecomp", .emojiComponent),
   ("emojicomponent", .emojiComponent), ("emod", .emojiModifier),
   ("emojimodifier", .emojiModifier), ("ebase", .emojiModifierBase),
   ("emojimodifierbase", .emojiModifierBase), ("emojipresentation", .emojiPresentation),
   ("epres", .emojiPresentation), ("extendedpictographic", .extendedPictographic),
   ("extpict", .extendedPictographic), ("ext", .extender), ("extender", .extender),
   ("graphemebase", .graphemeBase), ("grbase", .graphemeBase),
   ("graphemeextend", .graphemeExtend), ("grext", .graphemeExtend),
   ("graphemelink", .graphemeLink), ("grlink", .graphemeLink), ("hex", .hexDigit),
   ("hexdigit", .hexDigit), ("hyphen", .hyphen), ("idsb", .idsBinaryOperator),
   ("idsbinaryoperator", .idsBinaryOperator), ("idst", .idsTrinaryOperator),
   ("idstrinaryoperator", .idsTrinaryOperator), ("idsu", .idsUnaryOperator),
   ("idsunaryoperator", .idsUnaryOperator), ("idcompatmathcontinue", .idCompatMathContinue),
   ("idcompatmathstart", .idCompatMathStart), ("idc", .idContinue), ("idcontinue", .idContinue),
   ("ids", .idStart), ("idstart", .idStart), ("ideo", .ideographic),
   ("ideographic", .ideographic), ("joinc", .joinControl), ("joincontrol", .joinControl),
   ("loe", .logicalOrderException), ("logicalorderexception", .logicalOrderException),
   ("lower", .lowercase), ("lowercase", .lowercase), ("math", .math),
   ("mcm", .modifierCombiningMark), ("modifiercombiningmark", .modifierCombiningMark),
   ("nchar", .noncharacter), ("noncharactercodepoint", .noncharacter),
   ("oalpha", .otherAlphabetic), ("otheralphabetic", .otherAlphabetic),
   ("odi", .otherDefaultIgnorable), ("otherdefaultignorablecodepoint", .otherDefaultIgnorable),
   ("ogrext", .otherGraphemeExtend), ("othergraphemeextend", .otherGraphemeExtend),
   ("oidc", .otherIdContinue), ("otheridcontinue", .otherIdContinue), ("oids", .otherIdStart),
   ("otheridstart", .otherIdStart), ("olower", .otherLowercase),
   ("otherlowercase", .otherLowercase), ("omath", .otherMath), ("othermath", .otherMath),
   ("otheruppercase", .otherUppercase), ("oupper", .otherUppercase), ("patsyn", .patternSyntax),
   ("patternsyntax", .patternSyntax), ("patternwhitespace", .patternWhiteSpace),
   ("patws", .patternWhiteSpace), ("pcm", .prependedConcatenationMark),
   ("prependedconcatenationmark", .prependedConcatenationMark), ("qmark", .quotationMark),
   ("quotationmark", .quotationMark), ("radical", .radical),
   ("regionalindicator", .regionalIndicator), ("ri", .regionalIndicator),
   ("sentenceterminal", .sentenceTerminal), ("sterm", .sentenceTerminal), ("sd", .softDotted),
   ("softdotted", .softDotted), ("term", .terminalPunctuation),
   ("terminalpunctuation", .terminalPunctuation), ("uideo", .unifiedIdeograph),
   ("unifiedideograph", .unifiedIdeograph), ("upper", .uppercase), ("uppercase", .uppercase),
   ("variationselector", .variationSelector), ("vs", .variationSelector), ("space", .whiteSpace),
   ("whitespace", .whiteSpace), ("wspace", .whiteSpace), ("xidc", .xidContinue),
   ("xidcontinue", .xidContinue), ("xids", .xidStart), ("xidstart", .xidStart)]

def property? (name : String) : Option CharSet := (propertyNames.lookup name).map (·.set)

def category? : String → Option CharSet
  | "l" | "letter" => some (.ofCategories Category.letters)
  | "lc" | "casedletter" =>
    some (.ofCategories [.uppercaseLetter, .lowercaseLetter, .titlecaseLetter])
  | "lu" | "uppercaseletter" => some (.ofCategories [.uppercaseLetter])
  | "ll" | "lowercaseletter" => some (.ofCategories [.lowercaseLetter])
  | "lt" | "titlecaseletter" => some (.ofCategories [.titlecaseLetter])
  | "lm" | "modifierletter" => some (.ofCategories [.modifierLetter])
  | "lo" | "otherletter" => some (.ofCategories [.otherLetter])
  | "m" | "mark" | "combiningmark" => some (.ofCategories Category.marks)
  | "mn" | "nonspacingmark" => some (.ofCategories [.nonspacingMark])
  | "mc" | "spacingmark" => some (.ofCategories [.spacingMark])
  | "me" | "enclosingmark" => some (.ofCategories [.enclosingMark])
  | "n" | "number" => some (.ofCategories Category.numbers)
  | "nd" | "decimalnumber" | "digit" => some (.ofCategories [.decimalNumber])
  | "nl" | "letternumber" => some (.ofCategories [.letterNumber])
  | "no" | "othernumber" => some (.ofCategories [.otherNumber])
  | "p" | "punctuation" | "punct" => some (.ofCategories Category.punctuation)
  | "pc" | "connectorpunctuation" => some (.ofCategories [.connectorPunctuation])
  | "pd" | "dashpunctuation" => some (.ofCategories [.dashPunctuation])
  | "ps" | "openpunctuation" => some (.ofCategories [.openPunctuation])
  | "pe" | "closepunctuation" => some (.ofCategories [.closePunctuation])
  | "pi" | "initialpunctuation" => some (.ofCategories [.initialPunctuation])
  | "pf" | "finalpunctuation" => some (.ofCategories [.finalPunctuation])
  | "po" | "otherpunctuation" => some (.ofCategories [.otherPunctuation])
  | "s" | "symbol" => some (.ofCategories Category.symbols)
  | "sm" | "mathsymbol" => some (.ofCategories [.mathSymbol])
  | "sc" | "currencysymbol" => some (.ofCategories [.currencySymbol])
  | "sk" | "modifiersymbol" => some (.ofCategories [.modifierSymbol])
  | "so" | "othersymbol" => some (.ofCategories [.otherSymbol])
  | "z" | "separator" => some (.ofCategories Category.separators)
  | "zs" | "spaceseparator" => some (.ofCategories [.spaceSeparator])
  | "zl" | "lineseparator" => some (.ofCategories [.lineSeparator])
  | "zp" | "paragraphseparator" => some (.ofCategories [.paragraphSeparator])
  | "c" | "other" => some (CharSet.ofCategories (Category.visible ++ Category.separators)).compl
  | "cc" | "control" | "cntrl" => some (.ofCategories [.control])
  | "cf" | "format" => some (.ofCategories [.format])
  | "co" | "privateuse" => some (.ofCategories [.privateUse])
  | "cn" | "unassigned" => some Text.unassignedSet
  | "any" => some .any
  | "ascii" => some (.range 0 0x7F)
  | "assigned" => some (.ofCategories Category.assigned)
  | _ => none

def script? (name : String) : Option CharSet := (Script.ofName? name).map (·.set)

def scriptExtensions? (name : String) : Option CharSet := (Script.ofName? name).map (·.extendedSet)

def clusterPart? : String → Option ClusterPart
  | "cn" | "control" => some .control
  | "cr" => some .carriageReturn
  | "ex" | "extend" => some .extend
  | "l" => some .leadingJamo
  | "lf" => some .lineFeed
  | "lv" => some .openSyllable
  | "lvt" => some .closedSyllable
  | "pp" | "prepend" => some .prepend
  | "ri" | "regionalindicator" => some .regionalIndicator
  | "sm" | "spacingmark" => some .spacingMark
  | "t" => some .trailingJamo
  | "v" => some .vowelJamo
  | "zwj" => some .joiner
  | _ => none

def wordPart? : String → Option WordPart
  | "aletter" | "le" => some .letter
  | "cr" => some .carriageReturn
  | "dq" | "doublequote" => some .doubleQuote
  | "extend" => some .extend
  | "ex" | "extendnumlet" => some .connector
  | "fo" | "format" => some .format
  | "hl" | "hebrewletter" => some .hebrewLetter
  | "ka" | "katakana" => some .katakana
  | "lf" => some .lineFeed
  | "ml" | "midletter" => some .midLetter
  | "mn" | "midnum" => some .midNumber
  | "mb" | "midnumlet" => some .midNumberOrLetter
  | "nl" | "newline" => some .newline
  | "nu" | "numeric" => some .numeric
  | "ri" | "regionalindicator" => some .regionalIndicator
  | "sq" | "singlequote" => some .singleQuote
  | "wsegspace" => some .space
  | "zwj" => some .joiner
  | _ => none

def sentencePart? : String → Option SentencePart
  | "at" | "aterm" => some .fullStop
  | "cl" | "close" => some .closing
  | "cr" => some .carriageReturn
  | "ex" | "extend" => some .extend
  | "fo" | "format" => some .format
  | "le" | "oletter" => some .otherLetter
  | "lf" => some .lineFeed
  | "lo" | "lower" => some .lower
  | "nu" | "numeric" => some .numeric
  | "sc" | "scontinue" => some .continuation
  | "se" | "sep" => some .separator
  | "sp" => some .space
  | "st" | "sterm" => some .terminal
  | "up" | "upper" => some .upper
  | _ => none

def named? (name : List Char) : Option CharSet :=
  let name := normalName name
  (property? name).or ((category? name).or (script? name))

def valued? (name value : List Char) : Option CharSet :=
  let value := normalName value
  match normalName name with
  | "gc" | "generalcategory" => category? value
  | "sc" | "script" => script? value
  | "scx" | "scriptextensions" => scriptExtensions? value
  | "age" => Age.upTo? value
  | "gcb" | "graphemeclusterbreak" => (clusterPart? value).map (·.set)
  | "wb" | "wordbreak" => (wordPart? value).map (·.set)
  | "sb" | "sentencebreak" => (sentencePart? value).map (·.set)
  | _ => none

def asciiClass? (name : List Char) : Option CharSet :=
  match String.ofList name with
  | "alnum" => some (.ofRanges [(0x30, 0x39), (0x41, 0x5A), (0x61, 0x7A)])
  | "alpha" => some (.ofRanges [(0x41, 0x5A), (0x61, 0x7A)])
  | "ascii" => some (.range 0 0x7F)
  | "blank" => some (.ofRanges [(0x09, 0x09), (0x20, 0x20)])
  | "cntrl" => some (.ofRanges [(0, 0x1F), (0x7F, 0x7F)])
  | "digit" => some asciiDigit
  | "graph" => some (.range 0x21 0x7E)
  | "lower" => some (.range 0x61 0x7A)
  | "print" => some (.range 0x20 0x7E)
  | "punct" => some (.ofRanges [(0x21, 0x2F), (0x3A, 0x40), (0x5B, 0x60), (0x7B, 0x7E)])
  | "space" => some asciiBlank
  | "upper" => some (.range 0x41 0x5A)
  | "word" => some asciiWord
  | "xdigit" => some Property.asciiHexDigit.set
  | _ => none

end FormIntake.Pattern
