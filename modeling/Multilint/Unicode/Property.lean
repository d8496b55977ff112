import Multilint.Unicode.Category
import Multilint.Unicode.Folding
import Multilint.Unicode.PropertyTable
/-!
# Properties of characters

Most properties follow from the general category, with some characters more or less. `property?` finds a
property by its name.
-/

namespace Multilint

namespace Unicode

namespace Property

/-! ## Letters -/

/-- The lower-case characters. -/
def lowercase : CharSet := (category "Ll").union otherLowercase

/-- The upper-case characters. -/
def uppercase : CharSet := (category "Lu").union otherUppercase

/-- The letters and what is used like them. -/
def alphabetic : CharSet :=
  .unions [categoryIn ["L", "Nl"], lowercase, uppercase, otherAlphabetic]

/-- The characters that have a case. -/
def cased : CharSet := .unions [lowercase, uppercase, category "Lt"]

/-- The characters that do not part a letter from the next one where case depends on neighbours. -/
def caseIgnorable : CharSet :=
  (categoryIn ["Mn", "Me", "Cf", "Lm", "Sk"]).union
    (.listed "27 2E 3A B7 387 55F 5F4 2018-2019 2024 2027 FE13 FE52 FE55 FF07 FF0E FF1A")

/-- The letters that become several letters in upper case. -/
def severalInUppercase : CharSet := .listed "
  149 1F0 587 1E96-1E9A 1F50 1F52 1F54 1F56 1FB2 1FB4 1FB6-1FB7 1FC2 1FC4 1FC6-1FC7 1FD2 1FD6-1FD7
  1FE2 1FE4 1FE6-1FE7 1FF2 1FF4 1FF6-1FF7 FB00-FB04 FB13-FB17"

/-- The characters with several spellings. -/
def foldable : CharSet := foldings.letters

/-- The characters that are others in lower case. -/
def changesWhenLowercased : CharSet :=
  ((uppercase.union (category "Lt")).inter foldable).union (.listed "130")

/-- The characters that are others in upper case. -/
def changesWhenUppercased : CharSet :=
  .unions [(lowercase.union (categoryIn ["Lt", "Mn"])).inter foldable, severalInUppercase, .listed "131"]

/-- The characters that are others as capitals. Georgian words have none. -/
def changesWhenTitlecased : CharSet :=
  .unions [(lowercase.inter foldable).diff (.listed "10D0-10FA 10FD-10FF"), severalInUppercase,
    .listed "131 1C4 1C7 1CA 1F1"]

/-- The characters that a change of case changes. -/
def changesWhenCasemapped : CharSet :=
  .unions [foldable, severalInUppercase, .listed "130-131"]

/-- The characters that a folding changes, when letters may fold to several. -/
def changesWhenCasefolded : CharSet :=
  ((CharSet.ofNumbers (foldings.map Prod.fst)).diff (.listed "1FBE 1FD3 1FE3")).union (.listed "
    DF 130 149 587 1E9A 1F80-1F87 1F90-1F97 1FA0-1FA7 1FB2-1FB4 1FB7 1FC2-1FC4 1FC7 1FF2-1FF4 1FF7
    FB00-FB04 FB06 FB13-FB17")

/-! ## Symbols and clusters -/

/-- The characters of mathematics. -/
def math : CharSet := (category "Sm").union otherMath

/-- The characters that go on with a cluster. -/
def graphemeExtend : CharSet := (categoryIn ["Mn", "Me"]).union otherGraphemeExtend

/-- The characters that a cluster is built on. -/
def graphemeBase : CharSet :=
  ((categoryIn ["Cc", "Cf", "Cs", "Co", "Cn", "Zl", "Zp"]).union graphemeExtend).compl

/-- The characters of which nothing is shown where they are not supported. -/
def defaultIgnorableCodePoint : CharSet :=
  (CharSet.unions [otherDefaultIgnorableCodePoint, category "Cf", variationSelector]).diff
    (.unions [whiteSpace, .listed "FFF9-FFFB 13430-13440", prependedConcatenationMark])

/-! ## Identifiers -/

/-- The characters of patterns. -/
def patterns : CharSet := patternSyntax.union patternWhiteSpace

/-- The characters that identifiers start with. -/
def idStart : CharSet := ((categoryIn ["L", "Nl"]).union otherIdStart).diff patterns

/-- The characters that identifiers go on with. -/
def idContinue : CharSet :=
  (CharSet.unions [idStart, categoryIn ["Mn", "Mc", "Nd", "Pc"], otherIdContinue]).diff patterns

/-- The characters of identifiers that become other ones when their compatible forms are composed. -/
def unstableInIdentifiers : CharSet := .listed "
  37A 309B-309C FC5E-FC63 FDFA-FDFB FE70 FE72 FE74 FE76 FE78 FE7A FE7C FE7E"

/-- The characters that identifiers start with, also after composition. -/
def xidStart : CharSet := idStart.diff (unstableInIdentifiers.union (.listed "E33 EB3 FF9E-FF9F"))

/-- The characters that identifiers go on with, also after composition. -/
def xidContinue : CharSet := idContinue.diff unstableInIdentifiers

/-! ## Names -/

/-- The properties with their names. -/
def named : List (String × CharSet) := [
  ("AHex:ASCII_Hex_Digit", asciiHexDigit),
  ("Alpha:Alphabetic", alphabetic),
  ("Bidi_C:Bidi_Control", bidiControl),
  ("CI:Case_Ignorable", caseIgnorable),
  ("Cased", cased),
  ("CWCF:Changes_When_Casefolded", changesWhenCasefolded),
  ("CWCM:Changes_When_Casemapped", changesWhenCasemapped),
  ("CWL:Changes_When_Lowercased", changesWhenLowercased),
  ("CWT:Changes_When_Titlecased", changesWhenTitlecased),
  ("CWU:Changes_When_Uppercased", changesWhenUppercased),
  ("Dash", dash),
  ("DI:Default_Ignorable_Code_Point", defaultIgnorableCodePoint),
  ("Dep:Deprecated", deprecated),
  ("Dia:Diacritic", diacritic),
  ("Emoji", emoji),
  ("EComp:Emoji_Component", emojiComponent),
  ("EMod:Emoji_Modifier", emojiModifier),
  ("EBase:Emoji_Modifier_Base", emojiModifierBase),
  ("EPres:Emoji_Presentation", emojiPresentation),
  ("ExtPict:Extended_Pictographic", extendedPictographic),
  ("Ext:Extender", extender),
  ("Gr_Base:Grapheme_Base", graphemeBase),
  ("Gr_Ext:Grapheme_Extend", graphemeExtend),
  ("Gr_Link:Grapheme_Link", graphemeLink),
  ("Hex:Hex_Digit", hexDigit),
  ("Hyphen", hyphen),
  ("IDSB:IDS_Binary_Operator", idsBinaryOperator),
  ("IDST:IDS_Trinary_Operator", idsTrinaryOperator),
  ("IDSU:IDS_Unary_Operator", idsUnaryOperator),
  ("ID_Compat_Math_Continue", idCompatMathContinue),
  ("ID_Compat_Math_Start", idCompatMathStart),
  ("IDC:ID_Continue", idContinue),
  ("IDS:ID_Start", idStart),
  ("Ideo:Ideographic", ideographic),
  ("Join_C:Join_Control", joinControl),
  ("LOE:Logical_Order_Exception", logicalOrderException),
  ("Lower:Lowercase", lowercase),
  ("Math", math),
  ("MCM:Modifier_Combining_Mark", modifierCombiningMark),
  ("NChar:Noncharacter_Code_Point", noncharacterCodePoint),
  ("OAlpha:Other_Alphabetic", otherAlphabetic),
  ("ODI:Other_Default_Ignorable_Code_Point", otherDefaultIgnorableCodePoint),
  ("OGr_Ext:Other_Grapheme_Extend", otherGraphemeExtend),
  ("OIDC:Other_ID_Continue", otherIdContinue),
  ("OIDS:Other_ID_Start", otherIdStart),
  ("OLower:Other_Lowercase", otherLowercase),
  ("OMath:Other_Math", otherMath),
  ("OUpper:Other_Uppercase", otherUppercase),
  ("Pat_Syn:Pattern_Syntax", patternSyntax),
  ("Pat_WS:Pattern_White_Space", patternWhiteSpace),
  ("PCM:Prepended_Concatenation_Mark", prependedConcatenationMark),
  ("QMark:Quotation_Mark", quotationMark),
  ("Radical", radical),
  ("RI:Regional_Indicator", regionalIndicator),
  ("STerm:Sentence_Terminal", sentenceTerminal),
  ("SD:Soft_Dotted", softDotted),
  ("Term:Terminal_Punctuation", terminalPunctuation),
  ("UIdeo:Unified_Ideograph", unifiedIdeograph),
  ("Upper:Uppercase", uppercase),
  ("VS:Variation_Selector", variationSelector),
  ("WSpace:White_Space:space", whiteSpace),
  ("XIDC:XID_Continue", xidContinue),
  ("XIDS:XID_Start", xidStart)]

end Property

/-- The set of a table whose name is given, in any of the ways to write it. -/
def namedSet? (sets : List (String × CharSet)) (name : String) : Option CharSet :=
  let name := loosely name
  (sets.find? fun e => (Text.pieces ':' e.1).any fun n => loosely n == name).map Prod.snd

/-- The characters with a property. -/
def property? (name : String) : Option CharSet := namedSet? Property.named name

end Unicode

end Multilint
