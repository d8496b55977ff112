import Multilint.Unicode.Property
import Multilint.Unicode.Script
/-!
# Classes at boundaries

Where clusters, words and sentences of a text end is decided by classes of characters. Each of the three
tables gives the classes of one kind of boundary with their names.
-/

namespace Multilint

namespace Unicode

namespace Boundary

open Property

/-- The characters that go on with a word or a sentence: marks, and what goes on with a cluster. -/
def extending : CharSet := graphemeExtend.union (category "Mc")

/-- The characters of flags. -/
def flagLetter : CharSet := .listed "1F1E6-1F1FF"

/-! ## Clusters -/

/-- The first parts of syllables in Hangul. -/
def leading : CharSet := .listed "1100-115F A960-A97C"

/-- The vowels of Hangul, and those of Kirat Rai that behave in the same way. -/
def vowel : CharSet := .listed "1160-11A7 D7B0-D7C6 16D63 16D67-16D6A"

/-- The last parts of syllables in Hangul. -/
def trailing : CharSet := .listed "11A8-11FF D7CB-D7FB"

/-- The syllables of Hangul without a last part: one in twenty-eight. -/
def openSyllable : CharSet :=
  .ofNumbers ((List.range 399).map fun k => 0xAC00 + 28 * k)

/-- The characters that no cluster goes beyond, line ends apart. -/
def controlling : CharSet :=
  ((categoryIn ["Zl", "Zp", "Cc", "Cf"]).union ((category "Cn").inter defaultIgnorableCodePoint)).diff
    (.unions [graphemeExtend, prependedConcatenationMark, .listed "A D 200C-200D"])

/-- The marks with a width of their own that a cluster goes on with. -/
def spacingMark : CharSet :=
  ((category "Mc").union (.listed "E33 EB3")).diff (graphemeExtend.union (.listed "
    102B-102C 1038 1062-1064 1067-106D 1083 1087-108C 108F 109A-109C 1A61 1A63-1A64 AA7B AA7D
    11720-11721"))

/-- The classes of clusters. -/
def clusterClasses : List (String × CharSet) := [
  ("CN:Control", controlling),
  ("CR", .listed "D"),
  ("EX:Extend", (graphemeExtend.union emojiModifier).diff (.listed "200D")),
  ("L", leading),
  ("LF", .listed "A"),
  ("LV", openSyllable),
  ("LVT", (CharSet.listed "AC00-D7A3").diff openSyllable),
  ("PP:Prepend", prependedConcatenationMark.union (.listed "
    D4E 111C2-111C3 113D1 1193F 11941 11A3A 11A84-11A89 11D46 11F02")),
  ("RI:Regional_Indicator", flagLetter),
  ("SM:SpacingMark", spacingMark),
  ("T", trailing),
  ("V", vowel),
  ("ZWJ", .listed "200D")]

/-! ## Words -/

/-- The letters of the Hebrew script. -/
def hebrewLetter : CharSet := (scripts.select (· == "Hebr")).inter (category "Lo")

/-- The characters of Katakana and what is used with them. -/
def katakana : CharSet :=
  (scripts.select (· == "Kana")).union (.listed "3031-3035 309B-309C 30A0 30FC FF70")

/-- The letters of scripts that write no blank between words. -/
def unspaced : CharSet := .listed "
  E01-E30 E32-E33 E40-E46 E81-E82 E84 E86-E8A E8C-EA3 EA5 EA7-EB0 EB2-EB3 EBD EC0-EC4 EC6 EDC-EDF
  1000-102A 103F 1050-1055 105A-105D 1061 1065-1066 106E-1070 1075-1081 108E 1780-17B3 17D7 17DC
  1950-196D 1970-1974 1980-19AB 19B0-19C9 1A20-1A54 1AA7 A9E0-A9E4 A9E6-A9EF A9FA-A9FE AA60-AA76
  AA7A AA7E-AAAF AAB1 AAB5-AAB6 AAB9-AABD AAC0 AAC2 AADB-AADD 11700-1171A 11740-11746"

/-- The letters of words. -/
def wordLetter : CharSet :=
  (alphabetic.union (.listed "
    2C2-2C5 2D2-2D7 2DE-2DF 2E5-2EB 2ED 2EF-2FF 55A-55C 55E 58A 5F3 A708-A716 A720-A721 A789-A78A
    AB5B")).diff
    (.unions [ideographic, scripts.select (· == "Hira"), katakana, hebrewLetter, extending, unspaced])

/-- The classes of words. -/
def wordClasses : List (String × CharSet) := [
  ("CR", .listed "D"),
  ("DQ:Double_Quote", .listed "22"),
  ("EX:ExtendNumLet", (category "Pc").union (.listed "202F")),
  ("Extend", (extending.union emojiModifier).diff (.listed "200D")),
  ("FO:Format", (category "Cf").diff (extending.union (.listed "200B-200D"))),
  ("HL:Hebrew_Letter", hebrewLetter),
  ("KA:Katakana", katakana),
  ("LE:ALetter", wordLetter),
  ("LF", .listed "A"),
  ("MB:MidNumLet", .listed "2E 2018-2019 2024 FE52 FF07 FF0E"),
  ("ML:MidLetter", .listed "3A B7 387 55F 5F4 2027 FE13 FE55 FF1A"),
  ("MN:MidNum", .listed "2C 3B 37E 589 60C-60D 66C 7F8 2044 FE10 FE14 FE50 FE54 FF0C FF1B"),
  ("NL:Newline", .listed "B-C 85 2028-2029"),
  ("NU:Numeric", (category "Nd").union (.listed "66B")),
  ("RI:Regional_Indicator", flagLetter),
  ("SQ:Single_Quote", .listed "27"),
  ("WSegSpace", .listed "20 1680 2000-2006 2008-200A 205F 3000"),
  ("ZWJ", .listed "200D")]

/-! ## Sentences -/

/-- The full stops. -/
def fullStop : CharSet := .listed "2E 2024 FE52 FF0E"

/-- The lower-case letters of sentences. Georgian ones stand anywhere. -/
def sentenceLower : CharSet :=
  (lowercase.diff (graphemeExtend.union (.listed "10D0-10FF"))).union (.listed "10FC")

/-- The upper-case letters of sentences. -/
def sentenceUpper : CharSet :=
  (uppercase.union (category "Lt")).diff (.listed "1C90-1CBA 1CBD-1CBF")

/-- The characters that end a sentence for good. -/
def paragraphEnd : CharSet := .listed "85 2028-2029"

/-- The brackets and quotation marks around sentences. -/
def closing : CharSet :=
  (CharSet.unions [categoryIn ["Ps", "Pe", "Pi", "Pf"], quotationMark,
    .listed "275B-2760 2E00-2E01 2E06-2E08 2E0B 1F676-1F678"]).diff (.listed "FF02 FF07")

/-- The classes of sentences. -/
def sentenceClasses : List (String × CharSet) := [
  ("AT:ATerm", fullStop),
  ("CL:Close", closing),
  ("CR", .listed "D"),
  ("EX:Extend", extending.union (.listed "200D")),
  ("FO:Format", (category "Cf").diff (extending.union (.listed "200C-200D"))),
  ("LE:OLetter", (alphabetic.union (.listed "5F3")).diff
    (.unions [sentenceLower, sentenceUpper, extending])),
  ("LF", .listed "A"),
  ("LO:Lower", sentenceLower),
  ("NU:Numeric", (category "Nd").union (.listed "66B-66C")),
  ("SC:SContinue", .listed "
    2C-2D 3A-3B 37E 55D 60C-60D 7F8 1802 1808 2013-2014 3001 FE10-FE11 FE13-FE14 FE31-FE32 FE50-FE51
    FE54-FE55 FE58 FE63 FF0C-FF0D FF1A-FF1B FF64"),
  ("SE:Sep", paragraphEnd),
  ("SP:Sp", whiteSpace.diff (paragraphEnd.union (.listed "A D"))),
  ("ST:STerm", sentenceTerminal.diff fullStop),
  ("UP:Upper", sentenceUpper)]

end Boundary

end Unicode

end Multilint
