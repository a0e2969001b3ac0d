import Descent.Property.Derived

/-!
# Segments

Texts are cut into *graphemes*, what a reader takes for one character, into words and into
sentences.  The rules for cutting go by classes of characters, one partition of the characters for
each kind of segment.  Characters that no class has are of the class `Other`, which expressions
cannot name.
-/

namespace Descent.Segment

open Property

/-- The carriage return. -/
def carriageReturn : CharSet := .single '\r'

/-- The line feed. -/
def lineFeed : CharSet := .single '\n'

/-- The character that joins its neighbours. -/
def joiner : CharSet := .ofRows ["200D"]

/-- The two characters that join or part their neighbours, and the blank without width. -/
def zeroWidth : CharSet := .ofRows ["200B=200D"]

/-! ## Graphemes -/

/-- Marks that take room of their own and do not go with the letter before them. -/
def looseMarks : CharSet := .ofRows
  ["102B=102C 1038 1062=1064 1067=106D 1083 1087=108C 108F 109A=109C 1A61 1A63=1A64 AA7B AA7D",
   "11720=11721"]

/-- Syllables of the Korean script without a last consonant. -/
def openSyllables : CharSet :=
  ⟨(List.range 399).map fun i => (0xAC00 + 28 * i, 0xAC00 + 28 * i)⟩

/-- Syllables of the Korean script. -/
def syllables : CharSet := .ofRows ["AC00=D7A3"]

/-- The classes of graphemes, with their names. -/
def graphemeClasses : List (List String × CharSet) :=
  [(["Control", "CN"],
    ((ofCategories [.zl, .zp, .cc, .cf]).union (unassigned.inter defaultIgnorable)).diff
      (.unions [carriageReturn, lineFeed, zeroWidth.diff (.ofRows ["200B"]), Trait.prependedMark,
        graphemeExtend])),
   (["CR"], carriageReturn),
   (["Extend", "EX"], graphemeExtend.union Trait.emojiModifier),
   (["L"], .ofRows ["1100=115F A960=A97C"]),
   (["LF"], lineFeed),
   (["LV"], openSyllables),
   (["LVT"], syllables.diff openSyllables),
   (["Prepend", "PP"],
    Trait.prependedMark.union (.ofRows
      ["D4E 111C2=111C3 113D1 1193F 11941 11A3A 11A84=11A89 11D46 11F02"])),
   (["Regional_Indicator", "RI"], Trait.regionalIndicator),
   (["SpacingMark", "SM"],
    (((ofCategories [.mc]).diff graphemeExtend).diff looseMarks).union (.ofRows ["E33 EB3"])),
   (["T"], .ofRows ["11A8=11FF D7CB=D7FB"]),
   (["V"], .ofRows ["1160=11A7 D7B0=D7C6 16D63 16D67=16D6A"]),
   (["ZWJ"], joiner)]

/-! ## Words -/

/-- Format characters that are no numbers and do not span what is behind them. -/
def formats : CharSet :=
  (((ofCategories [.cf]).diff zeroWidth).diff graphemeExtend).diff Trait.prependedMark

/-- Marks that span a number. -/
def numberMarks : CharSet := Trait.prependedMark.diff (.ofRows ["70F"])

/-- What extends the character before it and no joiner. -/
def extending : CharSet :=
  (CharSet.unions [graphemeExtend, ofCategories [.mc], Trait.emojiModifier]).diff joiner

/-- Letters of the Katakana script and signs used with them. -/
def katakana : CharSet :=
  (ofScript ⟨"Kana"⟩).union (.ofRows ["3031=3035 309B=309C 30A0 30FC FF70"])

/-- Letters of the Hebrew script. -/
def hebrewLetters : CharSet := (ofScript ⟨"Hebr"⟩).inter (ofCategories [.lo])

/-- Letters of scripts that do not part their words, and those of the Hiragana script. -/
def unpartedLetters : CharSet :=
  (ofCategories [.lo, .lm, .nl]).inter
    (.unions (["Ahom", "Hira", "Khmr", "Laoo", "Lana", "Mymr", "Tale", "Talu", "Tavt", "Thai"].map
      fun code => ofScript ⟨code⟩))

/-- Symbols and signs that words are made of beside letters. -/
def wordSigns : CharSet := .ofRows
  ["2C2=2C5 2D2=2D7 2DE=2DF 2E5=2EB 2ED 2EF=2FF 55A=55C 55E 58A 5F3 70F A708=A716 A720=A721",
   "A789=A78A AB5B"]

/-- The classes of words, with their names. -/
def wordClasses : List (List String × CharSet) :=
  [(["ALetter", "LE"],
    ((alphabetic.diff (.unions [Trait.ideographic, katakana, extending, hebrewLetters])).diff
      unpartedLetters).union wordSigns),
   (["CR"], carriageReturn),
   (["Double_Quote", "DQ"], .single '"'),
   (["Extend"], extending),
   (["ExtendNumLet", "EX"], (ofCategories [.pc]).union (.ofRows ["202F"])),
   (["Format", "FO"], formats),
   (["Hebrew_Letter", "HL"], hebrewLetters),
   (["Katakana", "KA"], katakana),
   (["LF"], lineFeed),
   (["MidLetter", "ML"], .ofRows ["3A B7 387 55F 5F4 2027 FE13 FE55 FF1A"]),
   (["MidNum", "MN"], .ofRows ["2C 3B 37E 589 60C=60D 66C 7F8 2044 FE10 FE14 FE50 FE54 FF0C FF1B"]),
   (["MidNumLet", "MB"], .ofRows ["2E 2018=2019 2024 FE52 FF07 FF0E"]),
   (["Newline", "NL"], .ofRows ["B=C 85 2028=2029"]),
   (["Numeric", "NU"], .unions [digits, .ofRows ["66B"], numberMarks]),
   (["Regional_Indicator", "RI"], Trait.regionalIndicator),
   (["Single_Quote", "SQ"], .ofRows ["27"]),
   (["WSegSpace"], .ofRows ["20 1680 2000=2006 2008=200A 205F 3000"]),
   (["ZWJ"], joiner)]

/-! ## Sentences -/

/-- Full stops that may also stand within a number or an abbreviation. -/
def fullStops : CharSet := .ofRows ["2E 2024 FE52 FF0E"]

/-- Letters of the Georgian script, which do not show where a sentence starts. -/
def georgian : CharSet := .ofRows ["10D0=10FA 10FD=10FF 1C90=1CBA 1CBD=1CBF"]

/-- What extends the character before it. -/
def attaching : CharSet := .unions [graphemeExtend, joiner, ofCategories [.mc]]

/-- Lower case characters that show that a sentence goes on. -/
def lowerLetters : CharSet := (lowercase.diff graphemeExtend).diff georgian

/-- Upper case characters that show that a sentence starts. -/
def upperLetters : CharSet := (uppercase.union titlecase).diff georgian

/-- The classes of sentences, with their names. -/
def sentenceClasses : List (List String × CharSet) :=
  [(["ATerm", "AT"], fullStops),
   (["CR"], carriageReturn),
   (["Close", "CL"],
    (ofCategories [.ps, .pe, .pi, .pf]).union (.ofRows
      ["22 27 275B=2760 2E00=2E01 2E06=2E08 2E0B 1F676=1F678"])),
   (["Extend", "EX"], attaching),
   (["Format", "FO"],
    (((ofCategories [.cf]).diff (.ofRows ["200C=200D"])).diff graphemeExtend).diff
      Trait.prependedMark),
   (["LF"], lineFeed),
   (["Lower", "LO"], lowerLetters),
   (["Numeric", "NU"], .unions [digits, .ofRows ["66B=66C"], numberMarks]),
   (["OLetter", "LE"],
    (alphabetic.diff (.unions [lowerLetters, upperLetters, attaching])).union
      (.ofRows ["5F3 70F"])),
   (["SContinue", "SC"],
    .ofRows ["2C=2D 3A=3B 37E 55D 60C=60D 7F8 1802 1808 2013=2014 3001 FE10=FE11 FE13=FE14",
      "FE31=FE32 FE50=FE51 FE54=FE55 FE58 FE63 FF0C=FF0D FF1A=FF1B FF64"]),
   (["STerm", "ST"], Trait.sentenceTerminal.diff fullStops),
   (["Sep", "SE"], .ofRows ["85 2028=2029"]),
   (["Sp", "SP"], blank.diff (.ofRows ["A D 85 2028=2029"])),
   (["Upper", "UP"], upperLetters)]

end Descent.Segment
