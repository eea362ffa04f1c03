import ExceptionFlow.Text.Property
import ExceptionFlow.Text.Script

set_option autoImplicit false

/-! # Classes of characters for cutting text

What a character does where a text is cut into user-perceived characters, words or sentences, after
Unicode 16. Each list gives the classes with their names in small letters. -/

namespace ExceptionFlow.Text

/-- The marks that are written with the character before them. -/
def joinedMarks : CharSet := graphemeExtend.union emojiModifiers

/-- Hangul syllables without a final consonant: every twenty-eighth one. -/
def openSyllables : CharSet :=
  .ofRanges ((List.range 399).map fun i => (0xAC00 + 28 * i, 0xAC00 + 28 * i))

/-- The classes of user-perceived characters. -/
def clusterClasses : List (List String × CharSet) :=
  let ends : CharSet := .ofTable ["A D 200C-200D"]
  [(["control", "cn"],
      (CharSet.unionAll [controls, formats, lineSeparators, paragraphSeparators,
        unassigned.inter defaultIgnorable]).difference
        (.unionAll [ends, prependedMarks, graphemeExtend])),
   (["cr"], .ofTable ["D"]),
   (["extend", "ex"], joinedMarks),
   (["l"], .ofTable ["1100-115F A960-A97C"]),
   (["lf"], .ofTable ["A"]),
   (["lv"], openSyllables),
   (["lvt"], (CharSet.ofTable ["AC00-D7A3"]).difference openSyllables),
   (["prepend", "pp"],
      prependedMarks.union (.ofTable
        ["D4E 111C2-111C3 113D1 1193F 11941 11A3A 11A84-11A89 11D46 11F02"])),
   (["regionalindicator", "ri"], regionalIndicators),
   (["spacingmark", "sm"],
      ((spacingMarks.difference graphemeExtend).union (.ofTable ["E33 EB3"])).difference (.ofTable
        ["102B-102C 1038 1062-1064 1067-106D 1083 1087-108C 108F 109A-109C 1A61 1A63-1A64 AA7B",
         "AA7D 11720-11721"])),
   (["t"], .ofTable ["11A8-11FF D7CB-D7FB"]),
   (["v"], .ofTable ["1160-11A7 D7B0-D7C6 16D63 16D67-16D6A"]),
   (["zwj"], .ofTable ["200D"])]

/-- The members of a script. -/
def scriptMembers (name : String) : CharSet := ((script? name).map (·.members)).getD .empty

/-- Letters of scripts that put no spaces between words. -/
def unspacedLetters : CharSet := .ofTable
  ["E01-E30 E32-E33 E40-E46 E81-E82 E84 E86-E8A E8C-EA3 EA5 EA7-EB0 EB2-EB3 EBD EC0-EC4 EC6",
   "EDC-EDF 1000-102A 103F 1050-1055 105A-105D 1061 1065-1066 106E-1070 1075-1081 108E 1780-17B3",
   "17D7 17DC 1950-196D 1970-1974 1980-19AB 19B0-19C9 1A20-1A54 1AA7 A9E0-A9E4 A9E6-A9EF",
   "A9FA-A9FE AA60-AA76 AA7A AA7E-AAAF AAB1 AAB5-AAB6 AAB9-AABD AAC0 AAC2 AADB-AADD 11700-1171A",
   "11740-11746"]

/-- The classes of words. -/
def wordClasses : List (List String × CharSet) :=
  let extend := joinedMarks.union spacingMarks
  let katakana := ((scriptMembers "katakana").union
    (.ofTable ["3031-3035 309B-309C 30A0 30FC FF70"])).difference extend
  let hebrew := (scriptMembers "hebrew").inter otherLetters
  let numeric := .unionAll [decimalNumbers, .ofTable ["66B"], prependedMarks.difference
    (.ofTable ["70F"])]
  [(["aletter", "le"],
      (alphabetic.difference (.unionAll [ideographs, katakana, scriptMembers "hiragana", extend,
        hebrew, unspacedLetters])).union (.ofTable
        ["2C2-2C5 2D2-2D7 2DE-2DF 2E5-2EB 2ED 2EF-2FF 55A-55C 55E 58A 5F3 70F A708-A716 A720-A721",
         "A789-A78A AB5B"])),
   (["cr"], .ofTable ["D"]),
   (["doublequote", "dq"], .ofTable ["22"]),
   (["extend"], extend),
   (["extendnumlet", "ex"], .ofTable ["5F 202F 203F-2040 2054 FE33-FE34 FE4D-FE4F FF3F"]),
   (["format", "fo"],
      formats.difference (.unionAll [.ofTable ["200B-200D"], prependedMarks, extend])),
   (["hebrewletter", "hl"], hebrew),
   (["katakana", "ka"], katakana),
   (["lf"], .ofTable ["A"]),
   (["midletter", "ml"], .ofTable ["3A B7 387 55F 5F4 2027 FE13 FE55 FF1A"]),
   (["midnum", "mn"],
      .ofTable ["2C 3B 37E 589 60C-60D 66C 7F8 2044 FE10 FE14 FE50 FE54 FF0C FF1B"]),
   (["midnumlet", "mb"], .ofTable ["2E 2018-2019 2024 FE52 FF07 FF0E"]),
   (["newline", "nl"], .ofTable ["B-C 85 2028-2029"]),
   (["numeric", "nu"], numeric),
   (["regionalindicator", "ri"], regionalIndicators),
   (["singlequote", "sq"], .ofTable ["27"]),
   (["wsegspace"], .ofTable ["20 1680 2000-2006 2008-200A 205F 3000"]),
   (["zwj"], .ofTable ["200D"])]

/-- The classes of sentences. -/
def sentenceClasses : List (List String × CharSet) :=
  let stops : CharSet := .ofTable ["2E 2024 FE52 FF0E"]
  let extend := .unionAll [graphemeExtend, spacingMarks, .ofTable ["200D"]]
  let georgian : CharSet := .ofTable ["10D0-10FA 10FD-10FF 1C90-1CBA 1CBD-1CBF"]
  let lower := lowercase.difference (graphemeExtend.union georgian)
  let upper := (titlecaseLetters.union uppercase).difference georgian
  [(["aterm", "at"], stops),
   (["close", "cl"],
      .unionAll [openPunctuation, closePunctuation, initialPunctuation, finalPunctuation,
        .ofTable ["22 27 275B-2760 2E00-2E01 2E06-2E08 2E0B 1F676-1F678"]]),
   (["cr"], .ofTable ["D"]),
   (["extend", "ex"], extend),
   (["format", "fo"], formats.difference (extend.union (.ofTable ["200C"]))),
   (["lf"], .ofTable ["A"]),
   (["lower", "lo"], lower),
   (["numeric", "nu"], decimalNumbers.union (.ofTable ["66B-66C"])),
   (["oletter", "le"],
      (alphabetic.union (.ofTable ["5F3"])).difference (.unionAll [lower, upper, extend])),
   (["scontinue", "sc"],
      .ofTable ["2C-2D 3A 55D 60C-60D 7F8 1802 1808 2013-2014 3001 FE10-FE11 FE13 FE31-FE32",
        "FE50-FE51 FE55 FE58 FE63 FF0C-FF0D FF1A FF64"]),
   (["sep", "se"], .ofTable ["85 2028-2029"]),
   (["sp"], .ofTable ["9 B-C 20 A0 1680 2000-200A 202F 205F 3000"]),
   (["sterm", "st"], sentenceTerminals.difference stops),
   (["upper", "up"], upper)]

end ExceptionFlow.Text
