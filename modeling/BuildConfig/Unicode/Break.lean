import BuildConfig.Unicode.Derived
import BuildConfig.Unicode.Script

namespace BuildConfig.Unicode

def zeroWidthJoiner : CodeSet := .single 0x200d

/-- The syllables of the Korean script without a final consonant. -/
def openSyllables : CodeSet :=
  .ofCodes ((List.range 399).map fun i => 0xac00 + 28 * i)

/-- The values of the property that text is cut into user-perceived characters by. -/
def graphemeBreaks : List (List String × CodeSet) :=
  [(["cr"], .single 0xd), (["lf"], .single 0xa), (["zwj"], zeroWidthJoiner),
    (["cn", "control"], graphemeControl), (["ex", "extend"], graphemeExtend.union emojiModifier),
    (["pp", "prepend"], graphemePrepend), (["ri", "regionalindicator"], regionalIndicator),
    (["sm", "spacingmark"], graphemeSpacingMark),
    (["l"], .ofText "1100-115f a960-a97c"),
    (["v"], .ofText "1160-11a7 d7b0-d7c6 16d63 16d67-16d6a"),
    (["t"], .ofText "11a8-11ff d7cb-d7fb"), (["lv"], openSyllables),
    (["lvt"], (CodeSet.ofRange 0xac00 0xd7a3).difference openSyllables)]
where
  graphemeControl : CodeSet :=
    ((inCategories ["zl", "zp", "cc", "cf"]).union
      ((inCategories ["cn"]).intersection defaultIgnorableCodePoint)).difference
        (.unions [.ofText "a d 200d", prependedConcatenationMark, graphemeExtend])
  graphemePrepend : CodeSet :=
    prependedConcatenationMark.union
      (.ofText "d4e 111c2-111c3 113d1 1193f 11941 11a3a 11a84-11a89 11d46 11f02")
  graphemeSpacingMark : CodeSet :=
    ((inCategories ["mc"]).difference
      (graphemeExtend.union
        (.ofText "102b-102c 1038 1062-1064 1067-106d 1083 1087-108c 108f 109a-109c 1a61 1a63-1a64
          aa7b aa7d 11720-11721"))).union (.ofText "e33 eb3")

def wordExtend : CodeSet :=
  .unions [graphemeExtend, inCategories ["mc"], emojiModifier]

/-- The values of the property that text is cut into words by. -/
def wordBreaks : List (List String × CodeSet) :=
  [(["cr"], .single 0xd), (["lf"], .single 0xa), (["zwj"], zeroWidthJoiner),
    (["newline", "nl"], .ofText "b-c 85 2028-2029"), (["doublequote", "dq"], .single 0x22),
    (["singlequote", "sq"], singleQuote), (["extend"], wordExtend),
    (["fo", "format"], wordFormat), (["hebrewletter", "hl"], hebrewLetter),
    (["ka", "katakana"], wordKatakana), (["aletter", "le"], wordLetter),
    (["midletter", "ml"], midLetter), (["mb", "midnumlet"], midNumLet),
    (["midnum", "mn"], .ofText "2c 3b 37e 589 60c-60d 66c 7f8 2044 fe50 fe54 ff0c ff1b"),
    (["nu", "numeric"],
      digit.union (.ofText "600-605 66b 6dd 890-891 8e2 19da 110bd 110cd")),
    (["ex", "extendnumlet"], (inCategories ["pc"]).union (.single 0x202f)),
    (["ri", "regionalindicator"], regionalIndicator),
    (["wsegspace"], .ofText "20 1680 2000-2006 2008-200a 205f 3000")]
where
  wordFormat : CodeSet :=
    (inCategories ["cf"]).difference
      (.unions [prependedConcatenationMark, graphemeExtend, .ofText "200b 200d"])
  hebrewLetter : CodeSet :=
    (withValue scriptRuns ["hebr"]).intersection (inCategories ["lo"])
  wordKatakana : CodeSet :=
    (withValue scriptRuns ["kana"]).union (.ofText "3031-3035 309b-309c 30a0 30fc ff70")
  wordLetter : CodeSet :=
    ((alphabetic.difference
      (.unions [ideographic, wordKatakana, hebrewLetter, wordExtend, withValue scriptRuns ["hira"],
        complexContext])).union
      (.ofText "2c2-2c5 2d2-2d7 2de-2df 2e5-2eb 2ed 2ef-2ff 55a-55c 55e 58a 5f3 70f a708-a716
        a720-a721 a789-a78a ab5b"))
  complexContext : CodeSet :=
    .ofText "
      e01-e30 e32-e33 e40-e46 e81-e82 e84 e86-e8a e8c-ea3 ea5 ea7-eb0 eb2-eb3 ebd ec0-ec4 ec6
      edc-edf 1000-102a 103f 1050-1055 105a-105d 1061 1065-1066 106e-1070 1075-1081 108e 1780-17b3
      17d7 17dc 1950-196d 1970-1974 1980-19ab 19b0-19c9 1a20-1a54 1aa7 a9e0-a9e4 a9e6-a9ef
      a9fa-a9fe aa60-aa76 aa7a aa7e-aaaf aab1 aab5-aab6 aab9-aabd aac0 aac2 aadb-aadd 11700-1171a
      11740-11746"

/-- The values of the property that text is cut into sentences by. -/
def sentenceBreaks : List (List String × CodeSet) :=
  [(["cr"], .single 0xd), (["lf"], .single 0xa), (["se", "sep"], .ofText "85 2028-2029"),
    (["ex", "extend"], sentenceExtend),
    (["fo", "format"],
      (inCategories ["cf"]).difference (sentenceNumeric.union sentenceExtend)),
    (["sp"], .ofText "9 b-c 20 a0 1680 2000-200a 202f 205f 3000"),
    (["lo", "lower"], sentenceLower), (["up", "upper"], sentenceUpper),
    (["le", "oletter"],
      (alphabetic.union (.single 0x5f3)).difference
        (.unions [sentenceLower, sentenceUpper, sentenceExtend])),
    (["nu", "numeric"], sentenceNumeric), (["at", "aterm"], fullStops),
    (["sc", "scontinue"],
      .ofText "2c-2d 3a-3b 37e 55d 60c-60d 7f8 1802 1808 2013-2014 3001 fe10-fe11 fe13-fe14
        fe31-fe32 fe50-fe51 fe54-fe55 fe58 fe63 ff0c-ff0d ff1a-ff1b ff64"),
    (["st", "sterm"], sentenceTerminal.difference fullStops),
    (["cl", "close"],
      ((inCategories ["ps", "pe", "pi", "pf"]).union
        (quotationMark.union (.ofText "275b-2760 2e00-2e01 2e06-2e08 2e0b 1f676-1f678"))).difference
          (.ofText "ff02 ff07"))]
where
  sentenceExtend : CodeSet :=
    .unions [graphemeExtend, inCategories ["mc"], zeroWidthJoiner]
  sentenceLower : CodeSet :=
    lowercase.difference (graphemeExtend.union (.ofText "10d0-10fa 10fd-10ff"))
  sentenceUpper : CodeSet :=
    (uppercase.union (inCategories ["lt"])).difference (.ofText "1c90-1cba 1cbd-1cbf")
  sentenceNumeric : CodeSet :=
    digit.union (.ofText "600-605 66b-66c 6dd 890-891 8e2 19da 110bd 110cd")
  fullStops : CodeSet :=
    .ofText "2e 2024 fe52 ff0e"

end BuildConfig.Unicode
