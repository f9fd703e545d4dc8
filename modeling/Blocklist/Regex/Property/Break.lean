import Blocklist.Regex.Property.Binary

/-! # Breaks of texts

Three properties tell where a text may be cut into visible characters, words and sentences. Their
values are sets of characters, given here with their names in the form in which names are compared.
-/

namespace Blocklist.Regex.Break

open Category BinaryProperty

def carriageReturn : CharSet := .listed ["d"]

def lineFeed : CharSet := .listed ["a"]

def joiner : CharSet := .listed ["200d"]

def regionalIndicator : CharSet := .listed ["1f1e6-1f1ff"]

/-- Characters that belong to the visible character before them. -/
def extend : CharSet := .any [graphemeExtend, emojiModifier]

/-- Characters that belong to the word before them. -/
def wordExtend : CharSet := .any [extend, spacingMark]

/-! ## Visible characters -/

/-- Signs that belong to the visible character after them. -/
def prepended : CharSet :=
  .listed
    ["600-605 6dd 70f 890-891 8e2 d4e 110bd 110cd 111c2-111c3 113d1 1193f 11941 11a3a 11a84-11a89",
     "11d46 11f02"]

def graphemeControl : CharSet :=
  .except
    (.any [lineSeparator, paragraphSeparator, control, format,
      .except defaultIgnorable assigned])
    (.any [carriageReturn, lineFeed, extend, prependedMark, .listed ["200c-200d"]])

/-- Marks with a width of their own that belong to the visible character before them. -/
def graphemeSpacing : CharSet :=
  .except (.any [spacingMark, .listed ["e33 eb3"]])
    (.any [extend,
      .listed
        ["102b-102c 1038 1062-1064 1067-106d 1083 1087-108c 108f 109a-109c 1a61 1a63-1a64 aa7b",
         "aa7d 11720-11721"]])

/-- Syllables of Hangul without a final consonant. -/
def openSyllable : CharSet := .listed ["ac00-d788/1c"]

/-- Values of the property Grapheme_Cluster_Break. -/
def grapheme : NamedSets :=
  [(["cn", "control"], graphemeControl),
   (["cr"], carriageReturn),
   (["ex", "extend"], extend),
   (["l"], .listed ["1100-115f a960-a97c"]),
   (["lf"], lineFeed),
   (["lv"], openSyllable),
   (["lvt"], .except (.listed ["ac00-d7a3"]) openSyllable),
   (["pp", "prepend"], prepended),
   (["ri", "regionalindicator"], regionalIndicator),
   (["sm", "spacingmark"], graphemeSpacing),
   (["t"], .listed ["11a8-11ff d7cb-d7fb"]),
   (["v"], .listed ["1160-11a7 d7b0-d7c6 16d63 16d67-16d6a"]),
   (["zwj"], joiner)]

/-! ## Words -/

def hebrewLetter : CharSet :=
  .listed ["5d0-5ea 5ef-5f2 fb1d fb1f-fb28 fb2a-fb36 fb38-fb3c fb3e fb40-fb41 fb43-fb44 fb46-fb4f"]

def katakana : CharSet :=
  .listed
    ["3031-3035 309b-309c 30a0-30fa 30fc-30ff 31f0-31ff 32d0-32fe 3300-3357 ff66-ff9d 1aff0-1aff3",
     "1aff5-1affb 1affd-1affe 1b000 1b120-1b122 1b155 1b164-1b167"]

/-- Letters of scripts in which words are not kept apart by spaces. -/
def unspaced : CharSet :=
  .listed
    ["e01-e30 e32-e33 e40-e46 e81-e82 e84 e86-e8a e8c-ea3 ea5 ea7-eb0 eb2-eb3 ebd ec0-ec4 ec6",
     "edc-edf 1000-102a 103f 1050-1055 105a-105d 1061 1065-1066 106e-1070 1075-1081 108e",
     "1780-17b3 17d7 17dc 1950-196d 1970-1974 1980-19ab 19b0-19c9 1a20-1a54 1aa7 3041-3096",
     "309d-309f a9e0-a9e4 a9e6-a9ef a9fa-a9fe aa60-aa76 aa7a aa7e-aaaf aab1 aab5-aab6 aab9-aabd",
     "aac0 aac2 aadb-aadd 11700-1171a 11740-11746 1b001-1b11f 1b132 1b150-1b152"]

/-- Signs that count as letters inside a word. -/
def wordSign : CharSet :=
  .listed
    ["2c2-2c5 2d2-2d7 2de-2df 2e5-2eb 2ed 2ef-2ff 55a-55c 55e 58a 5f3 70f a708-a716 a720-a721",
     "a789-a78a ab5b"]

def wordLetter : CharSet :=
  .any
    [.except alphabetic (.any [ideographic, katakana, hebrewLetter, unspaced, wordExtend]),
      wordSign]

/-- Signs that stand before a number and belong to it. -/
def numberSign : CharSet := .listed ["600-605 6dd 890-891 8e2 110bd 110cd"]

/-- Values of the property Word_Break. -/
def word : NamedSets :=
  [(["le", "aletter"], wordLetter),
   (["cr"], carriageReturn),
   (["dq", "doublequote"], .listed ["22"]),
   (["extend"], wordExtend),
   (["ex", "extendnumlet"], .listed ["5f 202f 203f-2040 2054 fe33-fe34 fe4d-fe4f ff3f"]),
   (["fo", "format"],
     .except format (.any [extend, numberSign, .listed ["70f 200b-200d"]])),
   (["hl", "hebrewletter"], hebrewLetter),
   (["ka", "katakana"], katakana),
   (["lf"], lineFeed),
   (["ml", "midletter"], .listed ["3a b7 387 55f 5f4 2027 fe13 fe55 ff1a"]),
   (["mn", "midnum"],
     .listed ["2c 3b 37e 589 60c-60d 66c 7f8 2044 fe10 fe14 fe50 fe54 ff0c ff1b"]),
   (["mb", "midnumlet"], .listed ["2e 2018-2019 2024 fe52 ff07 ff0e"]),
   (["nl", "newline"], .listed ["b-c 85 2028-2029"]),
   (["nu", "numeric"], .any [decimalNumber, numberSign, .listed ["66b"]]),
   (["ri", "regionalindicator"], regionalIndicator),
   (["sq", "singlequote"], .listed ["27"]),
   (["wsegspace"], .listed ["20 1680 2000-2006 2008-200a 205f 3000"]),
   (["zwj"], joiner)]

/-! ## Sentences -/

def sentenceExtend : CharSet := .any [graphemeExtend, spacingMark, joiner]

/-- Capital letters. Those of Georgian are not used at the start of sentences. -/
def sentenceUpper : CharSet :=
  .except (.any [uppercase, titlecaseLetter]) (.listed ["1c90-1cba 1cbd-1cbf"])

def sentenceLower : CharSet :=
  .except lowercase (.any [graphemeExtend, .listed ["10d0-10fa 10fd-10ff"]])

def sentenceLetter : CharSet :=
  .except (.any [alphabetic, .listed ["5f3"]])
    (.any [sentenceUpper, sentenceLower, sentenceExtend])

/-- Full stops, which also end abbreviations. -/
def fullStop : CharSet := .listed ["2e 2024 fe52 ff0e"]

/-- Values of the property Sentence_Break. -/
def sentence : NamedSets :=
  [(["at", "aterm"], fullStop),
   (["cl", "close"],
     .except
       (.any [openPunctuation, closePunctuation, initialPunctuation, finalPunctuation,
         .listed ["22 27 275b-2760 2e00-2e01 2e06-2e08 2e0b 1f676-1f678"]])
       (.any [fullStop, sentenceTerminal])),
   (["cr"], carriageReturn),
   (["ex", "extend"], sentenceExtend),
   (["fo", "format"], .except format (.any [sentenceExtend, numberSign])),
   (["le", "oletter"], sentenceLetter),
   (["lf"], lineFeed),
   (["lo", "lower"], sentenceLower),
   (["nu", "numeric"], .any [decimalNumber, numberSign, .listed ["66b-66c"]]),
   (["sc", "scontinue"],
     .listed
       ["2c-2d 3a 55d 60c-60d 7f8 1802 1808 2013-2014 3001 fe10-fe11 fe13 fe31-fe32 fe50-fe51 fe55",
        "fe58 fe63 ff0c-ff0d ff1a ff64"]),
   (["se", "sep"], .listed ["85 2028-2029"]),
   (["sp"], .listed ["9 b-c 20 a0 1680 2000-200a 202f 205f 3000"]),
   (["st", "sterm"], .except sentenceTerminal fullStop),
   (["up", "upper"], sentenceUpper)]

end Blocklist.Regex.Break
