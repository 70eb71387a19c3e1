import TrafficTrace.Pattern.Script
import TrafficTrace.Pattern.Trait

/-! Classes of characters for the places where a text may be parted: between characters as a reader
sees them, between words and between sentences. -/
namespace TrafficTrace.Pattern

open Text

def sentenceExtend : CharSet :=
  CharSet.unions [graphemeExtend, ofCategory "Mc", CharSet.ofLines ["200D"]]

def sentenceLower : CharSet :=
  (smallLetters.diff graphemeExtend).diff (CharSet.ofLines ["10D0-10FA 10FD-10FF"])

def sentenceUpper : CharSet :=
  (capitalLetters.union (ofCategory "Lt")).diff (CharSet.ofLines ["1C90-1CBA 1CBD-1CBF"])

def sentenceLetter : CharSet :=
  (wordLetters.diff (CharSet.unions [sentenceLower, sentenceUpper, sentenceExtend])).union
    (CharSet.ofLines ["5F3"])

def sentenceNumeric : CharSet :=
  (ofCategory "Nd").union
    (CharSet.ofLines ["600-605 66B-66C 6DD 890-891 8E2 19DA 110BD 110CD"])

def sentenceClose : CharSet :=
  (CharSet.unions [ofCategory "Ps", ofCategory "Pe", ofCategory "Pi", ofCategory "Pf"]).union
    (CharSet.ofLines ["22 27 275B-2760 2E00-2E01 2E06-2E08 2E0B 1F676-1F678"])

def sentenceFormat : CharSet :=
  (ofCategory "Cf").diff
    (CharSet.ofLines ["600-605 6DD 890-891 8E2 200C-200D 110BD 110CD E0020-E007F"])

def sentenceBlank : CharSet :=
  CharSet.ofLines ["9 B-C 20 A0 1680 2000-200A 202F 205F 3000"]

def sentenceEnd : CharSet :=
  sentenceTerminal.diff (CharSet.ofLines ["2E 2024 FE52 FF0E"])

def wordExtend : CharSet :=
  CharSet.unions [graphemeExtend, ofCategory "Mc", CharSet.ofLines ["1F3FB-1F3FF"]]

def wordFormat : CharSet :=
  (ofCategory "Cf").diff
    (CharSet.ofLines ["600-605 6DD 70F 890-891 8E2 200B-200D 110BD 110CD E0020-E007F"])

def wordNumeric : CharSet :=
  (ofCategory "Nd").union
    (CharSet.ofLines ["600-605 66B 6DD 890-891 8E2 19DA 110BD 110CD"])

def wordJoiner : CharSet :=
  (ofCategory "Pc").union (CharSet.ofLines ["202F"])

def wordHebrew : CharSet :=
  (ofScript "Hebr").inter (ofCategory "Lo")

def wordKatakana : CharSet :=
  (ofScript "Kana").union
    (CharSet.ofLines ["3031-3035 309B-309C 30A0 30FC FF70"])

def wordLetter : CharSet :=
  (wordLetters.diff (CharSet.unions ([ideographs, wordKatakana, wordExtend, wordHebrew] ++
    ["Thai", "Laoo", "Mymr", "Khmr", "Tale", "Talu", "Lana", "Tavt", "Ahom", "Hira"].map
      ofScript))).union
    (CharSet.ofLines [
      "2C2-2C5 2D2-2D7 2DE-2DF 2E5-2EB 2ED 2EF-2FF 55A-55C 55E 58A 5F3 70F A708-A716 A720-A721",
      "A789-A78A AB5B"])

def graphemeControl : CharSet :=
  ((CharSet.unions [ofCategory "Zl", ofCategory "Zp", ofCategory "Cc", ofCategory "Cf",
    defaultIgnorable.inter (ofCategory "Cn")]).diff prepended).diff
    (CharSet.ofLines ["A D 200C-200D E0020-E007F"])

def graphemeSpacing : CharSet :=
  (((ofCategory "Mc").diff graphemeExtend).diff
    (CharSet.ofLines [
      "102B-102C 1038 1062-1064 1067-106D 1083 1087-108C 108F 109A-109C 1A61 1A63-1A64 AA7B",
      "AA7D 11720-11721"])).union
    (CharSet.ofLines ["E33 EB3"])

def graphemePrepend : CharSet :=
  prepended.union
    (CharSet.ofLines ["D4E 111C2-111C3 113D1 1193F 11941 11A3A 11A84-11A89 11D46 11F02"])

/-- Korean syllables without a last consonant. -/
def openSyllables : CharSet :=
  ⟨(List.range 399).map fun k => (0xAC00 + 28 * k, 0xAC00 + 28 * k)⟩

/-- The class of characters for parting what a reader sees as one character. -/
def graphemeClass? (name : String) : Option CharSet :=
  match name with
  | "cr" => some (CharSet.ofLines ["D"])
  | "cn" | "control" => some graphemeControl
  | "ex" | "extend" => some (graphemeExtend.union (CharSet.ofLines ["1F3FB-1F3FF"]))
  | "l" => some (CharSet.ofLines ["1100-115F A960-A97C"])
  | "lf" => some (CharSet.ofLines ["A"])
  | "lv" => some openSyllables
  | "lvt" => some ((CharSet.ofLines ["AC00-D7A3"]).diff openSyllables)
  | "pp" | "prepend" => some graphemePrepend
  | "regionalindicator" | "ri" => some (CharSet.ofLines ["1F1E6-1F1FF"])
  | "sm" | "spacingmark" => some graphemeSpacing
  | "t" => some (CharSet.ofLines ["11A8-11FF D7CB-D7FB"])
  | "v" => some (CharSet.ofLines ["1160-11A7 D7B0-D7C6 16D63 16D67-16D6A"])
  | "zwj" => some (CharSet.ofLines ["200D"])
  | _ => none

/-- The class of characters for parting words. -/
def wordClass? (name : String) : Option CharSet :=
  match name with
  | "aletter" | "le" => some wordLetter
  | "cr" => some (CharSet.ofLines ["D"])
  | "doublequote" | "dq" => some (CharSet.ofLines ["22"])
  | "extend" => some wordExtend
  | "ex" | "extendnumlet" => some wordJoiner
  | "fo" | "format" => some wordFormat
  | "hebrewletter" | "hl" => some wordHebrew
  | "ka" | "katakana" => some wordKatakana
  | "lf" => some (CharSet.ofLines ["A"])
  | "midletter" | "ml" => some (CharSet.ofLines ["3A B7 387 55F 5F4 2027 FE13 FE55 FF1A"])
  | "midnum" | "mn" => some (
    CharSet.ofLines ["2C 3B 37E 589 60C-60D 66C 7F8 2044 FE50 FE54 FF0C FF1B"])
  | "mb" | "midnumlet" => some (CharSet.ofLines ["2E 2018-2019 2024 FE52 FF07 FF0E"])
  | "newline" | "nl" => some (CharSet.ofLines ["B-C 85 2028-2029"])
  | "nu" | "numeric" => some wordNumeric
  | "regionalindicator" | "ri" => some (CharSet.ofLines ["1F1E6-1F1FF"])
  | "singlequote" | "sq" => some (CharSet.ofLines ["27"])
  | "wsegspace" => some (CharSet.ofLines ["20 1680 2000-2006 2008-200A 205F 3000"])
  | "zwj" => some (CharSet.ofLines ["200D"])
  | _ => none

/-- The class of characters for parting sentences. -/
def sentenceClass? (name : String) : Option CharSet :=
  match name with
  | "at" | "aterm" => some (CharSet.ofLines ["2E 2024 FE52 FF0E"])
  | "cr" => some (CharSet.ofLines ["D"])
  | "cl" | "close" => some sentenceClose
  | "ex" | "extend" => some sentenceExtend
  | "fo" | "format" => some sentenceFormat
  | "lf" => some (CharSet.ofLines ["A"])
  | "lo" | "lower" => some sentenceLower
  | "nu" | "numeric" => some sentenceNumeric
  | "le" | "oletter" => some sentenceLetter
  | "sc" | "scontinue" => some (
    CharSet.ofLines [
      "2C-2D 3A-3B 37E 55D 60C-60D 7F8 1802 1808 2013-2014 3001 FE10-FE11 FE13-FE14 FE31-FE32",
      "FE50-FE51 FE54-FE55 FE58 FE63 FF0C-FF0D FF1A-FF1B FF64"])
  | "st" | "sterm" => some sentenceEnd
  | "se" | "sep" => some (CharSet.ofLines ["85 2028-2029"])
  | "sp" => some sentenceBlank
  | "up" | "upper" => some sentenceUpper
  | _ => none

end TrafficTrace.Pattern
