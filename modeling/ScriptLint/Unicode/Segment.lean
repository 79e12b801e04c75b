import ScriptLint.Unicode.Binary
import ScriptLint.Unicode.Script

/-! Classes of characters that say where a text may be broken into characters as readers see them,
into words and into sentences, by version 16 of the Unicode standard. -/
namespace ScriptLint.Unicode

def script (code : String) : CodeSet :=
  ((scripts.find? fun s => s.code == code).map Script.chars).getD .empty

def tags : CodeSet := .ofRange 0xE0020 0xE007F

def joiner : CodeSet := .ofRange 0x200D 0x200D

/-- Syllables without a final consonant; every 28th one is. -/
def openSyllables : CodeSet := .ofText "AC00-D788/1C"

def extending : CodeSet := (graphemeExtend.union (stored "emojimodifier")).diff joiner

def graphemeBreak? (name : String) : Option CodeSet :=
  match name with
  | "cn" | "control" =>
    some ((CodeSet.unionAll [categories ["Zl", "Zp", "Cc", "Cf"],
      assigned.compl.inter defaultIgnorable]).diff
        (.unionAll [.ofText "A D 200C-200D", stored "prependedconcatenationmark", tags]))
  | "cr" => some (.single '\r')
  | "lf" => some (.single '\n')
  | "ex" | "extend" => some extending
  | "l" => some (.ofText "1100-115F A960-A97C")
  | "v" => some (.ofText "1160-11A7 D7B0-D7C6 16D63 16D67-16D6A")
  | "t" => some (.ofText "11A8-11FF D7CB-D7FB")
  | "lv" => some openSyllables
  | "lvt" => some ((CodeSet.ofRange 0xAC00 0xD7A3).diff openSyllables)
  | "pp" | "prepend" =>
    some (.ofText "600-605 6DD 70F 890-891 8E2 D4E 110BD 110CD 111C2-111C3 113D1 1193F 11941
      11A3A 11A84-11A89 11D46 11F02")
  | "ri" | "regionalindicator" => some (stored "regionalindicator")
  | "sm" | "spacingmark" =>
    some ((((category "Mc").diff graphemeExtend).diff (.ofText
      "102B-102C 1038 1062-1064 1067-106D 1083 1087-108C 108F 109A-109C 1A61 1A63-1A64 AA7B AA7D
      11720-11721")).union (.ofText "E33 EB3"))
  | "zwj" => some joiner
  | _ => none

def wordExtending : CodeSet := extending.union (category "Mc")

def katakana : CodeSet :=
  (script "Kana").union (.ofText "3031-3035 309B-309C 30A0 30FC FF70")

def hebrewLetters : CodeSet := (script "Hebr").inter (category "Lo")

def unseparated : CodeSet :=
  .unionAll (["Thai", "Laoo", "Mymr", "Khmr", "Talu", "Lana", "Tale", "Tavt", "Ahom"].map script)

def wordNumbers : CodeSet :=
  (CodeSet.unionAll [category "Nd", stored "prependedconcatenationmark",
    .ofText "66B 19DA"]).diff (.ofText "70F")

def wordBreak? (name : String) : Option CodeSet :=
  match name with
  | "cr" => some (.single '\r')
  | "lf" => some (.single '\n')
  | "nl" | "newline" => some (.ofText "B-C 85 2028-2029")
  | "dq" | "doublequote" => some (.single '\"')
  | "sq" | "singlequote" => some (.single '\'')
  | "ex" | "extendnumlet" => some ((category "Pc").union (.ofText "202F"))
  | "extend" => some wordExtending
  | "fo" | "format" =>
    some ((category "Cf").diff
      (.unionAll [.ofText "200B-200D", stored "prependedconcatenationmark", tags]))
  | "hl" | "hebrewletter" => some hebrewLetters
  | "ka" | "katakana" => some katakana
  | "le" | "aletter" =>
    some ((alphabetic.diff (.unionAll [stored "ideographic", katakana, script "Hira",
      wordExtending, hebrewLetters, unseparated])).union (.ofText
        "2C2-2C5 2D2-2D7 2DE-2DF 2E5-2EB 2ED 2EF-2FF 55A-55C 55E 58A 5F3 70F A708-A716 A720-A721
        A789-A78A AB5B"))
  | "mb" | "midnumlet" => some (.ofText "2E 2018-2019 2024 FE52 FF07 FF0E")
  | "ml" | "midletter" => some (.ofText "3A B7 387 55F 5F4 2027 FE13 FE55 FF1A")
  | "mn" | "midnum" =>
    some (.ofText "2C 3B 37E 589 60C-60D 66C 7F8 2044 FE50 FE54 FF0C FF1B")
  | "nu" | "numeric" => some wordNumbers
  | "ri" | "regionalindicator" => some (stored "regionalindicator")
  | "wsegspace" => some (.ofText "20 1680 2000-2006 2008-200A 205F 3000")
  | "zwj" => some joiner
  | _ => none

def sentenceLower : CodeSet := (lowercase.diff graphemeExtend).diff (.ofText "10D0-10FA 10FD-10FF")

def sentenceUpper : CodeSet :=
  (uppercase.union (category "Lt")).diff (.ofText "1C90-1CBA 1CBD-1CBF")

def sentenceExtending : CodeSet := graphemeExtend.union ((category "Mc").union joiner)

def fullStops : CodeSet := .ofText "2E 2024 FE52 FF0E"

def sentenceBreak? (name : String) : Option CodeSet :=
  match name with
  | "at" | "aterm" => some fullStops
  | "cl" | "close" =>
    some (((categories ["Ps", "Pe", "Pi", "Pf"]).union (CodeSet.unionAll [stored "quotationmark",
      .ofText "275B-2760 2E00-2E01 2E06-2E08 2E0B 1F676-1F678"])).diff (.ofText "FF02 FF07"))
  | "cr" => some (.single '\r')
  | "lf" => some (.single '\n')
  | "ex" | "extend" => some sentenceExtending
  | "fo" | "format" =>
    some (((category "Cf").diff (.unionAll [.ofText "200C-200D",
      stored "prependedconcatenationmark", tags])).union (.ofText "70F"))
  | "le" | "oletter" =>
    some ((alphabetic.union (.ofText "5F3")).diff
      (.unionAll [sentenceLower, sentenceUpper, sentenceExtending]))
  | "lo" | "lower" => some sentenceLower
  | "nu" | "numeric" => some (wordNumbers.union (.ofText "66C"))
  | "sc" | "scontinue" =>
    some (.ofText "2C-2D 3A-3B 37E 55D 60C-60D 7F8 1802 1808 2013-2014 3001 FE10-FE11 FE13-FE14
      FE31-FE32 FE50-FE51 FE54-FE55 FE58 FE63 FF0C-FF0D FF1A-FF1B FF64")
  | "se" | "sep" => some (.ofText "85 2028-2029")
  | "sp" => some ((stored "whitespace").diff (.ofText "A D 85 2028-2029"))
  | "st" | "sterm" => some ((stored "sentenceterminal").diff fullStops)
  | "up" | "upper" => some sentenceUpper
  | _ => none

end ScriptLint.Unicode
