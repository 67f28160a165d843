/-! # Character sets of connections

The character sets that a connection can ask for, each with its collations. A collation is named
for its character set and for the order it gives; the order by the bytes alone is `bin`.
-/

namespace BoundSql

/-- A character set and its collations. -/
structure Charset where
  name : String
  collations : List String
  deriving DecidableEq, Repr

namespace Charset

/-- A character set with the orders it has beside that of the bytes. -/
def ofOrders (name : String) (orders : List String) : Charset :=
  ⟨name, ("bin" :: orders).map fun order => name ++ "_" ++ order⟩

def unicodeOrders : List String :=
  "general_ci" :: ["croatian", "czech", "danish", "esperanto", "estonian", "german2", "hungarian",
    "icelandic", "latvian", "lithuanian", "persian", "polish", "roman", "romanian", "sinhala",
    "slovak", "slovenian", "spanish2", "spanish", "swedish", "turkish", "unicode_520", "unicode",
    "vietnamese"].map (· ++ "_ci")

def all : List Charset := [
  ofOrders "armscii8" ["general_ci"],
  ofOrders "ascii" ["general_ci"],
  ofOrders "big5" ["chinese_ci"],
  ⟨"binary", ["binary"]⟩,
  ofOrders "cp1250" ["croatian_ci", "czech_cs", "general_ci", "polish_ci"],
  ofOrders "cp1251" ["bulgarian_ci", "general_ci", "general_cs", "ukrainian_ci"],
  ofOrders "cp1256" ["general_ci"],
  ofOrders "cp1257" ["general_ci", "lithuanian_ci"],
  ofOrders "cp850" ["general_ci"],
  ofOrders "cp852" ["general_ci"],
  ofOrders "cp866" ["general_ci"],
  ofOrders "cp932" ["japanese_ci"],
  ofOrders "dec8" ["swedish_ci"],
  ofOrders "eucjpms" ["japanese_ci"],
  ofOrders "euckr" ["korean_ci"],
  ofOrders "gb18030" ["chinese_ci", "unicode_520_ci"],
  ofOrders "gb2312" ["chinese_ci"],
  ofOrders "gbk" ["chinese_ci"],
  ofOrders "geostd8" ["general_ci"],
  ofOrders "greek" ["general_ci"],
  ofOrders "hebrew" ["general_ci"],
  ofOrders "hp8" ["english_ci"],
  ofOrders "keybcs2" ["general_ci"],
  ofOrders "koi8r" ["general_ci"],
  ofOrders "koi8u" ["general_ci"],
  ofOrders "latin1" ["danish_ci", "general_ci", "general_cs", "german1_ci", "german2_ci",
    "spanish_ci", "swedish_ci"],
  ofOrders "latin2" ["croatian_ci", "czech_cs", "general_ci", "hungarian_ci"],
  ofOrders "latin5" ["turkish_ci"],
  ofOrders "latin7" ["estonian_cs", "general_ci", "general_cs"],
  ofOrders "macce" ["general_ci"],
  ofOrders "macroman" ["general_ci"],
  ofOrders "sjis" ["japanese_ci"],
  ofOrders "swe7" ["swedish_ci"],
  ofOrders "tis620" ["thai_ci"],
  ofOrders "ucs2" ("general_mysql500_ci" :: unicodeOrders),
  ofOrders "ujis" ["japanese_ci"],
  ofOrders "utf16" unicodeOrders,
  ofOrders "utf16le" ["general_ci"],
  ofOrders "utf32" unicodeOrders,
  ofOrders "utf8" ("general_mysql500_ci" :: "tolower_ci" :: unicodeOrders),
  ofOrders "utf8mb4" ("0900_ai_ci" :: unicodeOrders)]

def isKnown (name : String) : Bool :=
  all.any (·.name == name)

def isKnownCollation (name : String) : Bool :=
  all.any (·.collations.contains name)

end Charset

end BoundSql
