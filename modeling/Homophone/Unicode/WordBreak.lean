import Homophone.Unicode.DerivedProperty
import Homophone.Unicode.Script

/-! The part that a character plays where a text is cut into words. -/

set_option autoImplicit false

namespace Homophone.Unicode.WordBreak

open Category Property

def ofScript (name : String) : Ranges := (Script.ranges? name).getD []

def extend : Ranges := .unions [graphemeExtend, spacingMark, emojiModifier]

def numberMark : Ranges := prependedConcatenationMark.diff (.ofText "70f")

def formatting : Ranges :=
  format.diff (.unions [extend, prependedConcatenationMark, .ofText "200b 200d"])

def numeric : Ranges := .unions [decimalNumber, numberMark, .ofText "66b"]

def katakana : Ranges :=
  (ofScript "kana").union (.ofText "3031-3035 309b-309c 30a0 30fc ff70") |>.diff extend

def hebrewLetter : Ranges := (ofScript "hebr").inter otherLetter

def unspaced : Ranges :=
  .ofText "e01-e3a e40-e4e e81-e82 e84 e86-e8a e8c-ea3 ea5 ea7-ebd ec0-ec4 ec6 ec8-ece edc-edf
    1000-103f 1050-108f 109a-109f 1780-17d3 17d7 17dc-17dd 1950-196d 1970-1974 1980-19ab 19b0-19c9
    19da 19de-19df 1a20-1a5e 1a60-1a7c 1aa0-1aad a9e0-a9ef a9fa-a9fe aa60-aac2 aadb-aadf
    11700-1171a 1171d-1172b 1173a-1173b 1173f-11746"

def furtherLetter : Ranges :=
  .ofText "b8 2c2-2c5 2d2-2d7 2de-2df 2e5-2eb 2ed 2ef-2ff 55a-55c 55e 58a 5f3 70f a708-a716
    a720-a721 a789-a78a ab5b"

def letter : Ranges :=
  (Property.alphabetic.union furtherLetter).diff
    (.unions [ideographic, katakana, unspaced, ofScript "hira", extend, hebrewLetter])

def blank : Ranges := spaceSeparator.diff (.ofText "a0 2007 202f")

def named : List (List String × Ranges) := [
  (["aletter", "le"], letter),
  (["cr"], .ofText "d"),
  (["doublequote", "dq"], .ofText "22"),
  (["extend"], extend),
  (["extendnumlet", "ex"], connectorPunctuation.union (.ofText "202f")),
  (["format", "fo"], formatting),
  (["hebrewletter", "hl"], hebrewLetter),
  (["katakana", "ka"], katakana),
  (["lf"], .ofText "a"),
  (["midletter", "ml"], .ofText "3a b7 387 55f 5f4 2027 fe13 fe55 ff1a"),
  (["midnum", "mn"],
    .ofText "2c 3b 37e 589 60c-60d 66c 7f8 2044 fe10 fe14 fe50 fe54 ff0c ff1b"),
  (["midnumlet", "mb"], .ofText "2e 2018-2019 2024 fe52 ff07 ff0e"),
  (["newline", "nl"], .ofText "b-c 85 2028-2029"),
  (["numeric", "nu"], numeric),
  (["regionalindicator", "ri"], regionalIndicator),
  (["singlequote", "sq"], .ofText "27"),
  (["wsegspace"], blank),
  (["zwj"], .ofText "200d")]

def ranges? (name : String) : Option Ranges := (named.find? (·.1.contains name)).map (·.2)

end Homophone.Unicode.WordBreak
