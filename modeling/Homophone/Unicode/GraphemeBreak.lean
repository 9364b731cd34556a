import Homophone.Unicode.DerivedProperty

/-! The part that a character plays where a text is cut into user-perceived characters. -/

set_option autoImplicit false

namespace Homophone.Unicode.GraphemeBreak

open Category Property

def openSyllable : Ranges :=
  (List.range 399).map fun index => (0xAC00 + 28 * index, 0xAC00 + 28 * index)

def closedSyllable : Ranges := Ranges.diff [(0xAC00, 0xD7A3)] openSyllable

def extend : Ranges := graphemeExtend.union emojiModifier

def prepended : Ranges :=
  prependedConcatenationMark.union
    (.ofText "d4e 111c2-111c3 113d1 1193f 11941 11a3a 11a84-11a89 11d46 11f02")

/-- Spacing marks that do not hold their base. -/
def looseMarks : Ranges :=
  .ofText "102b-102c 1038 1062-1064 1067-106d 1083 1087-108c 108f 109a-109c 1a61 1a63-1a64 aa7b aa7d
    11720-11721"

def spacing : Ranges :=
  (spacingMark.union (.ofText "e33 eb3")).diff (extend.union looseMarks)

def controls : Ranges :=
  (Ranges.unions [control, format, lineSeparator, paragraphSeparator,
    unassigned.inter defaultIgnorable]).diff
    (.unions [extend, prependedConcatenationMark, .ofText "a d 200d"])

def named : List (List String × Ranges) := [
  (["control", "cn"], controls),
  (["cr"], .ofText "d"),
  (["extend", "ex"], extend),
  (["l"], .ofText "1100-115f a960-a97c"),
  (["lf"], .ofText "a"),
  (["lv"], openSyllable),
  (["lvt"], closedSyllable),
  (["prepend", "pp"], prepended),
  (["regionalindicator", "ri"], regionalIndicator),
  (["spacingmark", "sm"], spacing),
  (["t"], .ofText "11a8-11ff d7cb-d7fb"),
  (["v"], .ofText "1160-11a7 d7b0-d7c6 16d63 16d67-16d6a"),
  (["zwj"], .ofText "200d")]

def ranges? (name : String) : Option Ranges := (named.find? (·.1.contains name)).map (·.2)

end Homophone.Unicode.GraphemeBreak
