import Homophone.Unicode.DerivedProperty

/-! The part that a character plays where a text is cut into sentences. -/

set_option autoImplicit false

namespace Homophone.Unicode.SentenceBreak

open Category Property

def extend : Ranges := .unions [graphemeExtend, spacingMark, joinControl]

def numberMark : Ranges := prependedConcatenationMark.diff (.ofText "70f")

def formatting : Ranges :=
  format.diff (extend.union prependedConcatenationMark)

def numeric : Ranges := .unions [decimalNumber, numberMark, .ofText "66b-66c"]

def separator : Ranges := .ofText "85 2028-2029"

def blank : Ranges := whiteSpace.diff (separator.union (.ofText "a d"))

/-- Lower-case letters, without the Georgian ones that have no case in running text. -/
def lower : Ranges :=
  Property.lowercase.diff (graphemeExtend.union (.ofText "10d0-10fa 10fd-10ff"))

/-- Upper-case and title-case letters, without the Georgian ones that do not begin sentences. -/
def upper : Ranges :=
  (Property.uppercase.diff (.ofText "1c90-1cba 1cbd-1cbf")).union titlecaseLetter

def letter : Ranges :=
  (Property.alphabetic.union (.ofText "5f3 70f")).diff (.unions [lower, upper, extend])

def ambiguousEnd : Ranges := .ofText "2e 2024 fe52 ff0e"

def sentenceEnd : Ranges := sentenceTerminal.diff ambiguousEnd

def quotation : Ranges := .ofText "22 27 275b-2760 2e00-2e01 2e06-2e08 2e0b 1f676-1f678"

def closing : Ranges :=
  (Ranges.unions [openPunctuation, closePunctuation, initialPunctuation, finalPunctuation,
    quotation]).diff sentenceEnd

def named : List (List String × Ranges) := [
  (["aterm", "at"], ambiguousEnd),
  (["close", "cl"], closing),
  (["cr"], .ofText "d"),
  (["extend", "ex"], extend),
  (["format", "fo"], formatting),
  (["lf"], .ofText "a"),
  (["lower", "lo"], lower),
  (["numeric", "nu"], numeric),
  (["oletter", "le"], letter),
  (["scontinue", "sc"],
    .ofText "2c-2d 3a-3b 37e 55d 60c-60d 7f8 1802 1808 2013-2014 3001 fe10-fe11 fe13-fe14 fe31-fe32
      fe50-fe51 fe54-fe55 fe58 fe63 ff0c-ff0d ff1a-ff1b ff64"),
  (["sep", "se"], separator),
  (["sp"], blank),
  (["sterm", "st"], sentenceEnd),
  (["upper", "up"], upper)]

def ranges? (name : String) : Option Ranges := (named.find? (·.1.contains name)).map (·.2)

end Homophone.Unicode.SentenceBreak
