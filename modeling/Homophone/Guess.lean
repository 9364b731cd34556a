import Homophone.Rule
import Homophone.Unicode.LowerCase
import Homophone.Unicode.Uppercase

/-! Guessing the languages of a word from its spelling. -/

set_option autoImplicit false

namespace Homophone

/-- A test of a word that speaks for some languages, or against them. -/
structure GuessRule where
  pattern : String
  regex : Regex
  languages : LanguageSet
  /-- Whether a match speaks for the languages. -/
  accepts : Bool

namespace GuessRule

def new (pattern : String) (languages : LanguageSet) (accepts : Bool) :
    Except RuleError GuessRule :=
  if languages.isEmpty then .error (.noGuessLanguages pattern)
  else match Regex.ofPattern? pattern.toList with
    | some regex => .ok ⟨pattern, regex, languages, accepts⟩
    | none => .error (.invalidGuessPattern pattern)

def matchesWord (rule : GuessRule) (word : List Char) : Bool := rule.regex.occursIn word

end GuessRule

structure Guesser where
  rules : List GuessRule
  /-- The declared languages, in the order in which they are reported. -/
  declared : List Language
  /-- The answer when no language is left. -/
  fallback : LanguageSet

namespace Guesser

/-- The word in lower case. A word without upper-case letters is taken as it is. -/
def caseless (word : List Char) : List Char :=
  if word.any Unicode.isUppercase then Unicode.lowerCase word else word

def named (guesser : Guesser) (accepts : Bool) (text : List Char) : LanguageSet :=
  .ofList <| (guesser.rules.filter fun rule =>
    rule.accepts == accepts && rule.matchesWord text).flatMap (·.languages.members)

/-- The languages that some matching rule speaks for and none speaks against. Declared languages
come first, in their order, then the others in the order in which they are named. If there are none,
the fallback is the answer. -/
def guess (guesser : Guesser) (word : String) : LanguageSet :=
  let text := caseless word.toList
  let accepted := guesser.named true text
  let rejected := guesser.named false text
  let guessed := ((LanguageSet.ofList (guesser.declared.filter (accepted.contains ·))).insertAll
    accepted.members).eraseAll rejected.members
  if guessed.isEmpty then guesser.fallback else guessed

end Guesser

end Homophone
