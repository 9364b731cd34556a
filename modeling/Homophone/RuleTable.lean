import Homophone.Guess
import Homophone.NameType
import Homophone.RuleList
import Homophone.Unicode.WhiteSpace

/-! What an encoder looks up.

An encoder only reads from a table, so a table is given by its answers; `RuleSet` is the table that
rules are collected in.
-/

set_option autoImplicit false

namespace Homophone

structure RuleTable where
  /-- The declared languages, in the order in which their results are merged. -/
  languages : NameType → List Language
  rules : NameType → RuleType → Language → Option RuleList
  /-- The rules that are applied to the results of all languages. -/
  finalRules : NameType → RuleType → Option RuleList
  guessRules : NameType → List GuessRule
  prefixes : NameType → List String
  /-- The languages of a word that no guess rule settles. -/
  fallbackLanguages : NameType → LanguageSet := fun _ => .any
  /-- Whether a character separates the words of a name. -/
  isWordBoundary : Char → Bool := fun c => Unicode.isWhiteSpace c || c = '-'

namespace RuleTable

def guesser (table : RuleTable) (nameType : NameType) : Guesser where
  rules := table.guessRules nameType
  declared := table.languages nameType
  fallback := table.fallbackLanguages nameType

end RuleTable

end Homophone
