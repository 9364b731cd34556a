import Homophone.Language

/-! The alternatives that a rule writes. -/

set_option autoImplicit false

namespace Homophone

structure Phoneme where
  text : String
  /-- The languages that the alternative is restricted to, or `none` for all. -/
  languages : Option LanguageSet
  deriving DecidableEq

namespace Phoneme

def plain (text : String) : Phoneme := ⟨text, none⟩

def restricted (text : String) (languages : LanguageSet) : Phoneme := ⟨text, some languages⟩

/-- Whether the alternative may be used for `language`. Without a language, and for the fallback
language, every alternative may. -/
def appliesTo (phoneme : Phoneme) (language : Option Language) : Bool :=
  match language, phoneme.languages with
  | some language, some allowed => language = Language.any || allowed.contains language
  | _, _ => true

def render (phoneme : Phoneme) : String :=
  match phoneme.languages with
  | some languages => phoneme.text ++ "[" ++ languages.render ++ "]"
  | none => phoneme.text

end Phoneme

end Homophone
