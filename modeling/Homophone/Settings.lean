import Homophone.Language
import Homophone.NameType

/-! What an encoder is asked to do, and why that may be impossible. -/

set_option autoImplicit false

namespace Homophone

structure Settings where
  nameType : NameType := .generic
  ruleType : RuleType := .approx
  /-- Whether the words of a name make one set of alternatives. -/
  concat : Bool := true
  /-- The most alternatives kept at any step. -/
  maxPhonemes : Nat := 20
  deriving DecidableEq, Repr

inductive SettingsError where
  | invalidMaxPhonemes (count : Nat)
  | noLanguages (nameType : NameType)
  | missingRules (nameType : NameType) (ruleType : RuleType) (language : Language)
  | missingFinalRules (nameType : NameType) (ruleType : RuleType)
  | emptyLanguageSet
  deriving DecidableEq, Repr

namespace SettingsError

def message : SettingsError → String
  | invalidMaxPhonemes count =>
    "max_phonemes must be a positive integer, got " ++ toString count
  | noLanguages nameType => "no languages declared for name type " ++ nameType.name
  | missingRules nameType ruleType language =>
    "no " ++ ruleType.name ++ " rules for name type " ++ nameType.name ++ ", language " ++
      language.name
  | missingFinalRules nameType ruleType =>
    "no " ++ ruleType.name ++ " finalization rules for name type " ++ nameType.name
  | emptyLanguageSet => "explicit language set is empty"

end SettingsError

namespace Settings

def validate (settings : Settings) : Except SettingsError Unit :=
  if settings.maxPhonemes = 0 then .error (.invalidMaxPhonemes settings.maxPhonemes) else .ok ()

theorem maxPhonemes_pos {settings : Settings} (valid : settings.validate = .ok ()) :
    0 < settings.maxPhonemes := by
  rw [validate] at valid
  split at valid
  · cases valid
  · next positive => exact Nat.pos_of_ne_zero positive

end Settings

end Homophone
