import Homophone.Configuration
import Homophone.Encoder
import Homophone.RuleDirectory

/-! Encoders over a rule set that is loaded once. -/

set_option autoImplicit false

namespace Homophone

inductive EncoderError where
  | load (error : LoadError)
  | settings (error : SettingsError)
  | noRulesDirectory
  deriving DecidableEq, Repr

def EncoderError.message : EncoderError → String
  | load error => error.message
  | settings error => error.message
  | noRulesDirectory => "no rules directory configured"

/-- A loaded rule set, from which encoders for any settings are made. -/
structure RuleLibrary where
  rules : RuleSet

namespace RuleLibrary

def load (files : FileTree) (path : String) : Except LoadError RuleLibrary :=
  (RuleDirectory.load ⟨files, path⟩).map RuleLibrary.mk

def encoder (library : RuleLibrary) (settings : Settings) : Except SettingsError Encoder :=
  Encoder.new library.rules.toTable settings

def encode (library : RuleLibrary) (settings : Settings) (name : String) :
    Except SettingsError String :=
  (library.encoder settings).map (·.encode name)

def ofConfiguration (files : FileTree) (configuration : Configuration) :
    Except EncoderError (RuleLibrary × Encoder) := do
  match configuration.rulesDirectory with
  | none => throw .noRulesDirectory
  | some path =>
    let library ← (load files path).mapError .load
    let encoder ← (library.encoder configuration.settings).mapError .settings
    return (library, encoder)

end RuleLibrary

end Homophone
