import Homophone.Program.Failure

/-! The options that choose rules and settings. -/

set_option autoImplicit false

namespace Homophone.Program

structure Options where
  rulesDirectory : Option String := none
  /-- A configuration file, over whose settings the other options win. -/
  configuration : Option String := none
  nameType : Option NameType := none
  ruleType : Option RuleType := none
  noConcat : Bool := false
  maxPhonemes : Option Nat := none
  deriving DecidableEq, Repr

namespace Options

def override (options : Options) (configuration : Configuration) : Configuration where
  rulesDirectory := options.rulesDirectory <|> configuration.rulesDirectory
  settings :=
    { nameType := options.nameType.getD configuration.settings.nameType
      ruleType := options.ruleType.getD configuration.settings.ruleType
      concat := configuration.settings.concat && !options.noConcat
      maxPhonemes := options.maxPhonemes.getD configuration.settings.maxPhonemes }

/-- The configuration that the options ask for. A file is checked before they are put over it. -/
def resolve (options : Options) (files : FileTree) : Except Failure Configuration := do
  let base ← match options.configuration with
    | some path => (Configuration.load files path).mapError (.ofConfigurationError path)
    | none => pure {}
  let configuration := options.override base
  configuration.settings.validate.mapError fun error => ⟨error.message, [], false⟩
  return configuration

def build (options : Options) (files : FileTree) : Except Failure (RuleLibrary × Encoder) := do
  let configuration ← options.resolve files
  match configuration.rulesDirectory with
  | none =>
    throw ⟨"no rules directory: pass --rules-dir, set BMPM_RULES_DIR or rules_dir in --config", [],
      false⟩
  | some path =>
    let library ← (RuleLibrary.load files path).mapError
      (.ofLoadError ("failed to load rules from " ++ path))
    let encoder ← (library.encoder configuration.settings).mapError
      (.ofSettingsError ("rules in " ++ path ++ " cannot serve this configuration"))
    return (library, encoder)

end Options

end Homophone.Program
