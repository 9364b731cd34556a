import Homophone.FileTree
import Homophone.Settings
import Homophone.Toml.Quoted
import Homophone.Toml.Reader

/-! Settings in TOML files.

Every setting may be missing and then has its default; entries that are no settings are passed over.
-/

set_option autoImplicit false

namespace Homophone

inductive ConfigurationError where
  | missing
  | unreadable (problem : ReadProblem)
  /-- The text is no TOML, or an entry does not fit its setting. -/
  | malformed
  | invalid (error : SettingsError)
  deriving DecidableEq, Repr

namespace Toml

def Value.isEmptyContainer (arrays : Bool) : Value → Bool
  | .table _ _ _ entries => entries.isEmpty
  | .array items => arrays && items.isEmpty
  | _ => false

/-- A choice by its name, which may also be the one key of a table that says nothing about it. -/
def Value.choice? {α : Type} (ofName? : String → Option α) (arrays : Bool) : Value → Option α
  | .string name => ofName? name
  | .table _ _ _ [(name, value)] => if value.isEmptyContainer arrays then ofName? name else none
  | _ => none

def Value.boolean? : Value → Option Bool
  | .boolean value => some value
  | _ => none

def Value.count? : Value → Option Nat
  | .integer value => if 0 ≤ value then some value.toNat else none
  | _ => none

def Value.string? : Value → Option String
  | .string text => some text
  | _ => none

def Entries.setting {α : Type} (entries : Entries) (key : String) (read? : Value → Option α)
    (default : α) : Option α :=
  match entries.lookup key with
  | some value => read? value
  | none => some default

end Toml

namespace Settings

/-- The settings among the entries of a document. With `arrays`, an empty array does for an empty
table. -/
def ofEntries? (arrays : Bool) (entries : Toml.Entries) : Option Settings := do
  let default : Settings := {}
  let nameType ← entries.setting "name_type" (·.choice? NameType.ofName? arrays) default.nameType
  let ruleType ← entries.setting "rule_type" (·.choice? RuleType.ofName? arrays) default.ruleType
  let concat ← entries.setting "concat" (·.boolean?) default.concat
  let maxPhonemes ← entries.setting "max_phonemes" (·.count?) default.maxPhonemes
  return { nameType, ruleType, concat, maxPhonemes }

def ofToml? (text : String) : Option Settings := do
  ofEntries? true (← Toml.Reader.read text.toList)

def toToml (settings : Settings) : String :=
  "name_type = \"" ++ settings.nameType.name ++ "\"\n" ++
    "rule_type = \"" ++ settings.ruleType.name ++ "\"\n" ++
    "concat = " ++ (if settings.concat then "true" else "false") ++ "\n" ++
    "max_phonemes = " ++ toString settings.maxPhonemes ++ "\n"

end Settings

def FileTree.readConfiguration {α : Type} (files : FileTree) (path : String)
    (ofToml? : String → Option α) : Except ConfigurationError α :=
  match files.read path with
  | .missing => .error .missing
  | .failed problem => .error (.unreadable problem)
  | .text text =>
    match ofToml? text with
    | some value => .ok value
    | none => .error .malformed

def Settings.load (files : FileTree) (path : String) : Except ConfigurationError Settings := do
  let settings ← files.readConfiguration path ofToml?
  settings.validate.mapError .invalid
  return settings

structure Configuration where
  rulesDirectory : Option String := none
  settings : Settings := {}
  deriving DecidableEq, Repr

namespace Configuration

def ofToml? (text : String) : Option Configuration := do
  let entries ← Toml.Reader.read text.toList
  let rulesDirectory ← entries.setting "rules_dir" (·.string?.map some) none
  return { rulesDirectory, settings := ← Settings.ofEntries? false entries }

def toToml (configuration : Configuration) : String :=
  let directory := match configuration.rulesDirectory with
    | some path => "rules_dir = " ++ String.ofList (Toml.quote path.toList) ++ "\n"
    | none => ""
  directory ++ configuration.settings.toToml

/-- A configuration file. A relative rules directory is meant from the directory of the file. -/
def load (files : FileTree) (path : String) : Except ConfigurationError Configuration := do
  let configuration ← files.readConfiguration path ofToml?
  configuration.settings.validate.mapError .invalid
  let rulesDirectory := match configuration.rulesDirectory, Path.parent? path with
    | some directory, some parent => some (Path.join parent directory)
    | directory, _ => directory
  return { configuration with rulesDirectory }

end Configuration

end Homophone
