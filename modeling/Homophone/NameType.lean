import Homophone.Text.Quoted
import Homophone.Text.Trim

/-! The two choices that select rules: the family of names and the kind of finalization. -/

set_option autoImplicit false

namespace Homophone

/-- A family of names, with guess rules, transcription rules and prefixes of its own. -/
inductive NameType where
  | generic
  | ashkenazi
  | sephardic
  deriving DecidableEq, Repr

/-- How finely the finalization keeps sounds apart: `approx` merges near homophones. -/
inductive RuleType where
  | approx
  | exact
  deriving DecidableEq, Repr

inductive KindError where
  | unknownNameType (text : String)
  | unknownRuleType (text : String)
  deriving DecidableEq, Repr

def KindError.message : KindError → String
  | .unknownNameType text => "unknown name type " ++ Text.quoted text
  | .unknownRuleType text => "unknown rule type " ++ Text.quoted text

def foldKind (text : String) : String :=
  String.ofList ((Text.trim text.toList).map Char.toLower)

namespace NameType

def all : List NameType := [generic, ashkenazi, sephardic]

def name : NameType → String
  | generic => "generic"
  | ashkenazi => "ashkenazi"
  | sephardic => "sephardic"

def code : NameType → String
  | generic => "gen"
  | ashkenazi => "ash"
  | sephardic => "sep"

def ofName? (text : String) : Option NameType := all.find? (·.name == text)

def parse (text : String) : Except KindError NameType :=
  let folded := foldKind text
  match all.find? fun nameType => nameType.name == folded || nameType.code == folded with
  | some nameType => .ok nameType
  | none => .error (.unknownNameType text)

/-- The prefixes of a name type whose rules bring none of their own. -/
def defaultPrefixes : NameType → List String
  | generic =>
    ["d'", "da", "dal", "de", "del", "dela", "de la", "della", "des", "di", "do", "dos", "du",
      "van", "von"]
  | ashkenazi => ["bar", "ben", "da", "de", "van", "von"]
  | sephardic =>
    ["al", "el", "da", "dal", "de", "del", "dela", "de la", "della", "des", "di", "do", "dos", "du",
      "van", "von"]

@[simp] theorem mem_all (nameType : NameType) : nameType ∈ all := by
  cases nameType <;> simp [all]

@[simp] theorem ofName?_name (nameType : NameType) : ofName? nameType.name = some nameType := by
  cases nameType <;> decide

end NameType

namespace RuleType

def all : List RuleType := [approx, exact]

def name : RuleType → String
  | approx => "approx"
  | exact => "exact"

def ofName? (text : String) : Option RuleType := all.find? (·.name == text)

def parse (text : String) : Except KindError RuleType :=
  match all.find? fun ruleType => ruleType.name == foldKind text with
  | some ruleType => .ok ruleType
  | none => .error (.unknownRuleType text)

@[simp] theorem mem_all (ruleType : RuleType) : ruleType ∈ all := by
  cases ruleType <;> simp [all]

@[simp] theorem ofName?_name (ruleType : RuleType) : ofName? ruleType.name = some ruleType := by
  cases ruleType <;> decide

end RuleType

end Homophone
