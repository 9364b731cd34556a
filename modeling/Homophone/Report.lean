import Homophone.RuleSet

/-! A summary of the rules in a set. -/

set_option autoImplicit false

namespace Homophone.RuleSet

def languageCounts (set : RuleSet) (nameType : NameType) : List (Language × Nat) :=
  (set.entry nameType).languages.map fun language =>
    (language, (((set.entry nameType).primary? language).map (·.size)).getD 0)

def reportFinal (set : RuleSet) (nameType : NameType) (ruleType : RuleType) : String :=
  let count := match (set.entry nameType).final? ruleType with
    | some rules => toString rules.size
    | none => "missing"
  "  final " ++ ruleType.name ++ ": " ++ count ++ "\n"

def reportPrefixes (set : RuleSet) (nameType : NameType) : String :=
  match set.toTable.prefixes nameType with
  | [] => "(none)"
  | prefixes => " ".intercalate prefixes

def reportOn (set : RuleSet) (nameType : NameType) : String :=
  "[" ++ nameType.name ++ "] " ++ toString (set.ruleCount nameType) ++ " rules\n" ++
    "  languages:\n" ++
    String.join ((set.languageCounts nameType).map fun (language, count) =>
      "    " ++ language.name ++ ": " ++ toString count ++ "\n") ++
    String.join (RuleType.all.map (set.reportFinal nameType)) ++
    "  guess rules: " ++ toString (set.entry nameType).guessRules.length ++ "\n" ++
    "  prefixes: " ++ set.reportPrefixes nameType ++ "\n"

/-- One block for every name type with a declared language. -/
def report (set : RuleSet) : String := String.join (set.nameTypes.map set.reportOn)

end Homophone.RuleSet
