import Homophone.FileTree
import Homophone.RuleFile.Statement
import Homophone.RuleSet

/-! Directories of rule files.

For every name type with the code `nt` a directory holds the declared languages in
`nt_languages.txt`, without which the name type is passed over, the primary rules of every language
`l` in `nt_rules_l.txt`, the final rules in `nt_approx_common.txt` and `nt_exact_common.txt`, and
perhaps guess rules in `nt_lang.txt` and prefixes in `nt_prefixes.txt`.
-/

set_option autoImplicit false

namespace Homophone

inductive LoadError where
  | unreadable (path : String) (problem : ReadProblem)
  | malformed (error : RuleFile.Error)
  /-- Files that include each other, in the order in which they are entered. -/
  | includeCycle (chain : List String)
  | missingFile (path : String)
  | noRuleFiles (directory : String)
  deriving DecidableEq, Repr

def LoadError.message : LoadError → String
  | unreadable path problem => "failed to read " ++ path ++ ": " ++ problem.message
  | malformed error => error.message
  | includeCycle chain => "include cycle: " ++ " -> ".intercalate chain
  | missingFile path => "missing rule file " ++ path
  | noRuleFiles directory => "no rule files found in " ++ directory

structure RuleDirectory where
  files : FileTree
  path : String

/-- A computation that fills a rule set. What was inserted before an error stays. -/
abbrev Loading := ExceptT LoadError (StateM RuleSet)

namespace RuleDirectory

open RuleFile (Statement Stem)

def fileName (stem : String) : String := stem ++ ".txt"

def pathOf (directory : RuleDirectory) (stem : String) : String :=
  Path.join directory.path (fileName stem)

def read? (directory : RuleDirectory) (stem : String) : Except LoadError (Option String) :=
  match directory.files.read (directory.pathOf stem) with
  | .text text => .ok (some text)
  | .missing => .ok none
  | .failed problem => .error (.unreadable (directory.pathOf stem) problem)

def statements (directory : RuleDirectory) (stem : String) :
    Except LoadError (List Statement) := do
  match ← directory.read? stem with
  | none => throw (.missingFile (directory.pathOf stem))
  | some text => (RuleFile.readStatements (fileName stem) text).mapError .malformed

/-! ## Includes -/

def spliceAll (expand : Stem → Except LoadError (List Rule)) :
    List Statement → Except LoadError (List Rule)
  | [] => return []
  | .rule rule :: rest => return rule :: (← spliceAll expand rest)
  | .splice stem :: rest => return (← expand stem) ++ (← spliceAll expand rest)

def entriesBeside (directory : RuleDirectory) (stems : List String) :
    List (Place × FileContent) :=
  directory.files.entries.filter fun entry =>
    stems.all fun stem => entry.1.getLast? ≠ some (fileName stem)

theorem isName_fileName (stem : Stem) : Path.IsName (fileName stem) := by
  have long : 4 < (fileName stem).toList.length := by
    have nonempty := List.length_pos_iff.2 (mt String.toList_eq_nil_iff.1 stem.name_ne_empty)
    simp [fileName] at nonempty ⊢
    omega
  constructor
  · simp [fileName, stem.slash_not_mem]
  all_goals
    intro same
    simp [same] at long

theorem statements_eq_ok_iff {directory : RuleDirectory} {stem : String}
    {statements : List Statement} :
    directory.statements stem = .ok statements ↔
      ∃ text, directory.files.read (directory.pathOf stem) = .text text ∧
        RuleFile.readStatements (fileName stem) text = .ok statements := by
  rw [RuleDirectory.statements, read?]
  cases directory.files.read (directory.pathOf stem) with
  | text text =>
    change (RuleFile.readStatements (fileName stem) text).mapError LoadError.malformed = _ ↔ _
    cases parsed : RuleFile.readStatements (fileName stem) text with
    | ok found =>
      change Except.ok found = Except.ok statements ↔ _
      simp [parsed]
    | error error =>
      change Except.error (LoadError.malformed error) = Except.ok statements ↔ _
      simp [parsed]
  | missing => simp [bind, Except.bind, throw, throwThe, MonadExceptOf.throw]
  | failed problem => simp [bind, Except.bind]

/-- With every included file that is entered, there is less besides. -/
theorem length_entriesBeside_lt {directory : RuleDirectory} {stems : List String} {stem : Stem}
    {statements : List Statement} (fresh : stem.name ∉ stems)
    (found : directory.statements stem = .ok statements) :
    (directory.entriesBeside (stems ++ [stem.name])).length <
      (directory.entriesBeside stems).length := by
  obtain ⟨text, readable, _⟩ := statements_eq_ok_iff.1 found
  obtain ⟨entry, stored, named⟩ :=
    FileTree.exists_entry_of_read (isName_fileName stem) readable
  have fewer : directory.entriesBeside (stems ++ [stem.name]) =
      (directory.entriesBeside stems).filter fun entry =>
        entry.1.getLast? ≠ some (fileName stem) := by
    simp [entriesBeside, List.filter_filter, Bool.and_comm]
  rw [fewer, List.length_filter_lt_length_iff_exists]
  refine ⟨entry, ?_, by simp [named]⟩
  simp only [entriesBeside, List.mem_filter, List.all_eq_true, decide_eq_true_eq, named]
  refine ⟨stored, fun other entered same => fresh ?_⟩
  have name : stem.name = other := by simpa [fileName] using same
  exact name ▸ entered

/-- The rules of an included file, with those of the files that it includes in their places.
`stack` holds the files that are being read, outermost first. -/
def expand (directory : RuleDirectory) (stack : List String) (stem : Stem) :
    Except LoadError (List Rule) :=
  if _ : stem.name ∈ stack then .error (.includeCycle (stack ++ [stem.name]))
  else match _ : directory.statements stem with
    | .error error => .error error
    | .ok statements =>
      spliceAll (fun included => directory.expand (stack ++ [stem.name]) included) statements
termination_by (directory.entriesBeside stack).length
decreasing_by exact length_entriesBeside_lt ‹_› ‹_›

def rules (directory : RuleDirectory) (stem : String) : Except LoadError (List Rule) := do
  spliceAll (directory.expand [stem]) (← directory.statements stem)

def guessRules (directory : RuleDirectory) (stem : String) : Except LoadError (List GuessRule) := do
  match ← directory.read? stem with
  | none => return []
  | some text => (RuleFile.readGuessRules (fileName stem) text).mapError .malformed

/-! ## Loading -/

def primaryStem (nameType : NameType) (language : Language) : String :=
  nameType.code ++ "_rules_" ++ language.name

def finalStem (nameType : NameType) (ruleType : RuleType) : String :=
  nameType.code ++ "_" ++ ruleType.name ++ "_common"

def insertPrimary (directory : RuleDirectory) (nameType : NameType) (language : Language) :
    Loading Unit := do
  let rules ← directory.rules (primaryStem nameType language)
  modify (·.insertRules nameType language rules)

def insertFinal (directory : RuleDirectory) (nameType : NameType) (ruleType : RuleType) :
    Loading Unit := do
  let rules ← directory.rules (finalStem nameType ruleType)
  modify (·.insertFinalRules nameType ruleType rules)

def insertGuessRules (directory : RuleDirectory) (nameType : NameType) : Loading Unit := do
  let rules ← directory.guessRules (nameType.code ++ "_lang")
  modify fun set => rules.foldl (·.pushGuessRule nameType ·) set

def insertPrefixes (directory : RuleDirectory) (nameType : NameType) : Loading Unit := do
  if let some text ← directory.read? (nameType.code ++ "_prefixes") then
    modify (·.setPrefixes nameType (RuleFile.readPrefixes text))

/-- Load one name type. The answer is false if the directory has no languages for it. -/
def loadNameType (directory : RuleDirectory) (nameType : NameType) : Loading Bool := do
  match ← directory.read? (nameType.code ++ "_languages") with
  | none => return false
  | some text =>
    (RuleFile.readLanguageList text).forM (directory.insertPrimary nameType)
    RuleType.all.forM (directory.insertFinal nameType)
    directory.insertGuessRules nameType
    directory.insertPrefixes nameType
    return true

/-- Load every name type. At least one must be there. -/
def loadAll (directory : RuleDirectory) : Loading Unit := do
  let found ← NameType.all.mapM directory.loadNameType
  if !found.any id then throw (.noRuleFiles directory.path)

def load (directory : RuleDirectory) : Except LoadError RuleSet :=
  match directory.loadAll.run.run {} with
  | (.ok _, set) => .ok set
  | (.error error, _) => .error error

end RuleDirectory

end Homophone
