import Homophone.RuleTable

/-! Tables that are filled step by step. -/

set_option autoImplicit false

namespace Homophone

structure NameTypeRules where
  languages : List Language := []
  /-- The primary rules of each language, at most once for each. -/
  primary : List (Language × RuleList) := []
  approx : Option RuleList := none
  exact : Option RuleList := none
  guessRules : List GuessRule := []
  /-- The prefixes, if they were set. -/
  prefixes : Option (List String) := none

namespace NameTypeRules

def primary? (entry : NameTypeRules) (language : Language) : Option RuleList :=
  entry.primary.lookup language

def final? (entry : NameTypeRules) : RuleType → Option RuleList
  | .approx => entry.approx
  | .exact => entry.exact

def declare (entry : NameTypeRules) (language : Language) : NameTypeRules :=
  if language ∈ entry.languages then entry
  else { entry with languages := entry.languages ++ [language] }

def putPrimary (language : Language) (rules : RuleList) :
    List (Language × RuleList) → List (Language × RuleList)
  | [] => [(language, rules)]
  | (other, old) :: rest =>
    if other = language then (language, rules) :: rest
    else (other, old) :: putPrimary language rules rest

def insertRules (entry : NameTypeRules) (language : Language) (rules : List Rule) : NameTypeRules :=
  let entry := entry.declare language
  { entry with primary := putPrimary language (.ofList rules) entry.primary }

def insertFinalRules (entry : NameTypeRules) (ruleType : RuleType) (rules : List Rule) :
    NameTypeRules :=
  match ruleType with
  | .approx => { entry with approx := some (.ofList rules) }
  | .exact => { entry with exact := some (.ofList rules) }

def pushGuessRule (entry : NameTypeRules) (rule : GuessRule) : NameTypeRules :=
  { entry with guessRules := entry.guessRules ++ [rule] }

def setPrefixes (entry : NameTypeRules) (prefixes : List String) : NameTypeRules :=
  { entry with prefixes := some prefixes }

@[simp] theorem mem_languages_declare {entry : NameTypeRules} {language other : Language} :
    other ∈ (entry.declare language).languages ↔ other ∈ entry.languages ∨ other = language := by
  rw [declare]
  split
  · next known =>
    constructor
    · exact .inl
    · rintro (member | rfl)
      · exact member
      · exact known
  · simp

@[simp] theorem primary_declare (entry : NameTypeRules) (language : Language) :
    (entry.declare language).primary = entry.primary := by
  rw [declare]
  split <;> rfl

@[simp] theorem final?_declare (entry : NameTypeRules) (language : Language)
    (ruleType : RuleType) : (entry.declare language).final? ruleType = entry.final? ruleType := by
  rw [declare]
  split <;> rfl

@[simp] theorem guessRules_declare (entry : NameTypeRules) (language : Language) :
    (entry.declare language).guessRules = entry.guessRules := by
  rw [declare]
  split <;> rfl

@[simp] theorem prefixes_declare (entry : NameTypeRules) (language : Language) :
    (entry.declare language).prefixes = entry.prefixes := by
  rw [declare]
  split <;> rfl

theorem lookup_putPrimary (language other : Language) (rules : RuleList)
    (primary : List (Language × RuleList)) :
    (putPrimary language rules primary).lookup other =
      if other = language then some rules else primary.lookup other := by
  induction primary with
  | nil =>
    by_cases same : other = language
    · simp [putPrimary, same]
    · simp [putPrimary, List.lookup_cons, same, beq_false_of_ne same]
  | cons first rest ih =>
    obtain ⟨listed, old⟩ := first
    rw [putPrimary]
    split
    · next replaced =>
      subst replaced
      by_cases same : other = listed
      · simp [same]
      · simp [List.lookup_cons, same, beq_false_of_ne same]
    · next kept =>
      rw [List.lookup_cons, List.lookup_cons, ih]
      by_cases here : other = listed
      · simp [here, kept]
      · simp [beq_false_of_ne here]

theorem primary?_insertRules (entry : NameTypeRules) (language other : Language)
    (rules : List Rule) :
    (entry.insertRules language rules).primary? other =
      if other = language then some (.ofList rules) else entry.primary? other := by
  rw [insertRules, primary?, lookup_putPrimary, primary_declare, primary?]

theorem final?_insertFinalRules (entry : NameTypeRules) (ruleType other : RuleType)
    (rules : List Rule) :
    (entry.insertFinalRules ruleType rules).final? other =
      if other = ruleType then some (.ofList rules) else entry.final? other := by
  cases ruleType <;> cases other <;> rfl

def ruleCount (entry : NameTypeRules) : Nat :=
  (entry.primary.map (·.2.size)).foldl (· + ·) 0 + (entry.approx.map (·.size)).getD 0 +
    (entry.exact.map (·.size)).getD 0

end NameTypeRules

structure RuleSet where
  generic : NameTypeRules := {}
  ashkenazi : NameTypeRules := {}
  sephardic : NameTypeRules := {}

namespace RuleSet

def empty : RuleSet := {}

def entry (set : RuleSet) : NameType → NameTypeRules
  | .generic => set.generic
  | .ashkenazi => set.ashkenazi
  | .sephardic => set.sephardic

def modify (set : RuleSet) (nameType : NameType) (change : NameTypeRules → NameTypeRules) :
    RuleSet :=
  match nameType with
  | .generic => { set with generic := change set.generic }
  | .ashkenazi => { set with ashkenazi := change set.ashkenazi }
  | .sephardic => { set with sephardic := change set.sephardic }

theorem entry_modify (set : RuleSet) (nameType other : NameType)
    (change : NameTypeRules → NameTypeRules) :
    (set.modify nameType change).entry other =
      if other = nameType then change (set.entry nameType) else set.entry other := by
  cases nameType <;> cases other <;> simp [modify, entry]

@[simp] theorem entry_modify_self (set : RuleSet) (nameType : NameType)
    (change : NameTypeRules → NameTypeRules) :
    (set.modify nameType change).entry nameType = change (set.entry nameType) := by
  rw [entry_modify, if_pos rfl]

def declareLanguage (set : RuleSet) (nameType : NameType) (language : Language) : RuleSet :=
  set.modify nameType (·.declare language)

/-- Set the primary rules of a language, which is declared if it was not yet. -/
def insertRules (set : RuleSet) (nameType : NameType) (language : Language) (rules : List Rule) :
    RuleSet :=
  set.modify nameType (·.insertRules language rules)

def insertFinalRules (set : RuleSet) (nameType : NameType) (ruleType : RuleType)
    (rules : List Rule) : RuleSet :=
  set.modify nameType (·.insertFinalRules ruleType rules)

def pushGuessRule (set : RuleSet) (nameType : NameType) (rule : GuessRule) : RuleSet :=
  set.modify nameType (·.pushGuessRule rule)

/-- Replace the prefixes, also the default ones. -/
def setPrefixes (set : RuleSet) (nameType : NameType) (prefixes : List String) : RuleSet :=
  set.modify nameType (·.setPrefixes prefixes)

def nameTypes (set : RuleSet) : List NameType :=
  NameType.all.filter fun nameType => !(set.entry nameType).languages.isEmpty

def ruleCount (set : RuleSet) (nameType : NameType) : Nat := (set.entry nameType).ruleCount

/-- The table that answers from the set. Primary rules are the same for every rule type. -/
def toTable (set : RuleSet) : RuleTable where
  languages nameType := (set.entry nameType).languages
  rules nameType _ language := (set.entry nameType).primary? language
  finalRules nameType ruleType := (set.entry nameType).final? ruleType
  guessRules nameType := (set.entry nameType).guessRules
  prefixes nameType := (set.entry nameType).prefixes.getD nameType.defaultPrefixes

end RuleSet

end Homophone
