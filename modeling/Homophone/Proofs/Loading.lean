import Homophone.Proofs.Includes
import Homophone.Proofs.RuleText

/-! What loading puts into a rule set.

Every list of rules in a loaded set is what one file of the directory comes to, and every rule in it
stands in a line of a file that this one leads to. No step of loading takes that away from a set that
has it, whether the step succeeds or fails.
-/

set_option autoImplicit false

namespace Homophone

/-! ## Invariants -/

/-- A property of rule sets stays, whether or not the computation fails. -/
def Loading.Keeps (property : RuleSet → Prop) {α : Type} (computation : Loading α) : Prop :=
  ∀ set, property set → property (computation.run.run set).2

namespace Loading

variable {property : RuleSet → Prop} {α β : Type}

theorem keeps_pure (x : α) : Keeps property (pure x : Loading α) := fun _ held => held

theorem keeps_throw (error : LoadError) : Keeps property (throw error : Loading α) :=
  fun _ held => held

theorem keeps_modify {change : RuleSet → RuleSet}
    (kept : ∀ set, property set → property (change set)) :
    Keeps property (modify change : Loading PUnit) := kept

/-- After an error the rest does not run, and the set is what the first part left. -/
theorem run_bind (computation : Loading α) (next : α → Loading β) (set : RuleSet) :
    (computation >>= next).run.run set =
      match computation.run.run set with
      | (.ok x, left) => (next x).run.run left
      | (.error error, left) => (.error error, left) := by
  rw [ExceptT.run_bind, StateT.run_bind]
  obtain ⟨outcome, left⟩ := computation.run.run set
  cases outcome <;> rfl

theorem Keeps.bind {computation : Loading α} {next : α → Loading β}
    (first : Keeps property computation) (rest : ∀ x, Keeps property (next x)) :
    Keeps property (computation >>= next) := by
  intro set held
  have kept := first set held
  rw [run_bind]
  split
  · next x left run =>
    rw [run] at kept
    exact rest x left kept
  · next error left run =>
    rw [run] at kept
    exact kept

theorem keeps_lift_bind {outcome : Except LoadError α} {next : α → Loading β}
    (rest : ∀ x, outcome = .ok x → Keeps property (next x)) :
    Keeps property ((liftM outcome : Loading α) >>= next) := by
  intro set held
  cases outcome with
  | ok x => exact rest x rfl set held
  | error error => exact held

theorem keeps_forM {step : α → Loading PUnit} {xs : List α}
    (each : ∀ x ∈ xs, Keeps property (step x)) : Keeps property (xs.forM step) := by
  induction xs with
  | nil => exact keeps_pure PUnit.unit
  | cons x rest ih =>
    rw [List.forall_mem_cons] at each
    exact each.1.bind fun _ => ih each.2

theorem keeps_mapM {step : α → Loading β} (each : ∀ x, Keeps property (step x)) (xs : List α) :
    Keeps property (xs.mapM step) := by
  induction xs with
  | nil => exact keeps_pure []
  | cons x rest ih =>
    rw [List.mapM_cons]
    exact (each x).bind fun y => ih.bind fun ys => keeps_pure (y :: ys)

end Loading

namespace RuleDirectory

open RuleFile (Statement Stem)
open Loading (Keeps keeps_pure keeps_throw keeps_modify keeps_lift_bind keeps_forM keeps_mapM)

variable {directory : RuleDirectory}

/-! ## Rule lists -/

/-- The rule lists of one name type are what their files come to. Only declared languages have
one. -/
structure Supplies (directory : RuleDirectory) (nameType : NameType) (entry : NameTypeRules) :
    Prop where
  declared : ∀ language list, entry.primary? language = some list → language ∈ entry.languages
  primary : ∀ language list, entry.primary? language = some list →
    ∃ rules, directory.rules (primaryStem nameType language) = .ok rules ∧ list = .ofList rules
  final : ∀ ruleType list, entry.final? ruleType = some list →
    ∃ rules, directory.rules (finalStem nameType ruleType) = .ok rules ∧ list = .ofList rules

theorem supplies_empty (nameType : NameType) : directory.Supplies nameType {} where
  declared _ _ stored := by cases stored
  primary _ _ stored := by cases stored
  final ruleType _ stored := by cases ruleType <;> cases stored

theorem Supplies.insertRules {nameType : NameType} {entry : NameTypeRules}
    (supplies : directory.Supplies nameType entry) {language : Language} {rules : List Rule}
    (loaded : directory.rules (primaryStem nameType language) = .ok rules) :
    directory.Supplies nameType (entry.insertRules language rules) where
  declared other list stored := by
    rw [NameTypeRules.primary?_insertRules] at stored
    split at stored
    · next same => simp [NameTypeRules.insertRules, same]
    · simp [NameTypeRules.insertRules, supplies.declared other list stored]
  primary other list stored := by
    rw [NameTypeRules.primary?_insertRules] at stored
    split at stored
    · next same =>
      cases stored
      exact ⟨rules, same ▸ loaded, rfl⟩
    · exact supplies.primary other list stored
  final ruleType list stored := by
    have kept : (entry.insertRules language rules).final? ruleType = entry.final? ruleType :=
      entry.final?_declare language ruleType
    exact supplies.final ruleType list (kept ▸ stored)

theorem Supplies.insertFinalRules {nameType : NameType} {entry : NameTypeRules}
    (supplies : directory.Supplies nameType entry) {ruleType : RuleType} {rules : List Rule}
    (loaded : directory.rules (finalStem nameType ruleType) = .ok rules) :
    directory.Supplies nameType (entry.insertFinalRules ruleType rules) where
  declared := by cases ruleType <;> exact supplies.declared
  primary := by cases ruleType <;> exact supplies.primary
  final other list stored := by
    rw [NameTypeRules.final?_insertFinalRules] at stored
    split at stored
    · next same =>
      cases stored
      exact ⟨rules, same ▸ loaded, rfl⟩
    · exact supplies.final other list stored

theorem Supplies.pushGuessRule {nameType : NameType} {entry : NameTypeRules}
    (supplies : directory.Supplies nameType entry) (rule : GuessRule) :
    directory.Supplies nameType (entry.pushGuessRule rule) :=
  ⟨supplies.declared, supplies.primary, fun ruleType list stored =>
    supplies.final ruleType list (by cases ruleType <;> exact stored)⟩

theorem Supplies.setPrefixes {nameType : NameType} {entry : NameTypeRules}
    (supplies : directory.Supplies nameType entry) (prefixes : List String) :
    directory.Supplies nameType (entry.setPrefixes prefixes) :=
  ⟨supplies.declared, supplies.primary, fun ruleType list stored =>
    supplies.final ruleType list (by cases ruleType <;> exact stored)⟩

def SuppliesAll (directory : RuleDirectory) (set : RuleSet) : Prop :=
  ∀ nameType, directory.Supplies nameType (set.entry nameType)

theorem SuppliesAll.modify {set : RuleSet} (supplies : directory.SuppliesAll set)
    {nameType : NameType} {change : NameTypeRules → NameTypeRules}
    (kept : directory.Supplies nameType (change (set.entry nameType))) :
    directory.SuppliesAll (set.modify nameType change) := by
  intro other
  rw [RuleSet.entry_modify]
  split
  · next same => exact same ▸ kept
  · exact supplies other

/-! ## Loading -/

theorem keeps_insertPrimary (nameType : NameType) (language : Language) :
    Keeps directory.SuppliesAll (directory.insertPrimary nameType language) :=
  keeps_lift_bind fun _ loaded => keeps_modify fun _ supplies =>
    supplies.modify ((supplies nameType).insertRules loaded)

theorem keeps_insertFinal (nameType : NameType) (ruleType : RuleType) :
    Keeps directory.SuppliesAll (directory.insertFinal nameType ruleType) :=
  keeps_lift_bind fun _ loaded => keeps_modify fun _ supplies =>
    supplies.modify ((supplies nameType).insertFinalRules loaded)

theorem suppliesAll_pushGuessRules {nameType : NameType} (rules : List GuessRule) {set : RuleSet}
    (supplies : directory.SuppliesAll set) :
    directory.SuppliesAll (rules.foldl (·.pushGuessRule nameType ·) set) := by
  induction rules generalizing set with
  | nil => exact supplies
  | cons rule rest ih => exact ih (supplies.modify ((supplies nameType).pushGuessRule rule))

theorem keeps_insertGuessRules (nameType : NameType) :
    Keeps directory.SuppliesAll (directory.insertGuessRules nameType) :=
  keeps_lift_bind fun rules _ => keeps_modify fun _ => suppliesAll_pushGuessRules rules

theorem keeps_insertPrefixes (nameType : NameType) :
    Keeps directory.SuppliesAll (directory.insertPrefixes nameType) := by
  refine keeps_lift_bind fun text _ => ?_
  cases text with
  | none => exact keeps_pure PUnit.unit
  | some text =>
    exact keeps_modify fun _ supplies => supplies.modify ((supplies nameType).setPrefixes _)

theorem keeps_loadNameType (nameType : NameType) :
    Keeps directory.SuppliesAll (directory.loadNameType nameType) := by
  refine keeps_lift_bind fun text _ => ?_
  cases text with
  | none => exact keeps_pure false
  | some text =>
    refine (keeps_forM fun language _ => keeps_insertPrimary nameType language).bind fun _ => ?_
    refine (keeps_forM fun ruleType _ => keeps_insertFinal nameType ruleType).bind fun _ => ?_
    refine (keeps_insertGuessRules nameType).bind fun _ => ?_
    exact (keeps_insertPrefixes nameType).bind fun _ => keeps_pure true

theorem keeps_loadAll (directory : RuleDirectory) :
    Keeps directory.SuppliesAll directory.loadAll := by
  refine (keeps_mapM keeps_loadNameType _).bind fun found => ?_
  cases found.any id with
  | true => exact keeps_pure PUnit.unit
  | false => exact keeps_throw _

theorem suppliesAll_of_load {set : RuleSet} (loaded : directory.load = .ok set) :
    directory.SuppliesAll set := by
  -- Loading begins with the empty set, which has no lists.
  have empty : directory.SuppliesAll {} := fun nameType => by
    cases nameType <;> exact supplies_empty _
  have kept := keeps_loadAll directory {} empty
  rw [load] at loaded
  split at loaded
  · next last done =>
    cases loaded
    rw [done] at kept
    exact kept
  · cases loaded

/-! ## Lines -/

theorem Expansion.exists_of_mem {statements : List Statement} {rules : List Rule}
    (expansion : directory.Expansion statements rules) {rule : Rule} (member : rule ∈ rules) :
    .rule rule ∈ statements ∨
      ∃ stem, .splice stem ∈ statements ∧ ∃ file others, directory.Reaches stem.name file ∧
        directory.Parses file others ∧ .rule rule ∈ others := by
  -- By induction: a rule is written here, or comes out of one of the directives.
  induction expansion with
  | nil => cases member
  | rule _ ih =>
    rcases List.mem_cons.1 member with rfl | later
    · exact .inl List.mem_cons_self
    · rcases ih later with here | ⟨stem, named, found⟩
      · exact .inl (List.mem_cons_of_mem _ here)
      · exact .inr ⟨stem, List.mem_cons_of_mem _ named, found⟩
  | @splice stem _ _ _ _ parsed _ _ ihFirst ihRest =>
    rcases List.mem_append.1 member with inside | later
    · refine .inr ⟨stem, List.mem_cons_self, ?_⟩
      rcases ihFirst inside with here | ⟨next, named, file, others, path, found⟩
      · exact ⟨stem.name, _, .refl, parsed, here⟩
      · exact ⟨file, others, .head (.directive parsed named) path, found⟩
    · rcases ihRest later with here | ⟨next, named, found⟩
      · exact .inl (List.mem_cons_of_mem _ here)
      · exact .inr ⟨next, List.mem_cons_of_mem _ named, found⟩

/-- Every rule of a file stands in a line of a file that this one leads to. -/
theorem exists_line_of_rules {file : String} {rules : List Rule}
    (loaded : directory.rules file = .ok rules) {rule : Rule} (member : rule ∈ rules) :
    ∃ reached text line, directory.Reaches file reached ∧
      directory.files.read (directory.pathOf reached) = .text text ∧
      line ∈ RuleFile.Line.significant text.toList ∧
      RuleFile.readStatement line.text = .ok (.rule rule) := by
  obtain ⟨statements, parsed, expansion⟩ := expands_of_rules loaded
  have stands : ∃ reached others, directory.Reaches file reached ∧
      directory.Parses reached others ∧ .rule rule ∈ others := by
    rcases expansion.exists_of_mem member with here | ⟨stem, named, reached, others, path, found⟩
    · exact ⟨file, statements, .refl, parsed, here⟩
    · exact ⟨reached, others, .head (.directive parsed named) path, found⟩
  obtain ⟨reached, others, path, ⟨text, readable, lines⟩, member⟩ := stands
  obtain ⟨line, significant, read⟩ := RuleFile.exists_line_of_readLines lines member
  exact ⟨reached, text, line, path, readable, significant, read⟩

end RuleDirectory

end Homophone
