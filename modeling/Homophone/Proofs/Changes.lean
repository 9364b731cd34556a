import Homophone.Proofs.WordEncoding
import Homophone.Report

/-! What a rule set holds after many changes.

A name type has the languages that were mentioned, in the order of their first mention, and under each
key what was put there last. Changes of one name type are nothing to another. The languages and the
rule lists are kept apart, but in step: so all rules are counted if they are counted by language.
-/

set_option autoImplicit false

namespace Homophone

/-- What can be told a rule set about a name type. -/
inductive Change where
  | declare (language : Language)
  | putRules (language : Language) (rules : List Rule)
  | putFinalRules (ruleType : RuleType) (rules : List Rule)
  | pushGuessRule (rule : GuessRule)
  | setPrefixes (prefixes : List String)

namespace Change

def apply (entry : NameTypeRules) : Change → NameTypeRules
  | declare language => entry.declare language
  | putRules language rules => entry.insertRules language rules
  | putFinalRules ruleType rules => entry.insertFinalRules ruleType rules
  | pushGuessRule rule => entry.pushGuessRule rule
  | setPrefixes prefixes => entry.setPrefixes prefixes

def language? : Change → Option Language
  | declare language => some language
  | putRules language _ => some language
  | _ => none

def rulesFor? (language : Language) : Change → Option RuleList
  | putRules other rules => if other = language then some (.ofList rules) else none
  | _ => none

def finalRulesFor? (ruleType : RuleType) : Change → Option RuleList
  | putFinalRules other rules => if other = ruleType then some (.ofList rules) else none
  | _ => none

def guessRule? : Change → Option GuessRule
  | pushGuessRule rule => some rule
  | _ => none

def prefixes? : Change → Option (List String)
  | setPrefixes prefixes => some prefixes
  | _ => none

end Change

namespace RuleSet

def change (set : RuleSet) (nameType : NameType) : Change → RuleSet
  | .declare language => set.declareLanguage nameType language
  | .putRules language rules => set.insertRules nameType language rules
  | .putFinalRules ruleType rules => set.insertFinalRules nameType ruleType rules
  | .pushGuessRule rule => set.pushGuessRule nameType rule
  | .setPrefixes prefixes => set.setPrefixes nameType prefixes

def changeAll (set : RuleSet) (changes : List (NameType × Change)) : RuleSet :=
  changes.foldl (fun set (nameType, change) => set.change nameType change) set

end RuleSet

/-! ## One name type -/

namespace NameTypeRules

def applyAll (entry : NameTypeRules) (changes : List Change) : NameTypeRules :=
  changes.foldl Change.apply entry

theorem applyAll_append (entry : NameTypeRules) (first rest : List Change) :
    entry.applyAll (first ++ rest) = (entry.applyAll first).applyAll rest :=
  List.foldl_append

/-! ### Lookups -/

/-- What every change either replaces or leaves alone is what was put there last. -/
theorem last_applyAll {α : Type} (lookup : NameTypeRules → Option α) (put? : Change → Option α)
    (step : ∀ entry change, lookup (Change.apply entry change) = (put? change).or (lookup entry))
    (entry : NameTypeRules) (changes : List Change) :
    lookup (entry.applyAll changes) = (changes.filterMap put?).getLast?.or (lookup entry) := by
  induction changes generalizing entry with
  | nil => rfl
  | cons change rest ih =>
    change lookup ((change.apply entry).applyAll rest) = _
    rw [ih, step, List.filterMap_cons]
    cases put? change with
    | none => rfl
    | some x =>
      rw [List.getLast?_cons]
      cases (rest.filterMap put?).getLast? <;> rfl

theorem primary?_apply (language : Language) (entry : NameTypeRules) (change : Change) :
    (change.apply entry).primary? language =
      (change.rulesFor? language).or (entry.primary? language) := by
  cases change with
  | declare other => exact congrArg (List.lookup language) (entry.primary_declare other)
  | putRules other rules =>
    rw [Change.apply, primary?_insertRules, Change.rulesFor?]
    by_cases same : language = other
    · simp [same]
    · simp [same, Ne.symm same]
  | putFinalRules ruleType rules => cases ruleType <;> rfl
  | pushGuessRule rule => rfl
  | setPrefixes prefixes => rfl

theorem final?_apply (ruleType : RuleType) (entry : NameTypeRules) (change : Change) :
    (change.apply entry).final? ruleType =
      (change.finalRulesFor? ruleType).or (entry.final? ruleType) := by
  cases change with
  | declare language => exact entry.final?_declare language ruleType
  | putRules language rules => exact entry.final?_declare language ruleType
  | putFinalRules other rules =>
    rw [Change.apply, final?_insertFinalRules, Change.finalRulesFor?]
    by_cases same : ruleType = other
    · simp [same]
    · simp [same, Ne.symm same]
  | pushGuessRule rule => cases ruleType <;> rfl
  | setPrefixes prefixes => cases ruleType <;> rfl

theorem prefixes_apply (entry : NameTypeRules) (change : Change) :
    (change.apply entry).prefixes = change.prefixes?.or entry.prefixes := by
  cases change with
  | declare language => exact entry.prefixes_declare language
  | putRules language rules => exact entry.prefixes_declare language
  | putFinalRules ruleType rules => cases ruleType <;> rfl
  | pushGuessRule rule => rfl
  | setPrefixes prefixes => rfl

section

variable (entry : NameTypeRules) (changes : List Change)

theorem primary?_applyAll (language : Language) :
    (entry.applyAll changes).primary? language =
      (changes.filterMap (Change.rulesFor? language)).getLast?.or (entry.primary? language) :=
  last_applyAll (·.primary? language) _ (primary?_apply language) entry changes

theorem final?_applyAll (ruleType : RuleType) :
    (entry.applyAll changes).final? ruleType =
      (changes.filterMap (Change.finalRulesFor? ruleType)).getLast?.or (entry.final? ruleType) :=
  last_applyAll (·.final? ruleType) _ (final?_apply ruleType) entry changes

theorem prefixes_applyAll :
    (entry.applyAll changes).prefixes =
      (changes.filterMap Change.prefixes?).getLast?.or entry.prefixes :=
  last_applyAll (·.prefixes) _ prefixes_apply entry changes

end

theorem guessRules_apply (entry : NameTypeRules) (change : Change) :
    (change.apply entry).guessRules = entry.guessRules ++ change.guessRule?.toList := by
  have declared (language : Language) :
      (entry.declare language).guessRules = entry.guessRules ++ [] := by
    rw [guessRules_declare, List.append_nil]
  cases change with
  | declare language => exact declared language
  | putRules language rules => exact declared language
  | putFinalRules ruleType rules => cases ruleType <;> exact (List.append_nil _).symm
  | pushGuessRule rule => rfl
  | setPrefixes prefixes => exact (List.append_nil _).symm

theorem guessRules_applyAll (entry : NameTypeRules) (changes : List Change) :
    (entry.applyAll changes).guessRules =
      entry.guessRules ++ changes.filterMap Change.guessRule? := by
  induction changes generalizing entry with
  | nil => exact (List.append_nil _).symm
  | cons change rest ih =>
    change ((change.apply entry).applyAll rest).guessRules = _
    rw [ih, guessRules_apply, List.append_assoc, List.filterMap_cons]
    cases change.guessRule? <;> rfl

/-! ### Languages -/

/-- Languages that are declared one after the other, behind those that are `known`. -/
def declareAll (known languages : List Language) : List Language :=
  languages.foldl (fun known language =>
    if language ∈ known then known else known ++ [language]) known

theorem declareAll_append (known first second : List Language) :
    declareAll known (first ++ second) = declareAll (declareAll known first) second :=
  List.foldl_append

theorem declareAll_of_subset {known languages : List Language} (all : languages ⊆ known) :
    declareAll known languages = known := by
  induction languages with
  | nil => rfl
  | cons first rest ih =>
    obtain ⟨here, later⟩ := List.cons_subset.1 all
    change declareAll (if first ∈ known then known else known ++ [first]) rest = known
    rw [if_pos here, ih later]

theorem mem_declareAll {known languages : List Language} {language : Language} :
    language ∈ declareAll known languages ↔ language ∈ known ∨ language ∈ languages := by
  induction languages generalizing known with
  | nil => simp [declareAll]
  | cons first rest ih =>
    change language ∈ declareAll (if first ∈ known then known else known ++ [first]) rest ↔ _
    rw [ih, List.mem_cons]
    split
    · next here =>
      constructor
      · exact Or.imp_right .inr
      · rintro (old | rfl | later)
        · exact .inl old
        · exact .inl here
        · exact .inr later
    · simp [or_assoc]

/-- Languages stand in the order of their first mention. -/
theorem declareAll_eraseDups (mentioned languages : List Language) :
    declareAll mentioned.eraseDups languages = (mentioned ++ languages).eraseDups := by
  induction languages generalizing mentioned with
  | nil => rw [List.append_nil]; rfl
  | cons first rest ih =>
    have step : declareAll mentioned.eraseDups [first] = (mentioned ++ [first]).eraseDups := by
      change (if first ∈ mentioned.eraseDups then _ else _) = _
      split
      · next old =>
        rw [List.mem_eraseDups] at old
        rw [eraseDups_append_of_subset (by simpa using old)]
      · next fresh =>
        rw [List.mem_eraseDups] at fresh
        have left : [first].removeAll mentioned = [first] := by simp [List.removeAll, fresh]
        rw [List.eraseDups_append, left]
        rfl
    rw [← List.singleton_append, declareAll_append, step, ih, List.append_assoc]

theorem languages_declare (entry : NameTypeRules) (language : Language) :
    (entry.declare language).languages = declareAll entry.languages [language] := by
  rw [declare]
  change _ = if language ∈ entry.languages then entry.languages else entry.languages ++ [language]
  split <;> rfl

theorem languages_apply (entry : NameTypeRules) (change : Change) :
    (change.apply entry).languages = declareAll entry.languages change.language?.toList := by
  cases change with
  | declare language => exact entry.languages_declare language
  | putRules language rules => exact entry.languages_declare language
  | putFinalRules ruleType rules => cases ruleType <;> rfl
  | pushGuessRule rule => rfl
  | setPrefixes prefixes => rfl

theorem languages_applyAll (entry : NameTypeRules) (changes : List Change) :
    (entry.applyAll changes).languages =
      declareAll entry.languages (changes.filterMap Change.language?) := by
  induction changes generalizing entry with
  | nil => rfl
  | cons change rest ih =>
    change ((change.apply entry).applyAll rest).languages = _
    rw [ih, languages_apply, ← declareAll_append, List.filterMap_cons]
    cases change.language? <;> rfl

/-! ### Languages and rule lists in step -/

/-- The rule lists stand under different languages, all of them declared. -/
structure InStep (entry : NameTypeRules) : Prop where
  languages : entry.languages.Nodup
  keys : (entry.primary.map Prod.fst).Nodup
  declared : entry.primary.map Prod.fst ⊆ entry.languages

theorem keys_putPrimary (language : Language) (rules : RuleList)
    (primary : List (Language × RuleList)) :
    (putPrimary language rules primary).map Prod.fst =
      if language ∈ primary.map Prod.fst then primary.map Prod.fst
      else primary.map Prod.fst ++ [language] := by
  induction primary with
  | nil => simp [putPrimary]
  | cons first rest ih =>
    obtain ⟨other, old⟩ := first
    rw [putPrimary]
    split
    · next same => simp [same]
    · next different =>
      rw [List.map_cons, ih]
      split <;> simp_all [eq_comm]

namespace InStep

theorem empty : InStep {} := ⟨List.nodup_nil, List.nodup_nil, List.nil_subset _⟩

variable {entry : NameTypeRules}

theorem declare (inStep : entry.InStep) (language : Language) : (entry.declare language).InStep where
  languages := by
    rw [languages_declare, ← eraseDups_of_nodup inStep.languages, declareAll_eraseDups]
    exact nodup_eraseDups _
  keys := by
    rw [primary_declare]
    exact inStep.keys
  declared := by
    rw [primary_declare]
    exact fun other key => mem_languages_declare.2 (.inl (inStep.declared key))

theorem insertRules (inStep : entry.InStep) (language : Language) (rules : List Rule) :
    (entry.insertRules language rules).InStep where
  languages := (inStep.declare language).languages
  keys := by
    rw [NameTypeRules.insertRules, keys_putPrimary]
    split
    · exact (inStep.declare language).keys
    · next fresh =>
      exact List.nodup_append.2 ⟨(inStep.declare language).keys, by simp, fun key old other new =>
        fun same => fresh ((same.trans (List.mem_singleton.1 new)) ▸ old)⟩
  declared := by
    have known := (inStep.declare language).declared
    rw [NameTypeRules.insertRules, keys_putPrimary]
    split
    · exact known
    · exact List.append_subset.2 ⟨known,
        fun other new => mem_languages_declare.2 (.inr (List.mem_singleton.1 new))⟩

theorem apply (inStep : entry.InStep) (change : Change) : (change.apply entry).InStep := by
  cases change with
  | declare language => exact inStep.declare language
  | putRules language rules => exact inStep.insertRules language rules
  | putFinalRules ruleType rules =>
    cases ruleType <;> exact ⟨inStep.languages, inStep.keys, inStep.declared⟩
  | pushGuessRule rule => exact ⟨inStep.languages, inStep.keys, inStep.declared⟩
  | setPrefixes prefixes => exact ⟨inStep.languages, inStep.keys, inStep.declared⟩

theorem applyAll (inStep : entry.InStep) (changes : List Change) :
    (entry.applyAll changes).InStep := by
  induction changes generalizing entry with
  | nil => exact inStep
  | cons change rest ih => exact ih (inStep.apply change)

theorem mem_languages_of_primary? (inStep : entry.InStep) {language : Language} {list : RuleList}
    (stored : entry.primary? language = some list) : language ∈ entry.languages := by
  obtain ⟨before, after, parts, _⟩ := List.lookup_eq_some_iff.1 stored
  exact inStep.declared (List.mem_map.2 ⟨(language, list), by simp [parts], rfl⟩)

end InStep

/-! ### Counting rules -/

end NameTypeRules

def tally (counts : List Nat) : Nat := counts.foldl (· + ·) 0

@[simp] theorem tally_nil : tally [] = 0 := rfl

@[simp] theorem tally_cons (count : Nat) (rest : List Nat) :
    tally (count :: rest) = count + tally rest := by
  rw [tally, List.foldl_cons, Nat.zero_add]
  exact @List.foldl_assoc Nat (· + ·) _ rest count 0

@[simp] theorem tally_append (first rest : List Nat) :
    tally (first ++ rest) = tally first + tally rest := by
  induction first with
  | nil => simp
  | cons count others ih => rw [List.cons_append, tally_cons, tally_cons, ih, Nat.add_assoc]

namespace NameTypeRules

/-- Rule lists under different keys are all counted if every key is asked for once. -/
theorem tally_lookup {languages : List Language} {primary : List (Language × RuleList)}
    (once : languages.Nodup) (keys : (primary.map Prod.fst).Nodup)
    (listed : primary.map Prod.fst ⊆ languages) :
    tally (languages.map fun language => ((primary.lookup language).map (·.size)).getD 0) =
      tally (primary.map (·.2.size)) := by
  induction primary with
  | nil =>
    have nothing (asked : List Language) : tally (asked.map fun _ => 0) = 0 := by
      induction asked <;> simp_all
    exact nothing languages
  | cons first rest ih =>
    obtain ⟨key, list⟩ := first
    rw [List.map_cons, List.nodup_cons] at keys
    rw [List.map_cons, List.cons_subset] at listed
    -- The first key stands at one place of the languages, and its list is not counted elsewhere.
    obtain ⟨before, after, rfl⟩ := List.append_of_mem listed.1
    have unlisted : rest.lookup key = none := by
      rw [List.lookup_eq_none_iff]
      intro other member
      exact bne_iff_ne.2 fun same => keys.1 (List.mem_map.2 ⟨other, member, same.symm⟩)
    have elsewhere : ∀ language ∈ before ++ after,
        ((((key, list) :: rest).lookup language).map (·.size)).getD 0 =
          ((rest.lookup language).map (·.size)).getD 0 := by
      intro language member
      have different : language ≠ key := by
        obtain ⟨_, behind, apart⟩ := List.nodup_append.1 once
        rcases List.mem_append.1 member with early | late
        · exact apart language early key List.mem_cons_self
        · rintro rfl
          exact (List.nodup_cons.1 behind).1 late
      rw [List.lookup_cons, beq_false_of_ne different]
    have counted := ih keys.2 listed.2
    rw [List.map_append, List.map_cons, tally_append, tally_cons, unlisted] at counted
    rw [List.map_append, List.map_cons, tally_append, tally_cons, List.lookup_cons_self,
      List.map_congr_left fun language member => elsewhere language (List.mem_append_left _ member),
      List.map_congr_left fun language member => elsewhere language (List.mem_append_right _ member),
      List.map_cons, tally_cons, ← counted]
    simp only [Option.map_some, Option.getD_some, Option.map_none, Option.getD_none]
    omega

theorem InStep.ruleCount_eq {entry : NameTypeRules} (inStep : entry.InStep) :
    entry.ruleCount =
      tally (entry.languages.map fun language =>
        ((entry.primary? language).map (·.size)).getD 0) +
      tally (RuleType.all.map fun ruleType => ((entry.final? ruleType).map (·.size)).getD 0) := by
  have primary := tally_lookup inStep.languages inStep.keys inStep.declared
  change _ = tally (entry.languages.map fun language =>
    ((entry.primary.lookup language).map (·.size)).getD 0) + _
  rw [primary, ruleCount, Nat.add_assoc]
  simp only [RuleType.all, List.map_cons, List.map_nil, tally_cons, tally_nil, Nat.add_zero]
  rfl

end NameTypeRules

/-! ## Rule sets -/

namespace RuleSet

theorem change_eq_modify (set : RuleSet) (nameType : NameType) (change : Change) :
    set.change nameType change = set.modify nameType (Change.apply · change) := by
  cases change <;> rfl

def changesOf (nameType : NameType) (changes : List (NameType × Change)) : List Change :=
  changes.filterMap fun (other, change) => if other = nameType then some change else none

theorem entry_change_of_ne (set : RuleSet) {nameType other : NameType} (different : other ≠ nameType)
    (change : Change) : (set.change other change).entry nameType = set.entry nameType := by
  rw [change_eq_modify, entry_modify, if_neg different.symm]

theorem entry_changeAll (set : RuleSet) (changes : List (NameType × Change))
    (nameType : NameType) :
    (set.changeAll changes).entry nameType =
      (set.entry nameType).applyAll (changesOf nameType changes) := by
  induction changes generalizing set with
  | nil => rfl
  | cons first rest ih =>
    obtain ⟨other, change⟩ := first
    change ((set.change other change).changeAll rest).entry nameType = _
    rw [ih]
    by_cases same : other = nameType
    · have own : changesOf nameType ((other, change) :: rest) =
          change :: changesOf nameType rest := by simp [changesOf, same]
      rw [own, change_eq_modify, entry_modify, if_pos same.symm, same]
      rfl
    · have own : changesOf nameType ((other, change) :: rest) = changesOf nameType rest := by
        simp [changesOf, same]
      rw [own, entry_change_of_ne set same]

theorem inStep_changeAll (changes : List (NameType × Change)) (nameType : NameType) :
    ((empty.changeAll changes).entry nameType).InStep := by
  rw [entry_changeAll]
  cases nameType <;> exact NameTypeRules.InStep.empty.applyAll _

/-! ### Reports -/

/-- What the report shows of a name type, before it is written. -/
structure Block where
  nameType : NameType
  /-- The number in the first line. -/
  total : Nat
  languages : List (Language × Nat)
  finals : List (RuleType × Option Nat)
  guessRules : Nat
  prefixes : String

namespace Block

def render (block : Block) : String :=
  "[" ++ block.nameType.name ++ "] " ++ toString block.total ++ " rules\n" ++
    "  languages:\n" ++
    String.join (block.languages.map fun (language, count) =>
      "    " ++ language.name ++ ": " ++ toString count ++ "\n") ++
    String.join (block.finals.map fun (ruleType, count) =>
      "  final " ++ ruleType.name ++ ": " ++ (count.map toString).getD "missing" ++ "\n") ++
    "  guess rules: " ++ toString block.guessRules ++ "\n" ++
    "  prefixes: " ++ block.prefixes ++ "\n"

def counts (block : Block) : List Nat :=
  block.languages.map (·.2) ++ block.finals.map (·.2.getD 0)

end Block

def block (set : RuleSet) (nameType : NameType) : Block where
  nameType
  total := set.ruleCount nameType
  languages := set.languageCounts nameType
  finals := RuleType.all.map fun ruleType =>
    (ruleType, ((set.entry nameType).final? ruleType).map (·.size))
  guessRules := (set.entry nameType).guessRules.length
  prefixes := set.reportPrefixes nameType

theorem reportOn_eq_render (set : RuleSet) (nameType : NameType) :
    set.reportOn nameType = (set.block nameType).render := by
  have finals : RuleType.all.map (set.reportFinal nameType) =
      (set.block nameType).finals.map fun (ruleType, count) =>
        "  final " ++ ruleType.name ++ ": " ++ (count.map toString).getD "missing" ++ "\n" := by
    rw [block, List.map_map]
    apply List.map_congr_left
    intro ruleType _
    rw [reportFinal, Function.comp_apply]
    cases (set.entry nameType).final? ruleType <;> rfl
  -- `rw [reportOn]` would first make an equation of so long a text.
  delta reportOn
  rw [finals]
  rfl

theorem tally_counts_block (changes : List (NameType × Change)) (nameType : NameType) :
    let set := empty.changeAll changes
    (set.block nameType).total = tally (set.block nameType).counts := by
  intro set
  rw [Block.counts, tally_append, block, List.map_map, languageCounts, List.map_map]
  exact (inStep_changeAll changes nameType).ruleCount_eq

/-- What a set answers after any changes, and what its report counts. -/
theorem answers_changeAll (changes : List (NameType × Change)) (nameType : NameType) :
    let set := empty.changeAll changes
    let own := changesOf nameType changes
    let table := set.toTable
    table.languages nameType = (own.filterMap Change.language?).eraseDups ∧
      (table.languages nameType).Nodup ∧
      (∀ ruleType language list, table.rules nameType ruleType language = some list →
        language ∈ table.languages nameType) ∧
      (∀ ruleType language, table.rules nameType ruleType language =
        (own.filterMap (Change.rulesFor? language)).getLast?) ∧
      (∀ ruleType, table.finalRules nameType ruleType =
        (own.filterMap (Change.finalRulesFor? ruleType)).getLast?) ∧
      table.guessRules nameType = own.filterMap Change.guessRule? ∧
      table.prefixes nameType =
        (own.filterMap Change.prefixes?).getLast?.getD nameType.defaultPrefixes ∧
      (∀ other change, other ≠ nameType →
        (set.change other change).entry nameType = set.entry nameType) ∧
      (∀ ruleType, set.ruleCount nameType =
        tally ((table.languages nameType).map fun language =>
          ((table.rules nameType ruleType language).map (·.size)).getD 0) +
        tally (RuleType.all.map fun kind =>
          ((table.finalRules nameType kind).map (·.size)).getD 0)) ∧
      set.report = String.join (set.nameTypes.map fun listed => (set.block listed).render) ∧
      ∀ listed, (set.block listed).total = tally (set.block listed).counts := by
  intro set own table
  have entry : set.entry nameType = NameTypeRules.applyAll {} own := by
    rw [entry_changeAll]
    cases nameType <;> rfl
  have inStep : (set.entry nameType).InStep := inStep_changeAll changes nameType
  refine ⟨?_, inStep.languages, fun _ _ _ => inStep.mem_languages_of_primary?, fun _ language => ?_,
    fun ruleType => ?_, ?_, ?_, fun _ change different => set.entry_change_of_ne different change,
    fun _ => inStep.ruleCount_eq, ?_, tally_counts_block changes⟩
  · change (set.entry nameType).languages = _
    rw [entry, NameTypeRules.languages_applyAll]
    exact NameTypeRules.declareAll_eraseDups [] _
  · change (set.entry nameType).primary? language = _
    rw [entry, NameTypeRules.primary?_applyAll]
    exact Option.or_none
  · change (set.entry nameType).final? ruleType = _
    rw [entry, NameTypeRules.final?_applyAll]
    cases ruleType <;> exact Option.or_none
  · change (set.entry nameType).guessRules = _
    rw [entry, NameTypeRules.guessRules_applyAll]
    rfl
  · change (set.entry nameType).prefixes.getD _ = _
    rw [entry, NameTypeRules.prefixes_applyAll]
    exact congrArg (Option.getD · _) Option.or_none
  · exact congrArg String.join (List.map_congr_left fun listed _ => set.reportOn_eq_render listed)

theorem answers_changeAll_replaced :
    let vowel := Rule.either 'a' "a" "o"
    let changes : List (NameType × Change) :=
      [(.generic, .putRules ⟨"polish"⟩ [vowel]), (.generic, .declare .any),
        (.ashkenazi, .putRules .any [vowel]), (.generic, .putRules ⟨"polish"⟩ [vowel, vowel]),
        (.generic, .putFinalRules .exact [vowel]), (.generic, .declare ⟨"polish"⟩)]
    let set := empty.changeAll changes
    set.toTable.languages .generic = [⟨"polish"⟩, .any] ∧
      set.toTable.rules .generic .approx ⟨"polish"⟩ = some (.ofList [vowel, vowel]) ∧
      ⟨"polish"⟩ ∈ set.toTable.languages .generic ∧
      (set.change .ashkenazi (.declare .any)).entry .generic = set.entry .generic ∧
      set.ruleCount .generic = 3 ∧
      (set.block .generic).counts = [2, 0, 0, 1] ∧ (set.block .generic).total = 3 := by
  intro vowel changes set
  obtain ⟨languages, _, declared, rules, _, _, _, others, count, _, total⟩ :=
    answers_changeAll changes .generic
  have stored : set.toTable.rules .generic .approx ⟨"polish"⟩ =
      some (.ofList [vowel, vowel]) := rules .approx ⟨"polish"⟩
  refine ⟨languages, stored, declared .approx _ _ stored, others .ashkenazi _ (by decide),
    count .approx, rfl, total .generic⟩

end RuleSet

end Homophone
