import Homophone.Proofs.Loading
import Homophone.Proofs.WordEncoding

/-! What a loaded set can serve.

A directory that loads has rules for every language that it declares and final rules of both kinds,
so an encoder can only be refused for a language that is not declared: one that a guess rule names,
or the fallback. This holds of loading that succeeds; an error may leave final rules out.
-/

set_option autoImplicit false

namespace Homophone

/-! ## Computations that succeed -/

namespace Loading

/-- From rule sets with one property a computation leads to sets with another, if it succeeds. -/
def Leads (before : RuleSet → Prop) {α : Type} (computation : Loading α)
    (after : RuleSet → Prop) : Prop :=
  ∀ set x next, before set → computation.run.run set = (.ok x, next) → after next

variable {before between after : RuleSet → Prop} {α β : Type}

theorem Keeps.leads {computation : Loading α} (keeps : Keeps before computation) :
    Leads before computation before := by
  intro set x next held run
  have kept := keeps set held
  rwa [run] at kept

theorem leads_pure (changed : ∀ set, before set → after set) (x : α) :
    Leads before (pure x : Loading α) after := by
  intro set _ next held run
  cases run
  exact changed set held

theorem leads_throw (error : LoadError) : Leads before (throw error : Loading α) after := by
  intro set x next _ run
  cases run

theorem leads_modify {change : RuleSet → RuleSet}
    (changed : ∀ set, before set → after (change set)) :
    Leads before (modify change : Loading PUnit) after := by
  intro set x next held run
  cases run
  exact changed set held

theorem Leads.bind {computation : Loading α} {next : α → Loading β}
    (first : Leads before computation between) (rest : ∀ x, Leads between (next x) after) :
    Leads before (computation >>= next) after := by
  intro set y last held run
  rw [run_bind] at run
  split at run
  · next x middle outcome => exact rest x middle y last (first set x middle held outcome) run
  · cases run

theorem leads_lift_bind {outcome : Except LoadError α} {next : α → Loading β}
    (rest : ∀ x, outcome = .ok x → Leads before (next x) after) :
    Leads before ((liftM outcome : Loading α) >>= next) after := by
  intro set y last held run
  cases outcome with
  | ok x => exact rest x rfl set y last held run
  | error error => cases run

theorem leads_mapM {step : α → Loading β} (each : ∀ x, Leads before (step x) before)
    (xs : List α) : Leads before (xs.mapM step) before := by
  induction xs with
  | nil => exact leads_pure (fun _ => id) []
  | cons x rest ih =>
    rw [List.mapM_cons]
    exact (each x).bind fun y => ih.bind fun ys => leads_pure (fun _ => id) (y :: ys)

end Loading

/-! ## Name types that can be served -/

namespace NameTypeRules

def RulesDeclared (entry : NameTypeRules) : Prop :=
  ∀ language ∈ entry.languages, (entry.primary? language).isSome = true

/-- Declared languages have primary rules, and if there are any, there are final rules of both
kinds. -/
structure Complete (entry : NameTypeRules) : Prop where
  primary : entry.RulesDeclared
  final : entry.languages ≠ [] → ∀ ruleType, (entry.final? ruleType).isSome = true

variable {entry : NameTypeRules}

theorem RulesDeclared.insertRules (declared : entry.RulesDeclared) (language : Language)
    (rules : List Rule) : (entry.insertRules language rules).RulesDeclared := by
  intro other member
  rw [primary?_insertRules]
  split
  · rfl
  · next different =>
    rcases mem_languages_declare.1 member with old | same
    · exact declared other old
    · exact absurd same different

end NameTypeRules

namespace RuleDirectory

open Loading (Keeps Leads keeps_pure keeps_modify keeps_lift_bind keeps_forM leads_pure leads_throw
  leads_modify leads_lift_bind leads_mapM)

variable {directory : RuleDirectory}

def CompleteAll (set : RuleSet) : Prop := ∀ nameType, (set.entry nameType).Complete

/-- While one name type is loaded: it has the final rules of some kinds, the others have all. -/
structure Filling (nameType : NameType) (done : List RuleType) (set : RuleSet) : Prop where
  others : ∀ other, other ≠ nameType → (set.entry other).Complete
  primary : (set.entry nameType).RulesDeclared
  final : ∀ ruleType ∈ done, ((set.entry nameType).final? ruleType).isSome = true

theorem CompleteAll.filling {set : RuleSet} (complete : CompleteAll set) (nameType : NameType) :
    Filling nameType [] set where
  others other _ := complete other
  primary := (complete nameType).primary
  final _ member := by cases member

theorem Filling.completeAll {nameType : NameType} {done : List RuleType} {set : RuleSet}
    (filling : Filling nameType done set) (all : ∀ ruleType, ruleType ∈ done) :
    CompleteAll set := by
  intro other
  by_cases same : other = nameType
  · exact same ▸ ⟨filling.primary, fun _ ruleType => filling.final ruleType (all ruleType)⟩
  · exact filling.others other same

/-- What is changed is the entry that is being filled. -/
theorem Filling.modify {nameType : NameType} {done later : List RuleType} {set : RuleSet}
    (filling : Filling nameType done set) {change : NameTypeRules → NameTypeRules}
    (primary : (change (set.entry nameType)).RulesDeclared)
    (final : ∀ ruleType ∈ later,
      ((change (set.entry nameType)).final? ruleType).isSome = true) :
    Filling nameType later (set.modify nameType change) := by
  have here := set.entry_modify_self nameType change
  refine ⟨fun other different => ?_, here ▸ primary, here ▸ final⟩
  rw [RuleSet.entry_modify, if_neg different]
  exact filling.others other different

/-! ## Loading -/

variable {nameType : NameType} {done : List RuleType}

theorem keeps_filling_insertPrimary (language : Language) :
    Keeps (Filling nameType done) (directory.insertPrimary nameType language) :=
  keeps_lift_bind fun rules _ => keeps_modify fun set filling =>
    filling.modify (filling.primary.insertRules language rules) fun ruleType member => by
      have kept : ((set.entry nameType).insertRules language rules).final? ruleType =
          (set.entry nameType).final? ruleType :=
        NameTypeRules.final?_declare _ language ruleType
      exact kept ▸ filling.final ruleType member

theorem leads_insertFinal (ruleType : RuleType) :
    Leads (Filling nameType done) (directory.insertFinal nameType ruleType)
      (Filling nameType (ruleType :: done)) :=
  leads_lift_bind fun rules _ => leads_modify fun set filling =>
    filling.modify (by cases ruleType <;> exact filling.primary) fun other member => by
      rw [NameTypeRules.final?_insertFinalRules]
      split
      · rfl
      · next different =>
        exact filling.final other ((List.mem_cons.1 member).resolve_left different)

theorem leads_forM_insertFinal (ruleTypes : List RuleType) :
    Leads (Filling nameType done) (ruleTypes.forM (directory.insertFinal nameType))
      (Filling nameType (ruleTypes.reverse ++ done)) := by
  induction ruleTypes generalizing done with
  | nil => exact leads_pure (fun _ => id) PUnit.unit
  | cons ruleType rest ih =>
    rw [List.reverse_cons, List.append_assoc]
    exact (leads_insertFinal ruleType).bind fun _ => ih

theorem filling_pushGuessRules (rules : List GuessRule) {set : RuleSet}
    (filling : Filling nameType done set) :
    Filling nameType done (rules.foldl (·.pushGuessRule nameType ·) set) := by
  induction rules generalizing set with
  | nil => exact filling
  | cons rule rest ih =>
    exact ih (filling.modify filling.primary fun ruleType member => by
      cases ruleType <;> exact filling.final _ member)

theorem keeps_filling_insertGuessRules :
    Keeps (Filling nameType done) (directory.insertGuessRules nameType) :=
  keeps_lift_bind fun rules _ => keeps_modify fun _ => filling_pushGuessRules rules

theorem keeps_filling_insertPrefixes :
    Keeps (Filling nameType done) (directory.insertPrefixes nameType) := by
  refine keeps_lift_bind fun text _ => ?_
  cases text with
  | none => exact keeps_pure PUnit.unit
  | some text =>
    exact keeps_modify fun _ filling => filling.modify filling.primary fun ruleType member => by
      cases ruleType <;> exact filling.final _ member

theorem leads_loadNameType (nameType : NameType) :
    Leads CompleteAll (directory.loadNameType nameType) CompleteAll := by
  refine leads_lift_bind fun text _ => ?_
  cases text with
  | none => exact leads_pure (fun _ => id) false
  | some text =>
    have primary : Leads CompleteAll
        ((RuleFile.readLanguageList text).forM (directory.insertPrimary nameType))
        (Filling nameType []) :=
      fun set x next complete =>
        (keeps_forM fun language _ => keeps_filling_insertPrimary language).leads set x next
          (complete.filling nameType)
    -- The final rules of both kinds are there before guess rules and prefixes are read.
    refine primary.bind fun _ => (leads_forM_insertFinal RuleType.all).bind fun _ => ?_
    refine keeps_filling_insertGuessRules.leads.bind fun _ => ?_
    refine keeps_filling_insertPrefixes.leads.bind fun _ => leads_pure (fun _ filling => ?_) true
    exact filling.completeAll (by simp)

theorem leads_loadAll (directory : RuleDirectory) :
    Leads CompleteAll directory.loadAll CompleteAll := by
  refine (leads_mapM leads_loadNameType _).bind fun found => ?_
  cases found.any id with
  | true => exact leads_pure (fun _ => id) PUnit.unit
  | false => exact leads_throw _

theorem completeAll_of_load {set : RuleSet} (loaded : directory.load = .ok set) :
    CompleteAll set := by
  have empty : CompleteAll {} := fun nameType => by
    cases nameType <;>
      exact ⟨fun _ member => absurd member List.not_mem_nil, fun declared => absurd rfl declared⟩
  rw [load] at loaded
  split at loaded
  · next last run =>
    cases loaded
    exact leads_loadAll directory {} _ _ empty run
  · cases loaded

def ofGuesses (guesses : String) : RuleDirectory where
  files := .ofPaths [] [
    ("rules/gen_languages.txt", .text "any\nfrench"),
    ("rules/gen_rules_any.txt", .text ""),
    ("rules/gen_rules_french.txt", .text ""),
    ("rules/gen_approx_common.txt", .text ""),
    ("rules/gen_exact_common.txt", .text ""),
    ("rules/gen_lang.txt", .text guesses)]
  path := "rules"

theorem exists_of_load (directory : RuleDirectory) (nameType : NameType)
    {declared : List Language} {named : List (List Language)}
    (run : directory.load.toOption.map (fun set => ((set.entry nameType).languages,
      (set.entry nameType).guessRules.map (·.languages.members))) = some (declared, named)) :
    ∃ set, directory.load = .ok set ∧ (set.entry nameType).languages = declared ∧
      (set.entry nameType).guessRules.map (·.languages.members) = named := by
  cases loaded : directory.load with
  | error error =>
    rw [loaded] at run
    cases run
  | ok set =>
    rw [loaded] at run
    exact ⟨set, rfl, Prod.mk.inj (Option.some.inj run)⟩

end RuleDirectory

/-! ## Encoders over loaded sets -/

namespace Encoder

/-- Only a language without rules is in the way of an encoder that has all else. -/
theorem new_of_finals {table : RuleTable} {settings : Settings} (positive : 0 < settings.maxPhonemes)
    (declared : table.languages settings.nameType ≠ [])
    (finals : (table.finalRules settings.nameType settings.ruleType).isSome = true) :
    (new table settings).map (fun _ => ()) =
      checkLanguages table settings (reachable table settings.nameType).members := by
  have valid : settings.validate = .ok () := if_neg (Nat.ne_of_gt positive)
  have nonempty : (table.languages settings.nameType).isEmpty = false :=
    List.isEmpty_eq_false_iff.2 declared
  have given : (table.finalRules settings.nameType settings.ruleType).isNone = false := by
    rw [Option.isNone_eq_false_iff, finals]
  unfold new
  split
  · next refused =>
    rw [valid] at refused
    cases refused
  · rw [nonempty, given]
    cases checkLanguages table settings (reachable table settings.nameType).members <;> rfl

theorem exists_new_iff {table : RuleTable} {settings : Settings} (positive : 0 < settings.maxPhonemes)
    (declared : table.languages settings.nameType ≠ [])
    (finals : (table.finalRules settings.nameType settings.ruleType).isSome = true) :
    (∃ encoder, new table settings = .ok encoder) ↔
      ∀ language ∈ reachable table settings.nameType,
        (table.rules settings.nameType settings.ruleType language).isSome = true := by
  constructor
  · rintro ⟨encoder, built⟩
    obtain ⟨_, _, _, served, _⟩ := of_new built
    exact served
  · intro served
    have checked := new_of_finals positive declared finals
    rw [checkLanguages_eq_ok_iff.2 served] at checked
    cases built : new table settings with
    | ok encoder => exact ⟨encoder, rfl⟩
    | error error =>
      rw [built] at checked
      cases checked

theorem exists_of_checkLanguages_error {table : RuleTable} {settings : Settings}
    {languages : List Language} {error : SettingsError}
    (refused : checkLanguages table settings languages = .error error) :
    ∃ language ∈ languages,
      table.rules settings.nameType settings.ruleType language = none ∧
      error = .missingRules settings.nameType settings.ruleType language := by
  rw [checkLanguages] at refused
  split at refused
  · next language found =>
    have missing := List.find?_some found
    cases refused
    exact ⟨language, List.mem_of_find?_eq_some found, Option.isNone_iff_eq_none.1 missing, rfl⟩
  · cases refused

theorem mem_reachable_toTable {set : RuleSet} {nameType : NameType} {language : Language} :
    language ∈ reachable set.toTable nameType ↔
      language ∈ (set.entry nameType).languages ∨ language = .any ∨
        ∃ rule ∈ (set.entry nameType).guessRules, language ∈ rule.languages.members := by
  have fallback : (set.toTable.fallbackLanguages nameType).members = [.any] := rfl
  rw [reachable, LanguageSet.mem_insertAll, LanguageSet.mem_insertAll, LanguageSet.mem_ofList,
    fallback, List.mem_singleton, List.mem_flatMap, or_assoc]
  exact Iff.rfl

/-- Over a loaded set, a name type that it has is served exactly if the fallback language is declared
and so are all languages that guess rules name. If it is not, a language that is not declared is the
reason. -/
theorem new_eq_ok_iff_of_load {directory : RuleDirectory} {set : RuleSet}
    (loaded : directory.load = .ok set) {settings : Settings}
    (present : settings.nameType ∈ set.nameTypes) (positive : 0 < settings.maxPhonemes) :
    let entry := set.entry settings.nameType
    ((∃ encoder, new set.toTable settings = .ok encoder) ↔
      Language.any ∈ entry.languages ∧
        ∀ rule ∈ entry.guessRules, ∀ language ∈ rule.languages.members,
          language ∈ entry.languages) ∧
    ∀ error, new set.toTable settings = .error error →
      ∃ language, language ∉ entry.languages ∧
        error = .missingRules settings.nameType settings.ruleType language := by
  intro entry
  have complete : entry.Complete := RuleDirectory.completeAll_of_load loaded settings.nameType
  have supplies := RuleDirectory.suppliesAll_of_load loaded settings.nameType
  have declared : entry.languages ≠ [] := by simpa [RuleSet.nameTypes] using present
  have finals : (set.toTable.finalRules settings.nameType settings.ruleType).isSome = true :=
    complete.final declared settings.ruleType
  -- Exactly the declared languages have primary rules.
  have served : ∀ language, (entry.primary? language).isSome = true ↔
      language ∈ entry.languages := fun language =>
    ⟨fun given => (Option.isSome_iff_exists.1 given).elim (supplies.declared language),
      complete.primary language⟩
  constructor
  · have accepted : (∃ encoder, new set.toTable settings = .ok encoder) ↔
        ∀ language ∈ reachable set.toTable settings.nameType, language ∈ entry.languages :=
      (exists_new_iff positive declared finals).trans
        (forall₂_congr fun language _ => served language)
    rw [accepted]
    constructor
    · intro all
      exact ⟨all _ (mem_reachable_toTable.2 (.inr (.inl rfl))), fun rule listed language named =>
        all language (mem_reachable_toTable.2 (.inr (.inr ⟨rule, listed, named⟩)))⟩
    · rintro ⟨fallback, guessed⟩ language member
      rcases mem_reachable_toTable.1 member with declared | rfl | ⟨rule, listed, named⟩
      · exact declared
      · exact fallback
      · exact guessed rule listed language named
  · intro error refused
    have checked := new_of_finals positive declared finals
    rw [refused] at checked
    obtain ⟨language, _, missing, same⟩ := exists_of_checkLanguages_error checked.symm
    refine ⟨language, fun declared => ?_, same⟩
    have given := (served language).2 declared
    rw [show entry.primary? language = none from missing] at given
    cases given

theorem new_eq_ok_iff_of_load_guesses :
    (∃ set, (RuleDirectory.ofGuesses "eau$ french true").load = .ok set ∧
      NameType.generic ∈ set.nameTypes ∧ ∃ encoder, new set.toTable {} = .ok encoder) ∧
    ∃ set, (RuleDirectory.ofGuesses "eau$ french true\nw german false").load = .ok set ∧
      NameType.generic ∈ set.nameTypes ∧ ¬∃ encoder, new set.toTable {} = .ok encoder := by
  constructor
  · obtain ⟨set, loaded, declared, named⟩ := RuleDirectory.exists_of_load
      (.ofGuesses "eau$ french true") .generic
      (show _ = some ([.any, ⟨"french"⟩], [[⟨"french"⟩]]) by decide +kernel)
    have present : NameType.generic ∈ set.nameTypes := by simp [RuleSet.nameTypes, declared]
    obtain ⟨accepted, _⟩ :=
      new_eq_ok_iff_of_load loaded present (show 0 < ({} : Settings).maxPhonemes by decide)
    refine ⟨set, loaded, present, accepted.2 ⟨by simp [declared], ?_⟩⟩
    intro rule listed language member
    have same : rule.languages.members ∈ [[(⟨"french"⟩ : Language)]] :=
      named ▸ List.mem_map.2 ⟨rule, listed, rfl⟩
    rw [List.mem_singleton.1 same] at member
    simp [declared, List.mem_singleton.1 member]
  · obtain ⟨set, loaded, declared, named⟩ := RuleDirectory.exists_of_load
      (.ofGuesses "eau$ french true\nw german false") .generic
      (show _ = some ([.any, ⟨"french"⟩], [[⟨"french"⟩], [⟨"german"⟩]]) by decide +kernel)
    have present : NameType.generic ∈ set.nameTypes := by simp [RuleSet.nameTypes, declared]
    obtain ⟨accepted, _⟩ :=
      new_eq_ok_iff_of_load loaded present (show 0 < ({} : Settings).maxPhonemes by decide)
    refine ⟨set, loaded, present, fun served => ?_⟩
    obtain ⟨_, guessed⟩ := accepted.1 served
    -- The second guess rule names a language that is not declared.
    have same : [(⟨"german"⟩ : Language)] ∈
        (set.entry .generic).guessRules.map (·.languages.members) := named ▸ by simp
    obtain ⟨rule, listed, german⟩ := List.mem_map.1 same
    have member := guessed rule listed ⟨"german"⟩ (german ▸ List.mem_cons_self)
    rw [declared] at member
    revert member
    decide

end Encoder

end Homophone
