import Homophone.Proofs.Changes
import Homophone.Proofs.Serving

/-! What is left when loading fails.

A name type is loaded in portions, each from a file with all that it includes. A portion changes
nothing before it is read to its end. So after a failure there is what the portions before have
changed, and no list is half read.
-/

set_option autoImplicit false

namespace Homophone

namespace RuleSet

theorem modify_applyAll_nil (set : RuleSet) (nameType : NameType) :
    set.modify nameType (·.applyAll []) = set := by
  cases nameType <;> rfl

theorem modify_applyAll (set : RuleSet) (nameType : NameType) (first rest : List Change) :
    (set.modify nameType (·.applyAll first)).modify nameType (·.applyAll rest) =
      set.modify nameType (·.applyAll (first ++ rest)) := by
  cases nameType <;> simp only [modify, NameTypeRules.applyAll_append]

theorem pushGuessRules_eq_modify (set : RuleSet) (nameType : NameType) (rules : List GuessRule) :
    rules.foldl (·.pushGuessRule nameType ·) set =
      set.modify nameType (·.applyAll (rules.map .pushGuessRule)) := by
  induction rules generalizing set with
  | nil => exact (set.modify_applyAll_nil nameType).symm
  | cons rule rest ih =>
    rw [List.foldl_cons, ih]
    exact set.modify_applyAll nameType [.pushGuessRule rule] (rest.map .pushGuessRule)

end RuleSet

theorem Loading.lift_ok_bind {α β : Type} (x : α) (next : α → Loading β) :
    (liftM (Except.ok x : Except LoadError α) : Loading α) >>= next = next x := rfl

/-! ## Portions -/

/-- What one file gives a name type, besides the list of its languages. -/
inductive Portion where
  | primary (language : Language)
  | final (ruleType : RuleType)
  | guessRules
  | prefixes
  deriving DecidableEq

namespace Change

def portion : Change → Portion
  | declare language => .primary language
  | putRules language _ => .primary language
  | putFinalRules ruleType _ => .final ruleType
  | pushGuessRule _ => .guessRules
  | setPrefixes _ => .prefixes

variable {change : Change}

theorem portion_of_rulesFor? {language : Language} {list : RuleList}
    (put : change.rulesFor? language = some list) : change.portion = .primary language := by
  cases change <;> simp_all [rulesFor?, portion]

theorem portion_of_finalRulesFor? {ruleType : RuleType} {list : RuleList}
    (put : change.finalRulesFor? ruleType = some list) : change.portion = .final ruleType := by
  cases change <;> simp_all [finalRulesFor?, portion]

theorem portion_of_guessRule? {rule : GuessRule} (put : change.guessRule? = some rule) :
    change.portion = .guessRules := by
  cases change <;> simp_all [guessRule?, portion]

theorem portion_of_prefixes? {prefixes : List String} (put : change.prefixes? = some prefixes) :
    change.portion = .prefixes := by
  cases change <;> simp_all [prefixes?, portion]

end Change

namespace RuleDirectory

open RuleFile (map_eq_ok_iff)

def portions (languages : List Language) : List Portion :=
  languages.map .primary ++ (RuleType.all.map .final ++ [.guessRules, .prefixes])

/-- What a portion changes. Its file is read whole or fails, and so does all that it includes. -/
def changes (directory : RuleDirectory) (nameType : NameType) :
    Portion → Except LoadError (List Change)
  | .primary language =>
    (directory.rules (primaryStem nameType language)).map fun rules => [.putRules language rules]
  | .final ruleType =>
    (directory.rules (finalStem nameType ruleType)).map fun rules =>
      [.putFinalRules ruleType rules]
  | .guessRules =>
    (directory.guessRules (nameType.code ++ "_lang")).map fun rules => rules.map .pushGuessRule
  | .prefixes =>
    (directory.read? (nameType.code ++ "_prefixes")).map fun text =>
      (text.map fun text => Change.setPrefixes (RuleFile.readPrefixes text)).toList

abbrev Reads (directory : RuleDirectory) (nameType : NameType) :
    List Portion → List (List Change) → Prop :=
  List.Forall₂ fun portion changes => directory.changes nameType portion = .ok changes

/-- How far one gets with some portions, one after the other. -/
inductive Gets (directory : RuleDirectory) (nameType : NameType) :
    List Portion → Except LoadError Unit → List Change → Prop where
  | all {portions : List Portion} {lists : List (List Change)}
      (read : directory.Reads nameType portions lists) :
      Gets directory nameType portions (.ok ()) lists.flatten
  | upTo {before : List Portion} {lists : List (List Change)} {failing : Portion}
      {error : LoadError} (read : directory.Reads nameType before lists)
      (failed : directory.changes nameType failing = .error error) (after : List Portion) :
      Gets directory nameType (before ++ failing :: after) (.error error) lists.flatten

/-- A computation loads some portions. How far it gets does not depend on what there is. -/
def Loads (directory : RuleDirectory) (nameType : NameType) (portions : List Portion)
    (computation : Loading Unit) : Prop :=
  ∃ outcome changes, directory.Gets nameType portions outcome changes ∧
    ∀ set, computation.run.run set = (outcome, set.modify nameType (·.applyAll changes))

variable {directory : RuleDirectory} {nameType : NameType}

theorem loads_singleton {portion : Portion} {computation : Loading Unit}
    (steps : computation = do
      let changes ← directory.changes nameType portion
      modify (·.modify nameType (·.applyAll changes))) :
    directory.Loads nameType [portion] computation := by
  subst steps
  cases read : directory.changes nameType portion with
  | ok changes =>
    refine ⟨.ok (), [changes].flatten, .all (.cons read .nil), fun set => ?_⟩
    rw [List.flatten_singleton]
    rfl
  | error error =>
    refine ⟨.error error, [], .upTo .nil read [], fun set => ?_⟩
    rw [set.modify_applyAll_nil]
    rfl

theorem loads_insertPrimary (language : Language) :
    directory.Loads nameType [.primary language] (directory.insertPrimary nameType language) := by
  apply loads_singleton
  rw [insertPrimary, changes]
  cases directory.rules (primaryStem nameType language) <;> rfl

theorem loads_insertFinal (ruleType : RuleType) :
    directory.Loads nameType [.final ruleType] (directory.insertFinal nameType ruleType) := by
  apply loads_singleton
  rw [insertFinal, changes]
  cases directory.rules (finalStem nameType ruleType) <;> rfl

theorem loads_insertGuessRules :
    directory.Loads nameType [.guessRules] (directory.insertGuessRules nameType) := by
  apply loads_singleton
  rw [insertGuessRules, changes]
  cases directory.guessRules (nameType.code ++ "_lang") with
  | error error => rfl
  | ok rules =>
    change (modify fun set => rules.foldl (·.pushGuessRule nameType ·) set) =
      (modify fun set => set.modify nameType (·.applyAll (rules.map .pushGuessRule)) : Loading Unit)
    simp only [RuleSet.pushGuessRules_eq_modify]

theorem loads_insertPrefixes :
    directory.Loads nameType [.prefixes] (directory.insertPrefixes nameType) := by
  apply loads_singleton
  rw [insertPrefixes, changes]
  cases directory.read? (nameType.code ++ "_prefixes") with
  | error error => rfl
  | ok text =>
    cases text with
    | some text => rfl
    | none =>
      change (pure () : Loading Unit) = modify fun set => set.modify nameType (·.applyAll [])
      simp only [RuleSet.modify_applyAll_nil]
      rfl

theorem loads_nil : directory.Loads nameType [] (pure ()) := by
  refine ⟨.ok (), [], .all .nil, fun set => ?_⟩
  rw [set.modify_applyAll_nil]
  rfl

/-- After a portion that cannot be read, nothing more is loaded. -/
theorem Loads.bind {first rest : List Portion} {computation next : Loading Unit}
    (loads : directory.Loads nameType first computation)
    (loadsNext : directory.Loads nameType rest next) :
    directory.Loads nameType (first ++ rest) (computation >>= fun _ => next) := by
  obtain ⟨outcome, changes, gets, run⟩ := loads
  cases gets with
  | @all _ lists read =>
    obtain ⟨outcome, later, getsNext, runNext⟩ := loadsNext
    refine ⟨outcome, lists.flatten ++ later, ?_, fun set => ?_⟩
    · cases getsNext with
      | all readNext =>
        rw [← List.flatten_append]
        exact .all (List.rel_append read readNext)
      | upTo readNext failed after =>
        rw [← List.flatten_append, ← List.append_assoc]
        exact .upTo (List.rel_append read readNext) failed after
    · rw [Loading.run_bind, run, ← RuleSet.modify_applyAll]
      exact runNext _
  | upTo read failed after =>
    rw [List.append_assoc, List.cons_append]
    refine ⟨_, _, .upTo read failed (after ++ rest), fun set => ?_⟩
    rw [Loading.run_bind, run]

theorem loads_forM {α : Type} {step : α → Loading Unit} {portion : α → Portion}
    (each : ∀ x, directory.Loads nameType [portion x] (step x)) (xs : List α) :
    directory.Loads nameType (xs.map portion) (xs.forM step) := by
  induction xs with
  | nil => exact loads_nil
  | cons x rest ih => exact (each x).bind ih

def insertAll (directory : RuleDirectory) (nameType : NameType) (languages : List Language) :
    Loading Unit := do
  languages.forM (directory.insertPrimary nameType)
  RuleType.all.forM (directory.insertFinal nameType)
  directory.insertGuessRules nameType
  directory.insertPrefixes nameType

theorem loads_insertAll (directory : RuleDirectory) (nameType : NameType)
    (languages : List Language) :
    directory.Loads nameType (portions languages) (directory.insertAll nameType languages) :=
  (loads_forM loads_insertPrimary languages).bind
    ((loads_forM loads_insertFinal RuleType.all).bind
      (loads_insertGuessRules.bind loads_insertPrefixes))

theorem loadNameType_cases (directory : RuleDirectory) (nameType : NameType) :
    (∃ error, directory.read? (nameType.code ++ "_languages") = .error error ∧
      ∀ set, (directory.loadNameType nameType).run.run set = (.error error, set)) ∨
    (directory.read? (nameType.code ++ "_languages") = .ok none ∧
      ∀ set, (directory.loadNameType nameType).run.run set = (.ok false, set)) ∨
    ∃ text outcome changes, directory.read? (nameType.code ++ "_languages") = .ok (some text) ∧
      directory.Gets nameType (portions (RuleFile.readLanguageList text)) outcome changes ∧
      ∀ set, (directory.loadNameType nameType).run.run set =
        (outcome.map fun _ => true, set.modify nameType (·.applyAll changes)) := by
  rw [loadNameType]
  cases directory.read? (nameType.code ++ "_languages") with
  | error error => exact .inl ⟨error, rfl, fun _ => rfl⟩
  | ok text =>
    rw [Loading.lift_ok_bind]
    cases text with
    | none => exact .inr (.inl ⟨rfl, fun _ => rfl⟩)
    | some text =>
      obtain ⟨outcome, changes, gets, run⟩ :=
        directory.loads_insertAll nameType (RuleFile.readLanguageList text)
      refine .inr (.inr ⟨text, outcome, changes, rfl, gets, fun set => ?_⟩)
      have steps := Loading.run_bind
        (directory.insertAll nameType (RuleFile.readLanguageList text)) (fun _ => pure true) set
      simp only [insertAll, bind_assoc] at steps run
      rw [steps, run]
      cases outcome <;> rfl

/-! ## Whole files -/

/-- A file changes nothing but what belongs to its portion. -/
theorem portion_of_changes {portion : Portion} {changes : List Change}
    (read : directory.changes nameType portion = .ok changes) {change : Change}
    (member : change ∈ changes) : change.portion = portion := by
  cases portion with
  | primary language =>
    obtain ⟨rules, _, rfl⟩ := map_eq_ok_iff.1 read
    rw [List.mem_singleton.1 member]
    rfl
  | final ruleType =>
    obtain ⟨rules, _, rfl⟩ := map_eq_ok_iff.1 read
    rw [List.mem_singleton.1 member]
    rfl
  | guessRules =>
    obtain ⟨rules, _, rfl⟩ := map_eq_ok_iff.1 read
    obtain ⟨rule, _, rfl⟩ := List.mem_map.1 member
    rfl
  | prefixes =>
    obtain ⟨text, _, rfl⟩ := map_eq_ok_iff.1 read
    cases text with
    | none => cases member
    | some text =>
      rw [List.mem_singleton.1 member]
      rfl

section

variable {β : Type} {put? : Change → Option β} {only : Portion}
  (kind : ∀ {change x}, put? change = some x → change.portion = only)
  {read : List Portion} {lists : List (List Change)}

include kind

theorem filterMap_of_ne {portion : Portion} (different : portion ≠ only) {changes : List Change}
    (read : directory.changes nameType portion = .ok changes) : changes.filterMap put? = [] := by
  rw [List.filterMap_eq_nil_iff]
  intro change member
  rw [Option.eq_none_iff_forall_ne_some]
  intro x put
  exact different ((portion_of_changes read member).symm.trans (kind put))

theorem filterMap_of_not_mem (absent : only ∉ read) (reads : directory.Reads nameType read lists) :
    lists.flatten.filterMap put? = [] := by
  induction reads with
  | nil => rfl
  | cons here _ ih =>
    obtain ⟨different, absent⟩ := List.ne_and_not_mem_of_not_mem_cons absent
    rw [List.flatten_cons, List.filterMap_append, filterMap_of_ne kind different.symm here,
      ih absent, List.append_nil]

theorem filterMap_of_reads (once : read.Nodup) (reads : directory.Reads nameType read lists) :
    lists.flatten.filterMap put? = [] ∨
      ∃ changes, directory.changes nameType only = .ok changes ∧
        lists.flatten.filterMap put? = changes.filterMap put? := by
  induction reads with
  | nil => exact .inl rfl
  | @cons portion changes rest later here behind ih =>
    obtain ⟨fresh, once⟩ := List.nodup_cons.1 once
    rw [List.flatten_cons, List.filterMap_append]
    by_cases same : portion = only
    · subst same
      rw [filterMap_of_not_mem kind fresh behind, List.append_nil]
      exact .inr ⟨changes, here, rfl⟩
    · rw [filterMap_of_ne kind same here, List.nil_append]
      exact ih once

theorem lookup_of_reads (lookup : NameTypeRules → Option β)
    (step : ∀ entry change, lookup (Change.apply entry change) = (put? change).or (lookup entry))
    (once : read.Nodup) (reads : directory.Reads nameType read lists) (old : NameTypeRules) :
    lookup (old.applyAll lists.flatten) = lookup old ∨
      ∃ changes, directory.changes nameType only = .ok changes ∧
        lookup (old.applyAll lists.flatten) =
          (changes.filterMap put?).getLast?.or (lookup old) := by
  rw [NameTypeRules.last_applyAll lookup put? step]
  rcases filterMap_of_reads kind once reads with nothing | ⟨changes, read, all⟩
  · rw [nothing]
    exact .inl rfl
  · rw [all]
    exact .inr ⟨changes, read, rfl⟩

end

/-- Every list of an entry is the old one or comes from a whole file. Guess rules come behind old
ones. -/
structure Whole (directory : RuleDirectory) (nameType : NameType) (old new : NameTypeRules) :
    Prop where
  primary : ∀ language, new.primary? language = old.primary? language ∨
    ∃ rules, directory.rules (primaryStem nameType language) = .ok rules ∧
      new.primary? language = some (.ofList rules)
  final : ∀ ruleType, new.final? ruleType = old.final? ruleType ∨
    ∃ rules, directory.rules (finalStem nameType ruleType) = .ok rules ∧
      new.final? ruleType = some (.ofList rules)
  guessRules : new.guessRules = old.guessRules ∨
    ∃ rules, directory.guessRules (nameType.code ++ "_lang") = .ok rules ∧
      new.guessRules = old.guessRules ++ rules
  prefixes : new.prefixes = old.prefixes ∨
    ∃ text, directory.read? (nameType.code ++ "_prefixes") = .ok (some text) ∧
      new.prefixes = some (RuleFile.readPrefixes text)

theorem whole_applyAll {read : List Portion} {lists : List (List Change)} (once : read.Nodup)
    (reads : directory.Reads nameType read lists) (old : NameTypeRules) :
    directory.Whole nameType old (old.applyAll lists.flatten) where
  primary language := by
    rcases lookup_of_reads Change.portion_of_rulesFor? (·.primary? language)
      (NameTypeRules.primary?_apply language) once reads old with same | ⟨changes, read, put⟩
    · exact .inl same
    · obtain ⟨rules, loaded, rfl⟩ := map_eq_ok_iff.1 read
      exact .inr ⟨rules, loaded, put.trans (by simp [Change.rulesFor?])⟩
  final ruleType := by
    rcases lookup_of_reads Change.portion_of_finalRulesFor? (·.final? ruleType)
      (NameTypeRules.final?_apply ruleType) once reads old with same | ⟨changes, read, put⟩
    · exact .inl same
    · obtain ⟨rules, loaded, rfl⟩ := map_eq_ok_iff.1 read
      exact .inr ⟨rules, loaded, put.trans (by simp [Change.finalRulesFor?])⟩
  guessRules := by
    rw [NameTypeRules.guessRules_applyAll]
    rcases filterMap_of_reads Change.portion_of_guessRule? once reads with
      nothing | ⟨changes, read, all⟩
    · rw [nothing]
      exact .inl (List.append_nil _)
    · obtain ⟨rules, loaded, rfl⟩ := map_eq_ok_iff.1 read
      refine .inr ⟨rules, loaded, ?_⟩
      rw [all, List.filterMap_map]
      exact congrArg (old.guessRules ++ ·) List.filterMap_some
  prefixes := by
    rcases lookup_of_reads Change.portion_of_prefixes? (·.prefixes)
      NameTypeRules.prefixes_apply once reads old with same | ⟨changes, read, put⟩
    · exact .inl same
    · obtain ⟨text, loaded, rfl⟩ := map_eq_ok_iff.1 read
      cases text with
      | none => exact .inl put
      | some text => exact .inr ⟨text, loaded, put⟩

theorem nodup_portions {languages : List Language} (once : languages.Nodup) :
    (portions languages).Nodup := by
  rw [portions, List.nodup_append]
  have primaries : (languages.map Portion.primary).Nodup :=
    List.Pairwise.map _ (fun _ _ different same => different (Portion.primary.inj same)) once
  refine ⟨primaries, by decide, ?_⟩
  intro portion primary other rest same
  obtain ⟨language, _, rfl⟩ := List.mem_map.1 primary
  subst same
  simp at rest

/-- What loading a name type leaves in a rule set, which may hold something before. -/
theorem loadNameType_leaves (directory : RuleDirectory) (nameType : NameType) (set : RuleSet) :
    let outcome := ((directory.loadNameType nameType).run.run set).1
    let left := ((directory.loadNameType nameType).run.run set).2
    let languages := directory.read? (nameType.code ++ "_languages")
    (∀ other, other ≠ nameType → left.entry other = set.entry other) ∧
    (outcome = .ok false → left = set) ∧
    (outcome = .ok true → ∃ text lists, languages = .ok (some text) ∧
      directory.Reads nameType (portions (RuleFile.readLanguageList text)) lists ∧
      left.entry nameType = (set.entry nameType).applyAll lists.flatten) ∧
    (∀ error, outcome = .error error →
      (languages = .error error ∧ left = set) ∨
      ∃ text before failing after lists, languages = .ok (some text) ∧
        portions (RuleFile.readLanguageList text) = before ++ failing :: after ∧
        directory.Reads nameType before lists ∧
        directory.changes nameType failing = .error error ∧
        left.entry nameType = (set.entry nameType).applyAll lists.flatten) ∧
    directory.Whole nameType (set.entry nameType) (left.entry nameType) := by
  have unchanged : directory.Whole nameType (set.entry nameType) (set.entry nameType) :=
    whole_applyAll List.nodup_nil .nil (set.entry nameType)
  intro outcome left languages
  rcases directory.loadNameType_cases nameType with
    ⟨error, listed, run⟩ | ⟨listed, run⟩ | ⟨text, outcome', changes, listed, gets, run⟩
  · simp [outcome, left, languages, run, listed, unchanged]
  · simp [outcome, left, languages, run, listed, unchanged]
  · have once : (portions (RuleFile.readLanguageList text)).Nodup :=
      nodup_portions (LanguageSet.nodup _)
    have others : ∀ other, other ≠ nameType → left.entry other = set.entry other := by
      intro other different
      change ((directory.loadNameType nameType).run.run set).2.entry other = _
      rw [run, RuleSet.entry_modify, if_neg different]
    have own : left.entry nameType = (set.entry nameType).applyAll changes := by
      change ((directory.loadNameType nameType).run.run set).2.entry nameType = _
      rw [run, RuleSet.entry_modify_self]
    have ends : outcome = outcome'.map fun _ => true := congrArg Prod.fst (run set)
    rw [ends]
    generalize same : portions (RuleFile.readLanguageList text) = all at gets once
    cases gets with
    | all read =>
      refine ⟨others, nofun, fun _ => ⟨text, _, listed, same ▸ read, own⟩, nofun, ?_⟩
      exact own ▸ whole_applyAll once read _
    | upTo read failed after =>
      refine ⟨others, nofun, nofun, ?_, ?_⟩
      · rintro _ ⟨⟩
        exact .inr ⟨text, _, _, after, _, listed, same, read, failed, own⟩
      · exact own ▸ whole_applyAll (once.sublist (List.sublist_append_left _ _)) read _

/-- The second guess rule cannot be read, so the first is not stored. What came before is. -/
theorem loadNameType_leaves_no_guess_rule :
    let directory := ofGuesses "a french true\nb french maybe"
    let set := (RuleSet.empty.declareLanguage .generic ⟨"french"⟩).declareLanguage .ashkenazi .any
    let outcome := ((directory.loadNameType .generic).run.run set).1
    let left := ((directory.loadNameType .generic).run.run set).2
    let error := LoadError.malformed ⟨"gen_lang.txt", 2, .notTrueOrFalse "maybe"⟩
    outcome = .error error ∧
      left.entry .ashkenazi = set.entry .ashkenazi ∧
      (∃ failing ∈ portions [.any, ⟨"french"⟩],
        directory.changes .generic failing = .error error) ∧
      (left.entry .generic).languages = [⟨"french"⟩, .any] ∧
      (left.entry .generic).guessRules = [] ∧
      (left.entry .generic).exact.map (·.size) = some 0 := by
  intro directory set
  have computed : ((directory.loadNameType .generic).run.run set).1 =
        .error (.malformed ⟨"gen_lang.txt", 2, .notTrueOrFalse "maybe"⟩) ∧
      (((directory.loadNameType .generic).run.run set).2.entry .generic).languages =
        [⟨"french"⟩, .any] ∧
      (((directory.loadNameType .generic).run.run set).2.entry .generic).guessRules.isEmpty ∧
      (((directory.loadNameType .generic).run.run set).2.entry .generic).exact.map (·.size) =
        some 0 := by
    decide +kernel
  obtain ⟨failed, languages, guessRules, final⟩ := computed
  obtain ⟨others, _, _, broken, _⟩ := directory.loadNameType_leaves .generic set
  refine ⟨failed, others .ashkenazi (by decide), ?_, languages, List.isEmpty_iff.1 guessRules,
    final⟩
  have readable : directory.read? "gen_languages" = .ok (some "any\nfrench") := by decide +kernel
  have named : RuleFile.readLanguageList "any\nfrench" = [.any, ⟨"french"⟩] := by decide +kernel
  rcases broken _ failed with
    ⟨unreadable, _⟩ | ⟨text, before, failing, after, _, read, all, _, error, _⟩
  · cases readable.symm.trans unreadable
  · cases readable.symm.trans read
    exact ⟨failing, by rw [← named, all]; simp, error⟩

end RuleDirectory

end Homophone
