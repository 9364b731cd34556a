import Homophone.Proofs.Guesses
import Homophone.Proofs.PartialLoads

/-! A directory that is loaded again.

Loading changes a name type in the same way whatever there is. So the second time no language is new
and the guess rules stand there again, and the same languages are guessed. That is a case of guess
rules that are given in another order or repeated.
-/

set_option autoImplicit false

namespace Homophone

namespace NameTypeRules

theorem languages_applyAll_again (entry : NameTypeRules) (changes : List Change) :
    ((entry.applyAll changes).applyAll changes).languages = (entry.applyAll changes).languages := by
  rw [languages_applyAll, languages_applyAll]
  exact declareAll_of_subset fun _ member => mem_declareAll.2 (.inr member)

end NameTypeRules

namespace RuleDirectory

variable {directory : RuleDirectory} {nameType : NameType}

/-- A name type that loads once does so again. It keeps its languages and repeats its guess rules. -/
theorem exists_reload {base once : RuleSet} {found : Bool}
    (loaded : (directory.loadNameType nameType).run.run base = (.ok found, once)) :
    ∃ twice, (directory.loadNameType nameType).run.run once = (.ok found, twice) ∧
      ∃ repeated, repeated ⊆ (once.entry nameType).guessRules ∧
        twice.toTable.guesser nameType =
          { once.toTable.guesser nameType with
            rules := (once.toTable.guesser nameType).rules ++ repeated } := by
  rcases directory.loadNameType_cases nameType with
    ⟨error, _, run⟩ | ⟨_, run⟩ | ⟨text, outcome, changes, _, _, run⟩
  · rw [run] at loaded
    cases loaded
  · rw [run] at loaded
    cases loaded
    refine ⟨base, run base, [], List.nil_subset _, ?_⟩
    rw [List.append_nil]
  · -- The same portions change both sets.
    rw [run] at loaded
    obtain ⟨ended, rfl⟩ := Prod.mk.inj loaded
    refine ⟨_, (run _).trans (by rw [ended]), changes.filterMap Change.guessRule?, ?_, ?_⟩
    · rw [RuleSet.entry_modify_self, NameTypeRules.guessRules_applyAll]
      exact List.subset_append_right _ _
    · change Guesser.mk (RuleSet.entry _ _).guessRules (RuleSet.entry _ _).languages .any =
        Guesser.mk ((RuleSet.entry _ _).guessRules ++ _) (RuleSet.entry _ _).languages .any
      rw [RuleSet.entry_modify_self, RuleSet.entry_modify_self,
        NameTypeRules.languages_applyAll_again,
        NameTypeRules.guessRules_applyAll _ changes]

end RuleDirectory

namespace Guesser

/-- The languages guessed are those that the rules favour, or the fallback. Only the order of
undeclared ones depends on how the rules are ordered, and repeating some at the end changes nothing,
as when a name type is loaded twice. -/
theorem guess_of_rules (guesser : Guesser) (word : String) :
    (guesser.guess word).members =
      (if guesser.favoured word = [] then guesser.fallback.members else guesser.favoured word) ∧
    (guesser.favoured word).Nodup ∧
    (∀ language, language ∈ guesser.favoured word ↔ guesser.Favours word language) ∧
    (∀ rules : List GuessRule, (∀ rule, rule ∈ rules ↔ rule ∈ guesser.rules) →
      (∀ language, language ∈ ({ guesser with rules }.guess word).members ↔
        language ∈ (guesser.guess word).members) ∧
      ((∀ language, guesser.Names true word language → language ∈ guesser.declared) →
        { guesser with rules }.guess word = guesser.guess word) ∧
      (guesser.rules <+: rules → { guesser with rules }.guess word = guesser.guess word)) ∧
    ∀ (directory : RuleDirectory) (nameType : NameType) (base once : RuleSet) (found : Bool),
      (directory.loadNameType nameType).run.run base = (.ok found, once) →
      ∃ twice, (directory.loadNameType nameType).run.run once = (.ok found, twice) ∧
        (twice.toTable.guesser nameType).guess word =
          (once.toTable.guesser nameType).guess word := by
  refine ⟨guesser.guess_eq word, guesser.nodup_favoured word, fun _ => mem_favoured, ?_, ?_⟩
  · intro rules same
    refine ⟨fun _ => mem_guess_congr same, fun declared => guess_congr same ?_, ?_⟩
    -- Without undeclared languages there are none to be put in order.
    · have unmentioned {mentioned : List Language}
          (names : ∀ language ∈ mentioned, guesser.Names true word language) :
          mentioned.filter (· ∉ guesser.declared) = [] := by
        rw [List.filter_eq_nil_iff]
        intro language member undeclared
        exact of_decide_eq_true undeclared (declared language (names language member))
      rw [unmentioned fun _ => mem_mentions.1, unmentioned fun _ member =>
        (names_congr same true).1 (mem_mentions.1 member)]
    · rintro ⟨later, rfl⟩
      exact guess_append_of_subset (fun rule member => (same rule).1 (List.mem_append_right _ member))
        word
  · intro directory nameType base once found loaded
    obtain ⟨twice, reloaded, repeated, known, rules⟩ := RuleDirectory.exists_reload loaded
    refine ⟨twice, reloaded, ?_⟩
    rw [rules]
    exact guess_append_of_subset known word

theorem guess_of_rules_reloaded :
    ∃ once twice : RuleSet,
      ((RuleDirectory.ofGuesses "a french true\nb french false").loadNameType .generic).run.run {} =
        (.ok true, once) ∧
      ((RuleDirectory.ofGuesses "a french true\nb french false").loadNameType .generic).run.run once =
        (.ok true, twice) ∧
      let guesser := once.toTable.guesser .generic
      (guesser.guess "a").members = [⟨"french"⟩] ∧
      (∀ language, language ∈ ({ guesser with rules := guesser.rules.reverse }.guess "a").members ↔
        language ∈ (guesser.guess "a").members) ∧
      { guesser with rules := guesser.rules.reverse }.guess "a" = guesser.guess "a" ∧
      { guesser with rules := guesser.rules ++ guesser.rules }.guess "a" = guesser.guess "a" ∧
      (twice.toTable.guesser .generic).guess "a" = guesser.guess "a" := by
  generalize loading :
    ((RuleDirectory.ofGuesses "a french true\nb french false").loadNameType .generic).run.run {} = run
  have computed : run.1.toOption.map (fun found => (found,
      (run.2.toTable.guesser .generic).favoured "a",
      (run.2.toTable.guesser .generic).mentions true "a",
      (run.2.toTable.guesser .generic).declared)) =
      some (true, [⟨"french"⟩], [⟨"french"⟩], [.any, ⟨"french"⟩]) := by
    rw [← loading]
    decide +kernel
  obtain ⟨outcome, once⟩ := run
  cases outcome with
  | error error => cases computed
  | ok found =>
    obtain ⟨rfl, favoured, mentioned, declared⟩ : found = true ∧
        (once.toTable.guesser .generic).favoured "a" = [⟨"french"⟩] ∧
        (once.toTable.guesser .generic).mentions true "a" = [⟨"french"⟩] ∧
        (once.toTable.guesser .generic).declared = [.any, ⟨"french"⟩] := by
      simpa [Except.toOption] using computed
    obtain ⟨members, _, _, others, again⟩ :=
      guess_of_rules (once.toTable.guesser .generic) "a"
    obtain ⟨twice, reloaded, unchanged⟩ := again _ .generic {} once true loading
    refine ⟨once, twice, rfl, reloaded, ?_⟩
    intro guesser
    have reversed : ∀ rule, rule ∈ guesser.rules.reverse ↔ rule ∈ guesser.rules :=
      fun _ => List.mem_reverse
    refine ⟨?_, (others _ reversed).1, (others _ reversed).2.1 ?_, ?_, unchanged⟩
    · rw [members, favoured]
      rfl
    · intro language names
      rw [← mem_mentions, mentioned] at names
      rw [declared]
      exact List.mem_cons_of_mem _ names
    · exact (others _ fun rule => by simp [guesser]).2.2 (List.prefix_append _ _)

end Guesser

end Homophone
