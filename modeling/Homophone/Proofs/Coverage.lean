import Homophone.Proofs.NameEncoding

/-! What is checked of an encoder covers every run.

A guess only names languages that are declared, that a guess rule names or that are the fallback, and
all of these have been found to have rules. So no rules are ever missing, and every word has an
alternative.
-/

set_option autoImplicit false

namespace Homophone

/-! ## Guesses -/

namespace Guesser

theorem mem_named {guesser : Guesser} {accepts : Bool} {text : List Char} {language : Language}
    (member : language ∈ guesser.named accepts text) :
    ∃ rule ∈ guesser.rules, language ∈ rule.languages := by
  rw [named, LanguageSet.mem_ofList] at member
  obtain ⟨rule, selected, member⟩ := List.mem_flatMap.1 member
  exact ⟨rule, List.mem_of_mem_filter selected, member⟩

theorem mem_guess {guesser : Guesser} {word : String} {language : Language}
    (member : language ∈ guesser.guess word) :
    language ∈ guesser.declared ∨ (∃ rule ∈ guesser.rules, language ∈ rule.languages) ∨
      language ∈ guesser.fallback := by
  rw [guess] at member
  -- What speaks against languages only takes some away.
  split at member
  · exact .inr (.inr member)
  · simp only [LanguageSet.mem_eraseAll, LanguageSet.mem_insertAll, LanguageSet.mem_ofList] at member
    rcases member.1 with declared | accepted
    · exact .inl (List.mem_of_mem_filter declared)
    · exact .inr (.inl (mem_named accepted))

end Guesser

/-! ## Words have transcriptions -/

theorem choices_ne_nil {lists : List (List String)} (each : ∀ texts ∈ lists, texts ≠ []) :
    choices lists ≠ [] := by
  induction lists with
  | nil => exact List.cons_ne_nil _ _
  | cons texts rest ih =>
    rw [List.forall_mem_cons] at each
    obtain ⟨first, here⟩ := List.exists_mem_of_ne_nil texts each.1
    obtain ⟨last, later⟩ := List.exists_mem_of_ne_nil _ (ih each.2)
    have chosen : first ++ last ∈ choices (texts :: rest) :=
      List.mem_flatMap.2 ⟨first, here, List.mem_map.2 ⟨last, later, rfl⟩⟩
    exact List.ne_nil_of_mem chosen

theorem eraseDups_ne_nil {texts : List String} (nonempty : texts ≠ []) : texts.eraseDups ≠ [] := by
  obtain ⟨text, member⟩ := List.exists_mem_of_ne_nil texts nonempty
  exact List.ne_nil_of_mem (List.mem_eraseDups.2 member)

theorem take_ne_nil {texts : List String} {n : Nat} (positive : 0 < n) (nonempty : texts ≠ []) :
    texts.take n ≠ [] := by
  simp [nonempty, Nat.ne_of_gt positive]

theorem RuleList.Cuts.alternatives_ne_nil {list : RuleList} {language : Option Language}
    {word : String} {offset : Nat} {segments : List Segment}
    (cuts : list.Cuts language word offset segments) :
    ∀ segment ∈ segments, segment.alternatives ≠ [] := by
  induction cuts with
  | finished => simp
  -- A rule without alternatives for the language is not used.
  | @replaced _ rule _ first _ ih =>
    have usable := List.find?_some first
    rw [Rule.isUsableAt, Bool.and_eq_true, Bool.not_eq_true', List.isEmpty_eq_false_iff] at usable
    exact List.forall_mem_cons.2 ⟨usable.2, ih⟩
  | copied _ _ _ ih => exact List.forall_mem_cons.2 ⟨List.cons_ne_nil _ _, ih⟩

theorem RuleList.transcriptions_ne_nil (list : RuleList) (language : Option Language)
    (word : String) : list.transcriptions language word ≠ [] := by
  have cuts := list.cuts_segmentsFrom language word 0 (Text.isBoundary_zero word.toList)
  refine eraseDups_ne_nil (choices_ne_nil ?_)
  intro texts listed
  obtain ⟨segment, known, rfl⟩ := List.mem_map.1 listed
  exact cuts.alternatives_ne_nil segment known

namespace Encoder

variable {encoder : Encoder}

/-! ## Languages have rules -/

theorem mem_reachable_of_guess {table : RuleTable} {nameType : NameType} {word : String}
    {language : Language} (member : language ∈ (table.guesser nameType).guess word) :
    language ∈ reachable table nameType := by
  simp only [reachable, LanguageSet.mem_insertAll, LanguageSet.mem_ofList]
  rcases Guesser.mem_guess member with declared | ⟨rule, listed, named⟩ | fallback
  · exact .inl (.inl declared)
  · exact .inr (List.mem_flatMap.2 ⟨rule, listed, named⟩)
  · exact .inl (.inr fallback)

/-- The merging of the transcriptions in each language, stopped by a language without rules. -/
def strictPrimary? (encoder : Encoder) (word : String) (languages : LanguageSet) (width : Nat) :
    Option Frontier :=
  languages.members.foldlM (fun merged language =>
    if merged.isFull then some merged
    else (encoder.rules language).map fun rules =>
      merged.union (rules.apply (some language) width word)) (.new width)

theorem strictPrimary?_of_served {languages : LanguageSet}
    (served : ∀ language ∈ languages.members, (encoder.rules language).isSome = true)
    (word : String) (width : Nat) :
    encoder.strictPrimary? word languages width =
      some (encoder.applyPrimary word languages width) := by
  rw [strictPrimary?, applyPrimary]
  generalize languages.members = members at served
  generalize Frontier.new width = merged
  induction members generalizing merged with
  | nil => rfl
  | cons language rest ih =>
    rw [List.forall_mem_cons] at served
    obtain ⟨rules, given⟩ := Option.isSome_iff_exists.1 served.1
    rw [List.foldlM_cons, List.foldl_cons, given]
    split
    · exact ih served.2 _
    · exact ih served.2 _

/-! ## Words have alternatives -/

theorem rawCandidates_ne_nil {languages : LanguageSet} (nonempty : languages.members ≠ [])
    (served : ∀ language ∈ languages.members, (encoder.rules language).isSome = true)
    (word : String) : encoder.rawCandidates languages word ≠ [] := by
  obtain ⟨language, member⟩ := List.exists_mem_of_ne_nil _ nonempty
  obtain ⟨rules, given⟩ := Option.isSome_iff_exists.1 (served language member)
  have written : encoder.rawOf word language ≠ [] := by
    simp only [rawOf, given]
    exact rules.transcriptions_ne_nil (some language) word
  obtain ⟨text, raw⟩ := List.exists_mem_of_ne_nil _ written
  exact eraseDups_ne_nil (List.ne_nil_of_mem (List.mem_flatMap.2 ⟨language, member, raw⟩))

theorem finalized_ne_nil {languages : LanguageSet} {word : String}
    (raw : encoder.rawCandidates languages word ≠ []) (finals : RuleList) {width : Nat}
    (positive : 0 < width) : encoder.finalized finals languages word width ≠ [] := by
  obtain ⟨candidate, member⟩ := List.exists_mem_of_ne_nil _ (take_ne_nil positive raw)
  obtain ⟨text, written⟩ := List.exists_mem_of_ne_nil _ (finals.transcriptions_ne_nil none candidate)
  exact List.ne_nil_of_mem (List.mem_flatMap.2 ⟨candidate, member, written⟩)

theorem encodeWithLanguages_eq_ok_iff {name : String} {languages : LanguageSet} :
    (∃ encoding, encoder.encodeWithLanguages name languages = .ok encoding) ↔
      languages.members ≠ [] ∧
        ∀ language ∈ languages.members, (encoder.rules language).isSome = true := by
  constructor
  · rintro ⟨encoding, accepted⟩
    rw [encodeWithLanguages] at accepted
    cases empty : languages.isEmpty with
    | true =>
      rw [empty] at accepted
      cases accepted
    | false =>
      rw [empty] at accepted
      cases checked : checkLanguages encoder.table encoder.settings languages.members with
      | error error =>
        rw [checked] at accepted
        cases accepted
      | ok _ =>
        exact ⟨List.isEmpty_eq_false_iff.1 empty, checkLanguages_eq_ok_iff.1 checked⟩
  · rintro ⟨nonempty, served⟩
    exact ⟨_, encodeWithLanguages_of_served nonempty served name⟩

/-- Over an encoder that was built, no rules are missing where words are encoded: neither those of a
guessed language, so that a merging that stops for want of rules gives the same, nor the final ones.
And in languages that have rules, guessed or given, a word has an alternative, and no more than the
cap, all different. -/
theorem encodeWord_covered {table : RuleTable} {settings : Settings} {encoder : Encoder}
    (built : new table settings = .ok encoder) :
    (∀ word, ∀ language ∈ (encoder.guessLanguages word).members,
      (table.rules settings.nameType settings.ruleType language).isSome = true) ∧
    (∀ word width, encoder.strictPrimary? word (encoder.guessLanguages word) width =
      some (encoder.applyPrimary word (encoder.guessLanguages word) width)) ∧
    (∃ finals, table.finalRules settings.nameType settings.ruleType = some finals ∧
      ∀ explicit word, encoder.encodeWord explicit word =
        encoder.finalizeFrom finals word (explicit.getD (encoder.guessLanguages word))
          encoder.settings.maxPhonemes (Settings.maxPhonemes_pos encoder.valid)) ∧
    (∀ name languages, (∃ encoding, encoder.encodeWithLanguages name languages = .ok encoding) ↔
      languages.members ≠ [] ∧ ∀ language ∈ languages.members,
        (table.rules settings.nameType settings.ruleType language).isSome = true) ∧
    ∀ (explicit : Option LanguageSet) (word : String),
      let languages := explicit.getD (encoder.guessLanguages word)
      let alternatives := (encoder.encodeWord explicit word).toList
      languages.members ≠ [] →
      (∀ language ∈ languages.members,
        (table.rules settings.nameType settings.ruleType language).isSome = true) →
      alternatives ≠ [] ∧ alternatives.length ≤ settings.maxPhonemes ∧ alternatives.Nodup := by
  obtain ⟨rfl, rfl, _, reached, finals, given⟩ := of_new built
  have served : ∀ word, ∀ language ∈ (encoder.guessLanguages word).members,
      (encoder.rules language).isSome = true :=
    fun word language member => reached language (mem_reachable_of_guess member)
  have final : encoder.finalRules = some finals := given
  refine ⟨served, fun word => strictPrimary?_of_served (served word) word, ⟨finals, given, ?_⟩,
    fun name languages => encodeWithLanguages_eq_ok_iff, ?_⟩
  · intro explicit word
    rw [encodeWord]
    simp only [final]
  · intro explicit word languages alternatives nonempty served
    have positive := Settings.maxPhonemes_pos encoder.valid
    refine ⟨?_, length_encodeWord_le final explicit word, nodup_encodeWord final explicit word⟩
    -- Every pass has raw candidates to finalize, and none is finalized to nothing.
    obtain ⟨width, wide, kept⟩ := exists_width_encodeWord final explicit word
    have raw : encoder.rawCandidates languages word ≠ [] := rawCandidates_ne_nil nonempty served word
    have written := finalized_ne_nil raw finals wide
    rw [show alternatives = _ from kept]
    exact take_ne_nil positive (eraseDups_ne_nil written)

def guessTable : RuleTable :=
  { vowelTable with
    guessRules := fun _ => (GuessRule.new "eau$" (.ofList [⟨"french"⟩]) true).toOption.toList }

theorem encodeWord_covered_guessed :
    ∃ encoder, new guessTable { maxPhonemes := 1 } = .ok encoder ∧
      (encoder.guessLanguages "bateau").members = [⟨"french"⟩] ∧
      (guessTable.rules .generic .approx ⟨"french"⟩).isSome = true ∧
      (encoder.encodeWord none "bateau").toList.length = 1 := by
  have run : (new guessTable { maxPhonemes := 1 }).toOption.map
      (fun encoder => (encoder.guessLanguages "bateau").members) = some [⟨"french"⟩] := by
    decide +kernel
  cases built : new guessTable { maxPhonemes := 1 } with
  | error error =>
    rw [built] at run
    cases run
  | ok encoder =>
    rw [built] at run
    have guessed : (encoder.guessLanguages "bateau").members = [⟨"french"⟩] := Option.some.inj run
    obtain ⟨served, _, _, _, alternatives⟩ := encodeWord_covered built
    obtain ⟨nonempty, few, _⟩ := alternatives none "bateau" (by simp [guessed]) (served "bateau")
    have positive := List.length_pos_iff.2 nonempty
    exact ⟨encoder, rfl, guessed, served "bateau" _ (by simp [guessed]), Nat.le_antisymm few positive⟩

end Encoder

end Homophone
