import Homophone.Proofs.FirstDistinct
import Homophone.RuleTable

/-! The languages that are guessed of a word.

A language is guessed if a rule that matches the word speaks for it and none speaks against it. That
is a matter of which rules there are, not of their order or of how often one is given. The order only
decides in which order languages are reported that are not declared.
-/

set_option autoImplicit false

namespace Homophone

namespace LanguageSet

theorem members_eraseAll (set : LanguageSet) (languages : List Language) :
    (set.eraseAll languages).members = set.members.filter (· ∉ languages) := by
  induction languages generalizing set with
  | nil => simp [eraseAll]
  | cons first rest ih =>
    change ((set.erase first).eraseAll rest).members = _
    rw [ih, erase, List.filter_filter]
    apply List.filter_congr
    intro language _
    rw [Bool.eq_iff_iff]
    simp [and_comm]

end LanguageSet

namespace Guesser

variable {guesser : Guesser} {word : String} {language : Language}

/-! ## What the rules say -/

def mentions (guesser : Guesser) (accepts : Bool) (word : String) : List Language :=
  (guesser.rules.filter fun rule =>
    rule.accepts == accepts && rule.matchesWord (caseless word.toList)).flatMap (·.languages.members)

def Names (guesser : Guesser) (accepts : Bool) (word : String) (language : Language) : Prop :=
  ∃ rule ∈ guesser.rules, rule.accepts = accepts ∧
    rule.matchesWord (caseless word.toList) = true ∧ language ∈ rule.languages

/-- Some matching rule speaks for the language, and none speaks against it. -/
def Favours (guesser : Guesser) (word : String) (language : Language) : Prop :=
  guesser.Names true word language ∧ ¬guesser.Names false word language

instance (accepts : Bool) : Decidable (guesser.Names accepts word language) :=
  inferInstanceAs (Decidable (∃ rule ∈ guesser.rules, rule.accepts = accepts ∧
    rule.matchesWord (caseless word.toList) = true ∧ language ∈ rule.languages))

instance : Decidable (guesser.Favours word language) :=
  inferInstanceAs (Decidable (_ ∧ ¬_))

theorem mem_mentions {accepts : Bool} :
    language ∈ guesser.mentions accepts word ↔ guesser.Names accepts word language := by
  simp only [mentions, Names, List.mem_flatMap, List.mem_filter, Bool.and_eq_true, beq_iff_eq,
    and_assoc]
  rfl

theorem members_named (guesser : Guesser) (accepts : Bool) (word : String) :
    (guesser.named accepts (caseless word.toList)).members =
      (guesser.mentions accepts word).eraseDups :=
  LanguageSet.members_ofList _

/-! ## The guess -/

/-- The languages that the rules favour, each once: declared ones in their order, then the others as
the rules come to them. -/
def favoured (guesser : Guesser) (word : String) : List Language :=
  (guesser.declared.filter (guesser.Favours word ·)).eraseDups ++
    ((guesser.mentions true word).filter fun language =>
      guesser.Favours word language ∧ language ∉ guesser.declared).eraseDups

theorem mem_favoured : language ∈ guesser.favoured word ↔ guesser.Favours word language := by
  simp only [favoured, List.mem_append, List.mem_eraseDups, List.mem_filter, decide_eq_true_eq,
    mem_mentions]
  constructor
  · rintro (⟨_, favours⟩ | ⟨_, favours, _⟩)
    · exact favours
    · exact favours
  · intro favours
    by_cases declared : language ∈ guesser.declared
    · exact .inl ⟨declared, favours⟩
    · exact .inr ⟨favours.1, favours, declared⟩

theorem nodup_favoured (guesser : Guesser) (word : String) : (guesser.favoured word).Nodup := by
  refine List.nodup_append.2 ⟨nodup_eraseDups _, nodup_eraseDups _, ?_⟩
  intro first declared second undeclared same
  rw [List.mem_eraseDups] at declared undeclared
  have absent := (of_decide_eq_true (List.mem_filter.1 undeclared).2).2
  exact absent (same ▸ List.mem_of_mem_filter declared)

/-- What is put together of declared and accepted languages, and then cut down by the rejected ones. -/
theorem members_eraseAll_named (guesser : Guesser) (word : String) :
    let accepted := guesser.named true (caseless word.toList)
    let rejected := guesser.named false (caseless word.toList)
    (((LanguageSet.ofList (guesser.declared.filter (accepted.contains ·))).insertAll
      accepted.members).eraseAll rejected.members).members = guesser.favoured word := by
  intro accepted rejected
  have members : accepted.members = (guesser.mentions true word).eraseDups :=
    guesser.members_named true word
  have isAccepted (language : Language) :
      accepted.contains language = decide (guesser.Names true word language) := by
    have known : language ∈ accepted ↔ guesser.Names true word language := by
      change language ∈ accepted.members ↔ _
      rw [members, List.mem_eraseDups, mem_mentions]
    exact decide_eq_decide.2 known
  have isRejected (language : Language) :
      language ∈ rejected.members ↔ guesser.Names false word language := by
    rw [members_named, List.mem_eraseDups, mem_mentions]
  -- Inserting and erasing come down to first mentions of one list, without the rejected ones.
  have gathered : (((LanguageSet.ofList (guesser.declared.filter (accepted.contains ·))).insertAll
      accepted.members).eraseAll rejected.members).members =
      ((guesser.declared.filter (guesser.Favours word ·)) ++
        (guesser.mentions true word).filter (guesser.Favours word ·)).eraseDups := by
    rw [LanguageSet.members_eraseAll, LanguageSet.members_insertAll, LanguageSet.members_ofList,
      members, eraseDups_append_congr (eraseDups_eraseDups _) (eraseDups_eraseDups _),
      ← eraseDups_filter, List.filter_append, List.filter_filter]
    congr 2
    · apply List.filter_congr
      intro language _
      rw [isAccepted, Bool.eq_iff_iff]
      simp [Favours, isRejected, and_comm]
    · apply List.filter_congr
      intro language mentioned
      rw [Bool.eq_iff_iff]
      simp [Favours, isRejected, mem_mentions.1 mentioned]
  rw [gathered, List.eraseDups_append, favoured, List.removeAll, List.filter_filter]
  congr 2
  apply List.filter_congr
  intro language _
  rw [Bool.eq_iff_iff]
  simp only [Bool.and_eq_true, Bool.not_eq_true', List.elem_eq_mem, decide_eq_true_eq,
    decide_eq_false_iff_not, List.mem_filter]
  constructor
  · rintro ⟨other, favours⟩
    exact ⟨favours, fun declared => other ⟨declared, favours⟩⟩
  · rintro ⟨favours, undeclared⟩
    exact ⟨fun both => undeclared both.1, favours⟩

theorem guess_eq (guesser : Guesser) (word : String) :
    (guesser.guess word).members =
      if guesser.favoured word = [] then guesser.fallback.members else guesser.favoured word := by
  have same := guesser.members_eraseAll_named word
  rw [guess]
  dsimp only at same ⊢
  rw [LanguageSet.isEmpty, same]
  cases favoured : guesser.favoured word with
  | nil => rfl
  | cons first rest => exact same.trans favoured

theorem favoured_eq_nil_iff :
    guesser.favoured word = [] ↔ ∀ language, ¬guesser.Favours word language := by
  simp only [List.eq_nil_iff_forall_not_mem, mem_favoured]

theorem guess_eq_nil_iff :
    (guesser.guess word).members = [] ↔
      guesser.fallback.members = [] ∧ ∀ language, ¬guesser.Favours word language := by
  rw [guess_eq, ← favoured_eq_nil_iff]
  split
  · next empty => simp [empty]
  · next favoured => simp [favoured]

theorem mem_guess_iff :
    language ∈ (guesser.guess word).members ↔ guesser.Favours word language ∨
      language ∈ guesser.fallback.members ∧ ∀ other, ¬guesser.Favours word other := by
  rw [guess_eq, ← favoured_eq_nil_iff, ← mem_favoured]
  split
  · next empty => simp [empty]
  · next favoured => simp [favoured]

/-! ## Other lists of the same rules -/

section

variable {rules : List GuessRule} (same : ∀ rule, rule ∈ rules ↔ rule ∈ guesser.rules)

include same

theorem names_congr (accepts : Bool) :
    { guesser with rules }.Names accepts word language ↔ guesser.Names accepts word language := by
  simp only [Names, same]

theorem favours_congr :
    { guesser with rules }.Favours word language ↔ guesser.Favours word language := by
  simp only [Favours, names_congr same]

theorem mem_guess_congr :
    language ∈ ({ guesser with rules }.guess word).members ↔
      language ∈ (guesser.guess word).members := by
  simp only [mem_guess_iff, favours_congr same]

/-- First mentions alone may differ between lists of the same rules. -/
theorem guess_congr
    (order : ((guesser.mentions true word).filter (· ∉ guesser.declared)).eraseDups =
      (({ guesser with rules }.mentions true word).filter (· ∉ guesser.declared)).eraseDups) :
    { guesser with rules }.guess word = guesser.guess word := by
  have favours (other : Language) :
      decide ({ guesser with rules }.Favours word other) = decide (guesser.Favours word other) :=
    decide_eq_decide.2 (favours_congr same)
  have undeclared (mentioned : List Language) :
      (mentioned.filter fun language =>
        guesser.Favours word language ∧ language ∉ guesser.declared).eraseDups =
      ((mentioned.filter (· ∉ guesser.declared)).eraseDups).filter (guesser.Favours word ·) := by
    rw [← eraseDups_filter, List.filter_filter]
    simp only [Bool.decide_and]
  have favoured : { guesser with rules }.favoured word = guesser.favoured word := by
    rw [Guesser.favoured, Guesser.favoured]
    simp only [Bool.decide_and, favours]
    simp only [← Bool.decide_and]
    rw [undeclared, undeclared, order]
  apply LanguageSet.ext
  rw [guess_eq, guess_eq, favoured]

end

theorem mentions_append (guesser : Guesser) (accepts : Bool) (word : String)
    (later : List GuessRule) :
    { guesser with rules := guesser.rules ++ later }.mentions accepts word =
      guesser.mentions accepts word ++ { guesser with rules := later }.mentions accepts word := by
  simp only [mentions, List.filter_append, List.flatMap_append]

theorem guess_append_of_subset {later : List GuessRule} (again : later ⊆ guesser.rules)
    (word : String) :
    { guesser with rules := guesser.rules ++ later }.guess word = guesser.guess word := by
  refine guess_congr (fun rule => ?_) ?_
  · rw [List.mem_append]
    exact or_iff_left_of_imp (again ·)
  · rw [mentions_append, List.filter_append]
    refine (eraseDups_append_of_subset fun language member => ?_).symm
    obtain ⟨mentioned, undeclared⟩ := List.mem_filter.1 member
    obtain ⟨rule, listed, rest⟩ := mem_mentions.1 mentioned
    exact List.mem_filter.2 ⟨mem_mentions.2 ⟨rule, again listed, rest⟩, undeclared⟩

end Guesser

end Homophone
