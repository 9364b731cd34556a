import Homophone.Proofs.Coverage
import Homophone.Proofs.Guesses

/-! Words that have no alternatives.

An encoder that was built has rules for every language that is guessed, so a word has alternatives
exactly if some language is guessed. One word without any leaves none to the whole name. Nothing is
asked of the fallback, though, and a word that no rule settles has the fallback for its languages.
-/

set_option autoImplicit false

namespace Homophone

theorem choices_eq_nil_iff {lists : List (List String)} : choices lists = [] ↔ [] ∈ lists := by
  constructor
  · intro empty
    by_contra absent
    exact choices_ne_nil (fun texts listed nothing => absent (nothing ▸ listed)) empty
  · intro listed
    induction lists with
    | nil => cases listed
    | cons texts rest ih =>
      change Frontier.products texts (choices rest) = []
      rcases List.mem_cons.1 listed with rfl | later
      · rfl
      · rw [ih later, products_nil_right]

theorem firstDistinct_eq_nil_iff {n : Nat} (positive : 0 < n) {texts : List String} :
    firstDistinct n texts = [] ↔ texts = [] := by
  constructor
  · intro empty
    by_contra nonempty
    exact take_ne_nil positive (eraseDups_ne_nil nonempty) empty
  · rintro rfl
    exact List.take_nil

namespace Encoder

variable {table : RuleTable} {settings : Settings} {encoder : Encoder}

theorem encodeWord_eq_nil_iff (built : new table settings = .ok encoder) (word : String) :
    (encoder.encodeWord none word).toList = [] ↔ (encoder.guessLanguages word).members = [] := by
  obtain ⟨rfl, rfl, _, reached, finals, final⟩ := of_new built
  have served : ∀ language ∈ (encoder.guessLanguages word).members,
      (encoder.rules language).isSome = true :=
    fun language member => reached language (mem_reachable_of_guess member)
  have final : encoder.finalRules = some finals := final
  obtain ⟨width, wide, kept⟩ := exists_width_encodeWord final none word
  rw [kept, firstDistinct_eq_nil_iff (Settings.maxPhonemes_pos encoder.valid)]
  change encoder.finalized finals (encoder.guessLanguages word) word width = [] ↔ _
  constructor
  · intro empty
    by_contra nonempty
    exact finalized_ne_nil (rawCandidates_ne_nil nonempty served word) finals wide empty
  · intro empty
    simp [finalized, rawCandidates, empty]

/-- Over an encoder that was built, no language is guessed exactly if the rules favour none and the
fallback is empty, and words that follow one another have no alternative exactly if that is so for
one of them. So if the fallback has a language, nothing is lost. -/
theorem alternatives_of_guesses (built : new table settings = .ok encoder) :
    (∀ word, (encoder.guessLanguages word).members = [] ↔
      (table.fallbackLanguages settings.nameType).members = [] ∧
        ∀ language, ¬(table.guesser settings.nameType).Favours word language) ∧
    (∀ words, (encoder.concatenate none words).toList = [] ↔
      ∃ word ∈ words, (encoder.guessLanguages word).members = []) ∧
    ((table.fallbackLanguages settings.nameType).members ≠ [] →
      (∀ word, (encoder.guessLanguages word).members ≠ [] ∧
        (encoder.encodeWord none word).toList ≠ []) ∧
      ∀ words, (encoder.concatenate none words).toList ≠ []) := by
  have guesses (word : String) : (encoder.guessLanguages word).members = [] ↔
      (table.fallbackLanguages settings.nameType).members = [] ∧
        ∀ language, ¬(table.guesser settings.nameType).Favours word language := by
    obtain ⟨rfl, rfl, _⟩ := of_new built
    exact Guesser.guess_eq_nil_iff
  have combined (words : List String) : (encoder.concatenate none words).toList = [] ↔
      ∃ word ∈ words, (encoder.guessLanguages word).members = [] := by
    rw [toList_concatenate, firstDistinct_eq_nil_iff (Settings.maxPhonemes_pos encoder.valid),
      choices_eq_nil_iff, List.mem_map]
    simp only [encodeWord_eq_nil_iff built]
  refine ⟨guesses, combined, fun fallback => ?_⟩
  have guessed (word : String) : (encoder.guessLanguages word).members ≠ [] :=
    fun empty => fallback ((guesses word).1 empty).1
  refine ⟨fun word => ⟨guessed word, fun empty =>
    guessed word ((encodeWord_eq_nil_iff built word).1 empty)⟩, fun words empty => ?_⟩
  obtain ⟨word, _, lost⟩ := (combined words).1 empty
  exact guessed word lost

theorem alternatives_of_guesses_vowels :
    new vowelTable {} = .ok (vowelEncoder 20 (by decide)) ∧
      (vowelTable.fallbackLanguages .generic).members ≠ [] ∧
      ((vowelEncoder 20 (by decide)).concatenate none ["a", "x"]).toList ≠ [] := by
  have built : new vowelTable {} = .ok (vowelEncoder 20 (by decide)) := rfl
  have fallback : (vowelTable.fallbackLanguages .generic).members ≠ [] := by decide
  exact ⟨built, fallback, ((alternatives_of_guesses built).2.2 fallback).2 ["a", "x"]⟩

/-- A table that falls back on no language is accepted. Nothing is guessed then, and the name is
encoded as nothing. -/
theorem guessLanguages_of_empty_fallback :
    let table := { vowelTable with fallbackLanguages := fun _ => .empty }
    ∃ encoder, new table {} = .ok encoder ∧ encoder.settings.concat = true ∧
      encoder.nameWords "smith" = ["smith"] ∧ (encoder.guessLanguages "smith").members = [] ∧
      (encoder.concatenate none ["smith"]).toList = [] ∧ encoder.encode "smith" = "" := by
  intro table
  obtain ⟨encoder, built, asked⟩ := exists_of_new
    (fun encoder => (encoder.settings.concat, encoder.nameWords "smith",
      (encoder.guessLanguages "smith").members, (encoder.concatenate none ["smith"]).toList,
      encoder.encode "smith"))
    (show (new table {}).toOption.map _ = some (true, ["smith"], [], [], "") by decide +kernel)
  simp only [Prod.mk.injEq] at asked
  exact ⟨encoder, built, asked⟩

end Encoder

end Homophone
