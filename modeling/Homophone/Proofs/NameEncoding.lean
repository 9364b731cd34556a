import Homophone.Proofs.WordEncoding

/-! Names without a prefix.

Such a name is encoded word by word. Taken as one, the words have the first ways to choose one
alternative of each, the first word varying slowest.
-/

set_option autoImplicit false

namespace Homophone.Encoder

def Unsplit (encoder : Encoder) (name : String) : Prop :=
  encoder.settings.nameType = .generic →
    encoder.splitPrefix? (encoder.normalize name.toList) = none

def nameWords (encoder : Encoder) (name : String) : List String :=
  encoder.words (encoder.normalize name.toList)

theorem encodeName_of_unsplit {encoder : Encoder} {name : String} (unsplit : encoder.Unsplit name)
    (explicit : Option LanguageSet) :
    encoder.encodeName explicit name = encoder.encodeWords explicit (encoder.nameWords name) := by
  have whole : (if encoder.settings.nameType = .generic then
      encoder.splitPrefix? (encoder.normalize name.toList) else none) = none := by
    split
    · next generic => exact unsplit generic
    · rfl
  rw [encodeName]
  generalize (Unicode.decompose name.toList).length = fuel
  unfold encodeWithin
  simp only [whole]
  rfl

theorem toList_concatenate (encoder : Encoder) (explicit : Option LanguageSet)
    (words : List String) :
    (encoder.concatenate explicit words).toList =
      firstDistinct encoder.settings.maxPhonemes
        (choices (words.map fun word => (encoder.encodeWord explicit word).toList)) := by
  rw [concatenate, List.foldl_map]
  exact Frontier.toList_foldl_seed
    (fun frontier word => frontier.extends_expand (encoder.encodeWord explicit word).toList) words _

theorem toList_concatenate_of_withinHeadroom {encoder : Encoder} {finals : RuleList}
    (served : encoder.finalRules = some finals)
    (bounded : encoder.settings.maxPhonemes ≤ countLimit) {explicit : Option LanguageSet}
    {words : List String} (within : ∀ word ∈ words, encoder.WithinHeadroom explicit word) :
    (encoder.concatenate explicit words).toList =
      firstDistinct encoder.settings.maxPhonemes (choices (words.map fun word =>
        encoder.uncapped finals (explicit.getD (encoder.guessLanguages word)) word)) := by
  rw [toList_concatenate]
  apply firstDistinct_choices_congr
  intro word member
  rw [encodeWord_of_withinHeadroom served bounded (within word member),
    firstDistinct_firstDistinct (Nat.le_refl _)]

theorem encodeName_of_concat {encoder : Encoder} (concat : encoder.settings.concat = true)
    {name : String} (unsplit : encoder.Unsplit name) (explicit : Option LanguageSet) :
    encoder.encodeName explicit name =
      "|".intercalate (encoder.concatenate explicit (encoder.nameWords name)).toList := by
  rw [encodeName_of_unsplit unsplit, encodeWords, if_pos concat, Frontier.join]

theorem encodeName_of_nameWords_singleton {encoder : Encoder} {finals : RuleList}
    (served : encoder.finalRules = some finals)
    (bounded : encoder.settings.maxPhonemes ≤ countLimit) {name word : String}
    (unsplit : encoder.Unsplit name) (single : encoder.nameWords name = [word])
    (explicit : Option LanguageSet) :
    encoder.encodeName explicit name =
      "|".intercalate (encoder.encodeWord explicit word).toList := by
  rw [encodeName_of_unsplit unsplit, encodeWords, single]
  split
  · have kept := encodeWord_of_finals served bounded explicit word
    rw [Frontier.join, toList_concatenate, List.map_singleton, choices, choices,
      products_one_right, kept, firstDistinct_firstDistinct (Nat.le_refl _)]
  · rw [List.map_singleton, List.map_singleton, String.intercalate_singleton, Frontier.join]

theorem encodeWithLanguages_of_served {encoder : Encoder} {languages : LanguageSet}
    (nonempty : languages.members ≠ [])
    (served : ∀ language ∈ languages.members, (encoder.rules language).isSome = true)
    (name : String) :
    encoder.encodeWithLanguages name languages =
      .ok (encoder.encodeName (some languages) name) := by
  have given : languages.isEmpty = false := List.isEmpty_eq_false_iff.2 nonempty
  have checked : checkLanguages encoder.table encoder.settings languages.members = .ok () :=
    checkLanguages_eq_ok_iff.2 served
  rw [encodeWithLanguages, given, checked]
  rfl

end Homophone.Encoder
