import Homophone.Proofs.NameEncoding

/-! The alternatives of a word in several languages.

Raw candidates of all languages are merged, and then finalized. To finalize those of each language
and then merge gives the same. The order of the languages decides the order of the alternatives, but
while there is room for all of them it does not decide which there are.
-/

set_option autoImplicit false

namespace Homophone.Encoder

theorem rawCandidates_perm (encoder : Encoder) {languages permuted : LanguageSet}
    (same : permuted.members.Perm languages.members) (word : String) :
    (encoder.rawCandidates permuted word).Perm (encoder.rawCandidates languages word) :=
  perm_eraseDups (same.flatMap_right (encoder.rawOf word))

theorem uncapped_perm (encoder : Encoder) (finals : RuleList) {languages permuted : LanguageSet}
    (same : permuted.members.Perm languages.members) (word : String) :
    (encoder.uncapped finals permuted word).Perm (encoder.uncapped finals languages word) :=
  perm_eraseDups ((encoder.rawCandidates_perm same word).flatMap_right _)

section

variable {encoder : Encoder} {finals : RuleList} (served : encoder.finalRules = some finals)
  (bounded : encoder.settings.maxPhonemes ≤ countLimit)

include served bounded

theorem toList_encodeWord_singleton (word : String) (language : Language) :
    (encoder.encodeWord (some (.ofList [language])) word).toList =
      firstDistinct encoder.settings.maxPhonemes
        ((firstDistinct (headroom encoder.settings.maxPhonemes)
          (encoder.rawOf word language)).flatMap (finals.transcriptions none)) := by
  have alone : encoder.rawCandidates (.ofList [language]) word =
      (encoder.rawOf word language).eraseDups := by
    have members : (LanguageSet.ofList [language]).members = [language] := rfl
    rw [rawCandidates, members, List.flatMap_cons, List.flatMap_nil, List.append_nil]
  rw [encodeWord_of_finals served bounded, finalized, Option.getD_some, alone]
  rfl

/-- To merge and then finalize is to finalize and then merge. -/
theorem toList_encodeWord_merged {languages : LanguageSet} {word : String}
    (within : encoder.WithinHeadroom (some languages) word) :
    (encoder.encodeWord (some languages) word).toList =
      firstDistinct encoder.settings.maxPhonemes (languages.members.flatMap fun language =>
        (encoder.encodeWord (some (.ofList [language])) word).toList) := by
  have merged := encodeWord_of_finals served bounded (some languages) word
  have split := firstDistinct_flatMap_flatMap (enough_of_withinHeadroom served bounded within)
  refine (merged.trans split).trans (firstDistinct_flatMap_congr fun language _ => ?_)
  rw [toList_encodeWord_singleton served bounded, firstDistinct_firstDistinct (Nat.le_refl _)]

theorem toList_encodeWord_perm {languages permuted : LanguageSet}
    (same : permuted.members.Perm languages.members) {word : String}
    (within : encoder.WithinHeadroom (some languages) word)
    (room : (encoder.encodeWord (some languages) word).size < encoder.settings.maxPhonemes) :
    (encoder.encodeWord (some permuted) word).toList.Perm
      (encoder.encodeWord (some languages) word).toList := by
  have few := within.resolve_left (Nat.ne_of_lt room)
  rw [Option.getD_some, ← (encoder.rawCandidates_perm same word).length_eq] at few
  have within' : encoder.WithinHeadroom (some permuted) word := .inr few
  have all := encoder.uncapped_perm finals same word
  have kept := encodeWord_of_withinHeadroom served bounded within
  have kept' := encodeWord_of_withinHeadroom served bounded within'
  rw [firstDistinct_of_nodup (encoder.nodup_uncapped ..), Option.getD_some] at kept kept'
  have roomy : (encoder.uncapped finals languages word).length < encoder.settings.maxPhonemes := by
    rw [Frontier.size_eq, kept, List.length_take] at room
    omega
  rw [kept, kept', List.take_of_length_le (Nat.le_of_lt roomy),
    List.take_of_length_le (all.length_eq ▸ Nat.le_of_lt roomy)]
  exact all

end

/-- The alternatives of a word in several languages are the first distinct ones of those in each.
While there is room for all of them, another order of the languages reorders the encoding of a name
of one word and leaves out nothing. -/
theorem encodeWord_of_several_languages {table : RuleTable} {settings : Settings}
    {encoder : Encoder} (built : new table settings = .ok encoder)
    (bounded : settings.maxPhonemes ≤ countLimit) {languages : LanguageSet} {word : String}
    (within : encoder.WithinHeadroom (some languages) word) :
    (encoder.encodeWord (some languages) word).toList =
      firstDistinct settings.maxPhonemes (languages.members.flatMap fun language =>
        (encoder.encodeWord (some (.ofList [language])) word).toList) ∧
    ∀ (permuted : LanguageSet) (name : String),
      permuted.members.Perm languages.members → languages.members ≠ [] →
      (∀ language ∈ languages.members,
        (table.rules settings.nameType settings.ruleType language).isSome = true) →
      encoder.Unsplit name → encoder.nameWords name = [word] →
      (encoder.encodeWord (some languages) word).size < settings.maxPhonemes →
      let alternatives := (encoder.encodeWord (some languages) word).toList
      let reordered := (encoder.encodeWord (some permuted) word).toList
      encoder.encodeWithLanguages name languages = .ok ("|".intercalate alternatives) ∧
      encoder.encodeWithLanguages name permuted = .ok ("|".intercalate reordered) ∧
      reordered.Perm alternatives := by
  obtain ⟨rfl, rfl, _, _, finals, served⟩ := of_new built
  refine ⟨toList_encodeWord_merged served bounded within, ?_⟩
  intro permuted name same nonempty ruled whole single room
  have nonempty' : permuted.members ≠ [] := fun empty =>
    nonempty (List.nil_perm.1 (empty ▸ same))
  have ruled' : ∀ language ∈ permuted.members, (encoder.rules language).isSome = true :=
    fun language member => ruled language (same.mem_iff.1 member)
  refine ⟨?_, ?_, toList_encodeWord_perm served bounded same within room⟩
  · rw [encodeWithLanguages_of_served nonempty ruled,
      encodeName_of_nameWords_singleton served bounded whole single]
  · rw [encodeWithLanguages_of_served nonempty' ruled',
      encodeName_of_nameWords_singleton served bounded whole single]

theorem encodeWord_of_several_languages_vowels :
    let encoder := vowelEncoder 10 (by decide)
    let languages := LanguageSet.ofList [⟨"english"⟩, ⟨"french"⟩]
    let permuted := LanguageSet.ofList [⟨"french"⟩, ⟨"english"⟩]
    new vowelTable { maxPhonemes := 10 } = .ok encoder ∧ 10 ≤ countLimit ∧
      encoder.WithinHeadroom (some languages) "a" ∧ permuted.members.Perm languages.members ∧
      encoder.Unsplit "A" ∧ encoder.nameWords "A" = ["a"] ∧
      encoder.encodeWithLanguages "A" languages = .ok "a|o|i" ∧
      encoder.encodeWithLanguages "A" permuted = .ok "a|i|o" := by
  intro encoder languages permuted
  have built : new vowelTable { maxPhonemes := 10 } = .ok encoder := rfl
  have bounded : 10 ≤ countLimit := by decide
  have within : encoder.WithinHeadroom (some languages) "a" := .inr (by decide +kernel)
  have same : permuted.members.Perm languages.members := by decide +kernel
  have whole : encoder.Unsplit "A" := fun _ => rfl
  have single : encoder.nameWords "A" = ["a"] := by decide +kernel
  obtain ⟨merged, orders⟩ := encodeWord_of_several_languages built bounded within
  obtain ⟨first, second, _⟩ := orders permuted "A" same (by decide +kernel) (fun _ _ => rfl) whole
    single (by decide +kernel)
  refine ⟨built, bounded, within, same, whole, single, ?_, ?_⟩
  · rw [first, merged]
    decide +kernel
  · rw [second]
    decide +kernel

end Homophone.Encoder
