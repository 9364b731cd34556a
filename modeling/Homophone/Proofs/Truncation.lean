import Homophone.Proofs.NameEncoding

/-! A smaller cap gives a head of what a larger one gives.

For a word that holds whatever the headroom keeps away. For several words taken as one it holds if
the headroom keeps nothing away at the smaller cap.
-/

set_option autoImplicit false

namespace Homophone.Encoder

def withCap (encoder : Encoder) (cap : Nat) (positive : 0 < cap) : Encoder where
  table := encoder.table
  settings := { encoder.settings with maxPhonemes := cap }
  valid := if_neg (Nat.ne_of_gt positive)

theorem eq_withCap_of_new {table : RuleTable} {settings : Settings} {cap : Nat}
    {encoder other : Encoder} (built : new table settings = .ok encoder)
    (builtOther : new table { settings with maxPhonemes := cap } = .ok other) :
    ∃ positive, other = encoder.withCap cap positive := by
  obtain ⟨rfl, rfl, _⟩ := of_new built
  obtain ⟨sameTable, sameSettings, _⟩ := of_new builtOther
  obtain ⟨otherTable, otherSettings, valid⟩ := other
  cases sameTable
  cases sameSettings
  exact ⟨Settings.maxPhonemes_pos valid, rfl⟩

section

variable {low : Encoder} {cap : Nat} {finals : RuleList} (served : low.finalRules = some finals)
  (ordered : low.settings.maxPhonemes ≤ cap) (bounded : cap ≤ countLimit) (positive : 0 < cap)

include served ordered bounded

theorem encodeWord_isPrefix_withCap (explicit : Option LanguageSet) (word : String) :
    (low.encodeWord explicit word).toList <+:
      ((low.withCap cap positive).encodeWord explicit word).toList := by
  have room : headroom low.settings.maxPhonemes ≤ headroom cap := by
    simp only [headroom, times]
    omega
  have served' : (low.withCap cap positive).finalRules = some finals := served
  rw [encodeWord_of_finals served (Nat.le_trans ordered bounded),
    encodeWord_of_finals served' bounded]
  exact firstDistinct_isPrefix ordered (low.finalized_isPrefix finals _ word room)

/-- A word that the headroom does not keep from its alternatives at the smaller cap has the same
first alternatives at the larger cap, even if the headroom keeps it from others there. -/
theorem firstDistinct_encodeWord_withCap {explicit : Option LanguageSet} {word : String}
    (within : low.WithinHeadroom explicit word) :
    firstDistinct low.settings.maxPhonemes
        ((low.withCap cap positive).encodeWord explicit word).toList =
      firstDistinct low.settings.maxPhonemes (low.encodeWord explicit word).toList := by
  have served' : (low.withCap cap positive).finalRules = some finals := served
  -- The larger cap leaves something between the alternatives at the smaller cap and all of them,
  -- and these two have the same head.
  have start := encodeWord_isPrefix_withCap served ordered bounded positive explicit word
  have all := encodeWord_isPrefix_uncapped served' bounded explicit word
  have kept := encodeWord_of_withinHeadroom served (Nat.le_trans ordered bounded) within
  have least := firstDistinct_isPrefix (Nat.le_refl low.settings.maxPhonemes) start
  have most := firstDistinct_isPrefix (Nat.le_refl low.settings.maxPhonemes) all
  rw [kept, firstDistinct_firstDistinct (Nat.le_refl _)] at least ⊢
  exact most.eq_of_length_le least.length_le

theorem take_concatenate_withCap {explicit : Option LanguageSet} {words : List String}
    (within : ∀ word ∈ words, low.WithinHeadroom explicit word) :
    ((low.withCap cap positive).concatenate explicit words).toList.take
        low.settings.maxPhonemes =
      (low.concatenate explicit words).toList := by
  rw [toList_concatenate, toList_concatenate, take_firstDistinct]
  change firstDistinct (min low.settings.maxPhonemes cap) _ = _
  rw [Nat.min_eq_left ordered]
  apply firstDistinct_choices_congr
  intro word member
  exact firstDistinct_encodeWord_withCap served ordered bounded positive (within word member)

end

/-- At a smaller cap, each word has the first of its alternatives at a larger cap. If the words are
taken as one, and the headroom keeps nothing from them at the smaller cap, then so has the name, and
these are the first choices of the words' uncapped alternatives. -/
theorem encodeName_of_smaller_cap {table : RuleTable} {settings : Settings} {few many : Nat}
    {low high : Encoder} (builtLow : new table { settings with maxPhonemes := few } = .ok low)
    (builtHigh : new table { settings with maxPhonemes := many } = .ok high)
    (ordered : few ≤ many) (bounded : many ≤ countLimit) (explicit : Option LanguageSet)
    {name : String} (whole : low.Unsplit name) :
    high.nameWords name = low.nameWords name ∧
    (∀ word, (low.encodeWord explicit word).toList <+: (high.encodeWord explicit word).toList) ∧
    (settings.concat = true → (∀ word ∈ low.nameWords name, low.WithinHeadroom explicit word) →
      ∃ finals, table.finalRules settings.nameType settings.ruleType = some finals ∧
        let words := low.nameWords name
        let first := (low.concatenate explicit words).toList
        let all := (high.concatenate explicit words).toList
        low.encodeName explicit name = "|".intercalate first ∧
        high.encodeName explicit name = "|".intercalate all ∧
        first = all.take few ∧
        first = firstDistinct few (choices (words.map fun word =>
          low.uncapped finals (explicit.getD (low.guessLanguages word)) word))) := by
  obtain ⟨positive, rfl⟩ := eq_withCap_of_new builtLow builtHigh
  obtain ⟨sameTable, sameSettings, _, _, finals, given⟩ := of_new builtLow
  have cap : low.settings.maxPhonemes = few := by rw [sameSettings]
  have served : low.finalRules = some finals := by rw [finalRules, sameTable, sameSettings, given]
  subst cap
  refine ⟨rfl, encodeWord_isPrefix_withCap served ordered bounded positive explicit, ?_⟩
  intro concat within
  refine ⟨finals, given, ?_, ?_, ?_, ?_⟩
  · exact encodeName_of_concat (by rw [sameSettings, concat]) whole explicit
  · have whole' : (low.withCap many positive).Unsplit name := whole
    have concat' : (low.withCap many positive).settings.concat = true := by
      rw [withCap, sameSettings, concat]
    exact encodeName_of_concat concat' whole' explicit
  · exact (take_concatenate_withCap served ordered bounded positive within).symm
  · exact toList_concatenate_of_withinHeadroom served (Nat.le_trans ordered bounded) within

theorem encodeName_of_smaller_cap_vowels :
    let low := vowelEncoder 2 (by decide)
    let high := vowelEncoder 3 (by decide)
    new vowelTable { maxPhonemes := 2 } = .ok low ∧ new vowelTable { maxPhonemes := 3 } = .ok high ∧
      3 ≤ countLimit ∧ low.Unsplit "aa a" ∧ low.nameWords "aa a" = ["aa", "a"] ∧
      (∀ word ∈ ["aa", "a"], low.WithinHeadroom none word) ∧
      low.encodeName none "aa a" = "aaa|aao" ∧
      (high.concatenate none ["aa", "a"]).toList.take 2 = ["aaa", "aao"] := by
  intro low high
  have builtLow : new vowelTable { maxPhonemes := 2 } = .ok low := rfl
  have builtHigh : new vowelTable { maxPhonemes := 3 } = .ok high := rfl
  have bounded : 3 ≤ countLimit := by decide
  have whole : low.Unsplit "aa a" := fun _ => rfl
  have words : low.nameWords "aa a" = ["aa", "a"] := by decide +kernel
  have within : ∀ word ∈ ["aa", "a"], low.WithinHeadroom none word := by
    have full : ∀ word ∈ ["aa", "a"], (low.encodeWord none word).size = 2 := by decide +kernel
    exact fun word member => .inl (full word member)
  obtain ⟨_, _, taken⟩ :=
    @encodeName_of_smaller_cap vowelTable {} 2 3 low high builtLow builtHigh (by decide) bounded
      none "aa a" whole
  rw [words] at taken
  obtain ⟨finals, given, text, _, head, first⟩ := taken rfl within
  cases given
  have all : (low.concatenate none ["aa", "a"]).toList = ["aaa", "aao"] :=
    first.trans (by decide +kernel)
  refine ⟨builtLow, builtHigh, bounded, whole, words, within, ?_, head.symm.trans all⟩
  rw [text]
  exact (congrArg _ all).trans (by decide +kernel)

end Homophone.Encoder
