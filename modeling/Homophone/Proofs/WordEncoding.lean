import Homophone.Encoder
import Homophone.Proofs.Transcription

/-! The alternatives of a word.

Ever wider frontiers of raw candidates are tried, and every loop stops when its frontier is full.
What comes out is what one pass over the raw candidates within the headroom gives, and the head of
what there would be without any cap.
-/

set_option autoImplicit false

namespace Homophone

def Rule.either (letter : Char) (first second : String) : Rule where
  pattern := [letter]
  left := .always
  right := .always
  phonemes := [.plain first, .plain second]
  pattern_ne_nil := List.cons_ne_nil _ _
  phonemes_ne_nil := List.cons_ne_nil _ _

namespace Encoder

/-! ## Construction -/

theorem checkLanguages_eq_ok_iff {table : RuleTable} {settings : Settings}
    {languages : List Language} :
    checkLanguages table settings languages = .ok () ↔
      ∀ language ∈ languages,
        (table.rules settings.nameType settings.ruleType language).isSome = true := by
  rw [checkLanguages]
  split
  · next language found =>
    have missing := List.find?_some found
    have member := List.mem_of_find?_eq_some found
    constructor
    · intro refused
      cases refused
    · intro served
      have present := served language member
      rw [Option.isNone_iff_eq_none] at missing
      rw [missing] at present
      cases present
  · next found =>
    rw [List.find?_eq_none] at found
    constructor
    · intro _ language member
      simpa [Option.isSome_iff_ne_none] using found language member
    · intro _
      rfl

theorem exists_of_new {α : Type} {table : RuleTable} {settings : Settings} (ask : Encoder → α)
    {answer : α} (run : (new table settings).toOption.map ask = some answer) :
    ∃ encoder, new table settings = .ok encoder ∧ ask encoder = answer := by
  cases built : new table settings with
  | error error =>
    rw [built] at run
    cases run
  | ok encoder =>
    rw [built] at run
    exact ⟨encoder, rfl, Option.some.inj run⟩

theorem of_new {table : RuleTable} {settings : Settings} {encoder : Encoder}
    (built : new table settings = .ok encoder) :
    encoder.table = table ∧ encoder.settings = settings ∧
      table.languages settings.nameType ≠ [] ∧
      (∀ language ∈ (reachable table settings.nameType).members,
        (table.rules settings.nameType settings.ruleType language).isSome = true) ∧
      ∃ finals, table.finalRules settings.nameType settings.ruleType = some finals := by
  unfold new at built
  split at built
  · cases built
  · split at built
    · cases built
    · next declared =>
      split at built
      · cases built
      · next served =>
        split at built
        · cases built
        · next finals =>
          cases built
          rw [List.isEmpty_iff] at declared
          rw [Option.isNone_iff_eq_none] at finals
          exact ⟨rfl, rfl, declared, checkLanguages_eq_ok_iff.1 served,
            Option.ne_none_iff_exists'.1 finals⟩

/-! ## Raw candidates -/

def rawOf (encoder : Encoder) (word : String) (language : Language) : List String :=
  match encoder.rules language with
  | some rules => rules.transcriptions (some language) word
  | none => []

def rawCandidates (encoder : Encoder) (languages : LanguageSet) (word : String) : List String :=
  (languages.members.flatMap (encoder.rawOf word)).eraseDups

theorem adds_applyPrimary (encoder : Encoder) (word : String) (languages : LanguageSet)
    (width : Nat) :
    (Frontier.new width).Adds (encoder.applyPrimary word languages width)
      (languages.members.flatMap (encoder.rawOf word)) := by
  refine Frontier.WellFormed.adds_foldl ?_ languages.members (Frontier.wellFormed_new width) rfl
  intro frontier language formed same
  split
  · next full => exact formed.adds_of_full full _
  · cases served : encoder.rules language with
    | some rules =>
      simp only [rawOf, served]
      exact formed.adds_union (same ▸ rules.toList_apply (some language) _ word)
    | none =>
      simp only [rawOf, served]
      exact formed.adds_nil

theorem toList_applyPrimary (encoder : Encoder) (word : String) (languages : LanguageSet)
    (width : Nat) :
    (encoder.applyPrimary word languages width).toList =
      (encoder.rawCandidates languages word).take width :=
  (encoder.adds_applyPrimary word languages width).toList_eq

/-! ## Finalization -/

def finalized (encoder : Encoder) (finals : RuleList) (languages : LanguageSet) (word : String)
    (width : Nat) : List String :=
  ((encoder.rawCandidates languages word).take width).flatMap (finals.transcriptions none)

theorem finalized_isPrefix (encoder : Encoder) (finals : RuleList) (languages : LanguageSet)
    (word : String) {width wider : Nat} (ordered : width ≤ wider) :
    encoder.finalized finals languages word width <+:
      encoder.finalized finals languages word wider :=
  (List.take_prefix_take_left ordered).flatMap _

theorem le_headroom {maxPhonemes : Nat} (bounded : maxPhonemes ≤ countLimit) :
    maxPhonemes ≤ headroom maxPhonemes := by
  rw [headroom, times]
  omega

theorem widen_le_headroom (maxPhonemes width : Nat) :
    widen maxPhonemes width ≤ headroom maxPhonemes :=
  Nat.min_le_right _ _

theorem adds_pass (encoder : Encoder) (finals : RuleList) (word : String) (languages : LanguageSet)
    (width : Nat) :
    (Frontier.new encoder.settings.maxPhonemes).Adds
      (finals.applyAll none encoder.settings.maxPhonemes
        (encoder.applyPrimary word languages width).toList)
      (encoder.finalized finals languages word width) := by
  rw [toList_applyPrimary]
  exact finals.adds_applyAll none _ _

/-! ## Passes -/

section

variable (encoder : Encoder) (finals : RuleList) (word : String) (languages : LanguageSet)

def pass (width : Nat) : Frontier :=
  finals.applyAll none encoder.settings.maxPhonemes
    (encoder.applyPrimary word languages width).toList

/-- Whether a pass is the last: its frontier is full, the raw candidates have run out, or the
headroom is used up. -/
def Ends (width : Nat) : Prop :=
  (encoder.pass finals word languages width).isFull = true ∨
    (encoder.applyPrimary word languages width).size < width ∨
    headroom encoder.settings.maxPhonemes ≤ width

/-- The loop from a width on, without the measure that says why it ends: the widths of its passes,
and what the last pass leaves. -/
inductive Passes : Nat → List Nat → Frontier → Prop where
  | last {width : Nat} : encoder.Ends finals word languages width →
      Passes width [width] (encoder.pass finals word languages width)
  | wider {width : Nat} {widths : List Nat} {out : Frontier} :
      ¬encoder.Ends finals word languages width →
      Passes (widen encoder.settings.maxPhonemes width) widths out →
      Passes width (width :: widths) out

theorem cap_pass (width : Nat) :
    (encoder.pass finals word languages width).cap = encoder.settings.maxPhonemes :=
  (encoder.adds_pass finals word languages width).cap_eq

theorem toList_pass (width : Nat) :
    (encoder.pass finals word languages width).toList =
      firstDistinct encoder.settings.maxPhonemes
        (encoder.finalized finals languages word width) :=
  (encoder.adds_pass finals word languages width).toList_eq

/-- The recursion makes the passes of the loop. -/
theorem exists_passes (width : Nat) (positive : 0 < width) :
    ∃ widths, encoder.Passes finals word languages width widths
      (encoder.finalizeFrom finals word languages width positive) := by
  fun_induction finalizeFrom encoder finals word languages width positive with
  | case1 width positive limit raw out enough => exact ⟨[width], .last enough⟩
  | case2 width positive limit raw out unfilled wider ih =>
    obtain ⟨widths, rest⟩ := ih
    exact ⟨width :: widths, .wider unfilled rest⟩

end

section

variable {encoder : Encoder} {finals : RuleList} {word : String} {languages : LanguageSet}

/-- Which pass is the last, read off the lists without caps. -/
theorem ends_iff {width : Nat} :
    encoder.Ends finals word languages width ↔
      encoder.settings.maxPhonemes ≤
          (encoder.finalized finals languages word width).eraseDups.length ∨
        (encoder.rawCandidates languages word).length < width ∨
        headroom encoder.settings.maxPhonemes ≤ width := by
  refine or_congr ?_ (or_congr_left ?_)
  · rw [Frontier.isFull_iff, cap_pass, toList_pass, length_firstDistinct]
    omega
  · rw [Frontier.size_eq, toList_applyPrimary, List.length_take]
    omega

theorem lt_headroom_of_not_ends {width : Nat} (goesOn : ¬encoder.Ends finals word languages width) :
    width < headroom encoder.settings.maxPhonemes :=
  Nat.lt_of_not_le fun spent => goesOn (.inr (.inr spent))

namespace Passes

variable {width : Nat} {widths : List Nat} {out : Frontier}

theorem exists_last (passes : encoder.Passes finals word languages width widths out) :
    ∃ last ∈ widths, widths.getLast? = some last ∧ encoder.Ends finals word languages last ∧
      out = encoder.pass finals word languages last := by
  induction passes with
  | last ends => exact ⟨_, List.mem_singleton_self _, rfl, ends, rfl⟩
  | wider _ _ ih =>
    obtain ⟨last, member, found, ends, left⟩ := ih
    refine ⟨last, List.mem_cons_of_mem _ member, ?_, ends, left⟩
    rw [List.getLast?_cons, found]
    rfl

theorem le_headroom (passes : encoder.Passes finals word languages width widths out)
    (inside : width ≤ headroom encoder.settings.maxPhonemes) :
    ∀ tried ∈ widths, tried ≤ headroom encoder.settings.maxPhonemes := by
  induction passes with
  | last _ => exact List.forall_mem_singleton.2 inside
  | wider _ _ ih => exact List.forall_mem_cons.2 ⟨inside, ih (widen_le_headroom _ _)⟩

theorem le_of_mem (passes : encoder.Passes finals word languages width widths out)
    (positive : 0 < width) : ∀ tried ∈ widths, width ≤ tried := by
  induction passes with
  | last _ => exact List.forall_mem_singleton.2 (Nat.le_refl _)
  | wider goesOn _ ih =>
    have grows := lt_widen positive (lt_headroom_of_not_ends goesOn)
    refine List.forall_mem_cons.2 ⟨Nat.le_refl _, fun tried member => ?_⟩
    exact Nat.le_trans (Nat.le_of_lt grows) (ih (Nat.lt_trans positive grows) tried member)

end Passes

end

/-- The loop may stop early: a pass that is full, or that runs out of raw candidates, gives what a
pass at the full headroom gives. -/
theorem toList_finalizeFrom (encoder : Encoder) (finals : RuleList) (word : String)
    (languages : LanguageSet) (width : Nat) (positive : 0 < width)
    (inside : width ≤ headroom encoder.settings.maxPhonemes) :
    (encoder.finalizeFrom finals word languages width positive).toList =
      firstDistinct encoder.settings.maxPhonemes
        (encoder.finalized finals languages word (headroom encoder.settings.maxPhonemes)) := by
  obtain ⟨widths, passes⟩ := encoder.exists_passes finals word languages width positive
  obtain ⟨last, member, _, ends, left⟩ := passes.exists_last
  have within := passes.le_headroom inside last member
  rw [left, toList_pass]
  -- The frontier is full, the raw candidates have run out, or the headroom has been reached.
  rcases ends_iff.1 ends with full | short | spent
  · exact (firstDistinct_of_isPrefix (encoder.finalized_isPrefix finals languages word within)
      full).symm
  · rw [finalized, finalized, List.take_of_length_le (by omega), List.take_of_length_le (by omega)]
  · rw [Nat.le_antisymm within spent]

theorem exists_width_finalizeFrom (encoder : Encoder) (finals : RuleList) (word : String)
    (languages : LanguageSet) (width : Nat) (positive : 0 < width) :
    ∃ last, 0 < last ∧
      (encoder.finalizeFrom finals word languages width positive).toList =
        firstDistinct encoder.settings.maxPhonemes
          (encoder.finalized finals languages word last) := by
  obtain ⟨widths, passes⟩ := encoder.exists_passes finals word languages width positive
  obtain ⟨last, member, _, _, left⟩ := passes.exists_last
  refine ⟨last, Nat.lt_of_lt_of_le positive (passes.le_of_mem positive last member), ?_⟩
  rw [left, toList_pass]

def uncapped (encoder : Encoder) (finals : RuleList) (languages : LanguageSet) (word : String) :
    List String :=
  ((encoder.rawCandidates languages word).flatMap (finals.transcriptions none)).eraseDups

theorem nodup_uncapped (encoder : Encoder) (finals : RuleList) (languages : LanguageSet)
    (word : String) : (encoder.uncapped finals languages word).Nodup :=
  nodup_eraseDups _

theorem finalized_isPrefix_uncapped (encoder : Encoder) (finals : RuleList)
    (languages : LanguageSet) (word : String) (width : Nat) :
    (encoder.finalized finals languages word width).eraseDups <+:
      encoder.uncapped finals languages word :=
  eraseDups_isPrefix ((List.take_prefix width _).flatMap _)

/-! ## Alternatives -/

/-- The headroom keeps no alternative of a word away: there are as many as are kept, or all raw
candidates are within it. -/
def WithinHeadroom (encoder : Encoder) (explicit : Option LanguageSet) (word : String) : Prop :=
  (encoder.encodeWord explicit word).size = encoder.settings.maxPhonemes ∨
    (encoder.rawCandidates (explicit.getD (encoder.guessLanguages word)) word).length ≤
      headroom encoder.settings.maxPhonemes

theorem exists_width_encodeWord {encoder : Encoder} {finals : RuleList}
    (served : encoder.finalRules = some finals) (explicit : Option LanguageSet) (word : String) :
    ∃ width, 0 < width ∧
      (encoder.encodeWord explicit word).toList =
        firstDistinct encoder.settings.maxPhonemes
          (encoder.finalized finals (explicit.getD (encoder.guessLanguages word)) word width) := by
  rw [encodeWord]
  simp only [served]
  exact encoder.exists_width_finalizeFrom finals word _ _ _

theorem nodup_encodeWord {encoder : Encoder} {finals : RuleList}
    (served : encoder.finalRules = some finals) (explicit : Option LanguageSet) (word : String) :
    (encoder.encodeWord explicit word).toList.Nodup := by
  obtain ⟨width, _, kept⟩ := exists_width_encodeWord served explicit word
  exact kept ▸ nodup_firstDistinct _ _

theorem length_encodeWord_le {encoder : Encoder} {finals : RuleList}
    (served : encoder.finalRules = some finals) (explicit : Option LanguageSet) (word : String) :
    (encoder.encodeWord explicit word).toList.length ≤ encoder.settings.maxPhonemes := by
  obtain ⟨width, _, kept⟩ := exists_width_encodeWord served explicit word
  exact kept ▸ length_firstDistinct_le _ _

section

variable {encoder : Encoder} {finals : RuleList} (served : encoder.finalRules = some finals)
  (bounded : encoder.settings.maxPhonemes ≤ countLimit)

include served bounded

theorem encodeWord_of_finals (explicit : Option LanguageSet) (word : String) :
    (encoder.encodeWord explicit word).toList =
      firstDistinct encoder.settings.maxPhonemes
        (encoder.finalized finals (explicit.getD (encoder.guessLanguages word)) word
          (headroom encoder.settings.maxPhonemes)) := by
  rw [encodeWord]
  simp only [served]
  exact encoder.toList_finalizeFrom finals word _ _ _ (le_headroom bounded)

theorem encodeWord_isPrefix_uncapped (explicit : Option LanguageSet) (word : String) :
    (encoder.encodeWord explicit word).toList <+:
      encoder.uncapped finals (explicit.getD (encoder.guessLanguages word)) word := by
  rw [encodeWord_of_finals served bounded]
  exact (List.take_prefix _ _).trans (encoder.finalized_isPrefix_uncapped finals _ word _)

/-- When there are as many finalized forms as are kept, or no other raw candidates, the raw
candidates beyond the headroom are not missed. -/
theorem enough_of_withinHeadroom {explicit : Option LanguageSet} {word : String}
    (within : encoder.WithinHeadroom explicit word) :
    encoder.settings.maxPhonemes ≤
        (encoder.finalized finals (explicit.getD (encoder.guessLanguages word)) word
          (headroom encoder.settings.maxPhonemes)).eraseDups.length ∨
      (encoder.rawCandidates (explicit.getD (encoder.guessLanguages word)) word).length ≤
        headroom encoder.settings.maxPhonemes := by
  rcases within with full | few
  · left
    rw [Frontier.size_eq, encodeWord_of_finals served bounded, length_firstDistinct] at full
    omega
  · exact .inr few

theorem encodeWord_of_withinHeadroom {explicit : Option LanguageSet} {word : String}
    (within : encoder.WithinHeadroom explicit word) :
    (encoder.encodeWord explicit word).toList =
      firstDistinct encoder.settings.maxPhonemes
        (encoder.uncapped finals (explicit.getD (encoder.guessLanguages word)) word) := by
  have all := firstDistinct_flatMap_of_enough (enough_of_withinHeadroom served bounded within)
  have distinct := eraseDups_flatMap (finals.transcriptions none)
    ((explicit.getD (encoder.guessLanguages word)).members.flatMap (encoder.rawOf word))
  rw [encodeWord_of_finals served bounded, uncapped]
  exact all.trans (firstDistinct_congr _ (distinct.symm.trans (eraseDups_eraseDups _).symm))

end

def vowelTable : RuleTable where
  languages _ := [⟨"english"⟩, ⟨"french"⟩]
  rules _ _ language :=
    some (.ofList [if language = ⟨"french"⟩ then .either 'a' "e" "o" else .either 'a' "a" "o"])
  finalRules _ _ := some (.ofList [.either 'e' "a" "i"])
  guessRules _ := []
  prefixes _ := []

def vowelEncoder (cap : Nat) (positive : 0 < cap) : Encoder :=
  ⟨vowelTable, { maxPhonemes := cap }, if_neg (Nat.ne_of_gt positive)⟩

/-- The alternatives of a word are the first distinct finalized forms of its raw candidates within
the headroom. So one pass at the headroom gives them, and they are the head of what there would be
without caps. -/
theorem encodeWord_first_distinct {table : RuleTable} {settings : Settings} {encoder : Encoder}
    (built : new table settings = .ok encoder) (bounded : settings.maxPhonemes ≤ countLimit) :
    ∃ finals, table.finalRules settings.nameType settings.ruleType = some finals ∧
      ∀ (explicit : Option LanguageSet) (word : String),
        let languages := explicit.getD (encoder.guessLanguages word)
        let limit := min (64 * settings.maxPhonemes) countLimit
        let alternatives := (encoder.encodeWord explicit word).toList
        alternatives = firstDistinct settings.maxPhonemes
          (((encoder.rawCandidates languages word).take limit).flatMap
            (finals.transcriptions none)) ∧
        alternatives = (finals.applyAll none settings.maxPhonemes
          (encoder.applyPrimary word languages limit).toList).toList ∧
        alternatives <+: encoder.uncapped finals languages word := by
  obtain ⟨rfl, rfl, _, _, finals, served⟩ := of_new built
  refine ⟨finals, served, fun explicit word => ?_⟩
  have head := encodeWord_of_finals served bounded explicit word
  refine ⟨head, head.trans (encoder.adds_pass finals word _ _).toList_eq.symm, ?_⟩
  exact encodeWord_isPrefix_uncapped served bounded explicit word

theorem encodeWord_first_distinct_vowels :
    new vowelTable { maxPhonemes := 3 } = .ok (vowelEncoder 3 (by decide)) ∧ 3 ≤ countLimit ∧
      ((vowelEncoder 3 (by decide)).encodeWord
        (some (.ofList [⟨"english"⟩, ⟨"french"⟩])) "aa").toList = ["aa", "ao", "oa"] := by
  have built : new vowelTable { maxPhonemes := 3 } = .ok (vowelEncoder 3 (by decide)) := rfl
  refine ⟨built, by decide, ?_⟩
  obtain ⟨finals, served, every⟩ := encodeWord_first_distinct built (by decide)
  cases served
  obtain ⟨first, _⟩ := every (some (.ofList [⟨"english"⟩, ⟨"french"⟩])) "aa"
  rw [first]
  decide +kernel

end Encoder

end Homophone
