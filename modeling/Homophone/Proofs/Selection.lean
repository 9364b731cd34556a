import Homophone.Proofs.Transcription

/-! The rule that is selected at a place, and what transcribing needs to know of a list.

The index narrows the search to rules that begin with the character at a place, and still finds the
first of the whole list. So two lists that differ only in how rules with different first characters
are mixed transcribe every word alike.
-/

set_option autoImplicit false

namespace Homophone

def Rule.anywhere (first : Char) (rest : List Char) (phoneme : Phoneme) (others : List Phoneme) :
    Rule where
  pattern := first :: rest
  left := .always
  right := .always
  phonemes := phoneme :: others
  pattern_ne_nil := List.cons_ne_nil _ _
  phonemes_ne_nil := List.cons_ne_nil _ _

theorem Rule.isUsableAt_iff {rule : Rule} {language : Option Language} {text : String}
    {offset : Nat} :
    rule.isUsableAt language text offset = true ↔
      rule.matchesAt text offset = true ∧ rule.alternativesFor language ≠ [] := by
  rw [isUsableAt, Bool.and_eq_true, Bool.not_eq_true', List.isEmpty_eq_false_iff]

namespace RuleList

theorem select?_eq_some_iff {list : RuleList} {language : Option Language} {text : String}
    {offset : Nat} {rule : Rule} {alternatives : List String} :
    list.select? language text offset = some (rule, alternatives) ↔
      ∃ earlier later, list.rules = earlier ++ rule :: later ∧
        rule.matchesAt text offset = true ∧ alternatives = rule.alternativesFor language ∧
        alternatives ≠ [] ∧ ∀ other ∈ earlier, other.matchesAt text offset = true →
          other.alternativesFor language = [] := by
  rw [select?_eq_find?]
  constructor
  · intro selected
    obtain ⟨_, found, same⟩ := Option.map_eq_some_iff.1 selected
    cases same
    obtain ⟨usable, earlier, later, parts, unusable⟩ := List.find?_eq_some_iff_append.1 found
    obtain ⟨applies, nonempty⟩ := Rule.isUsableAt_iff.1 usable
    refine ⟨earlier, later, parts, applies, rfl, nonempty, fun other member matched => ?_⟩
    have passed := unusable other member
    rw [Bool.not_eq_true', Bool.eq_false_iff, ne_eq, Rule.isUsableAt_iff] at passed
    exact Classical.byContradiction fun nonempty => passed ⟨matched, nonempty⟩
  · rintro ⟨earlier, later, parts, applies, rfl, nonempty, unusable⟩
    refine Option.map_eq_some_iff.2 ⟨rule, List.find?_eq_some_iff_append.2 ?_, rfl⟩
    refine ⟨Rule.isUsableAt_iff.2 ⟨applies, nonempty⟩, earlier, later, parts, ?_⟩
    intro other member
    rw [Bool.not_eq_true', Bool.eq_false_iff, ne_eq, Rule.isUsableAt_iff]
    exact fun ⟨matched, nonempty⟩ => nonempty (unusable other member matched)

theorem select?_eq_none_iff {list : RuleList} {language : Option Language} {text : String}
    {offset : Nat} :
    list.select? language text offset = none ↔
      ∀ rule ∈ list.rules, rule.matchesAt text offset = true →
        rule.alternativesFor language = [] := by
  rw [select?_eq_find?, Option.map_eq_none_iff, List.find?_eq_none]
  refine forall₂_congr fun rule _ => ?_
  rw [Rule.isUsableAt_iff, not_and, not_not]

/-! ## Lists that transcribe alike -/

theorem finish?_of_lt {list : RuleList} {language : Option Language} {word : String}
    {progress : Progress} (inside : progress.offset < Text.byteLength word.toList) :
    list.finish? language word progress =
      (list.advance? language word progress).bind (list.finish? language word) := by
  rw [finish?, if_pos inside]
  split
  · next next advanced => rw [advanced, Option.bind_some]
  · next stuck => rw [stuck, Option.bind_none]

section

variable {list other : RuleList} {language language' : Option Language} {word : String}

/-- Reading only looks at what is next at each place. -/
theorem finish?_congr
    (same : ∀ progress,
      list.advance? language word progress = other.advance? language' word progress)
    (progress : Progress) :
    list.finish? language word progress = other.finish? language' word progress := by
  fun_induction finish? list language word progress with
  | case1 progress inside next advanced ih =>
    rw [finish?_of_lt inside, ← same, advanced, Option.bind_some, ih]
  | case2 progress inside stuck =>
    rw [finish?_of_lt inside, ← same, stuck, Option.bind_none]
  | case3 progress finished => rw [finish?, if_neg finished]

theorem transcribe_congr
    (same : ∀ progress,
      list.advance? language word progress = other.advance? language' word progress)
    (cap : Nat) : list.transcribe language cap word = other.transcribe language' cap word := by
  have read : list.transcribe? language cap word = other.transcribe? language' cap word :=
    finish?_congr same (.start cap)
  simp only [transcribe, read]

end

theorem candidatesAt_congr {list other : RuleList}
    (same : ∀ c, list.rules.filter (·.firstChar == c) = other.rules.filter (·.firstChar == c))
    (text : String) (offset : Nat) :
    list.candidatesAt text offset = other.candidatesAt text offset := by
  cases here : Text.charAtByte? offset text.toList with
  | none => simp only [candidatesAt, here]
  | some c => rw [candidatesAt_eq_filter here, candidatesAt_eq_filter here, same]

/-- At every byte offset, inside the text or not, the rule that the index leads to is the first of
the whole list that applies there and has alternatives for the language, and if it leads to none,
there is none. So lists that have the same rules in the same order for every first character
transcribe every word alike. -/
theorem selection_scans_whole_list (list : RuleList) :
    (∀ (language : Option Language) (text : String) (offset : Nat),
      (∀ rule alternatives, list.select? language text offset = some (rule, alternatives) ↔
        ∃ earlier later, list.rules = earlier ++ rule :: later ∧
          rule.matchesAt text offset = true ∧ alternatives = rule.alternativesFor language ∧
          alternatives ≠ [] ∧ ∀ skipped ∈ earlier, skipped.matchesAt text offset = true →
            skipped.alternativesFor language = []) ∧
      (list.select? language text offset = none ↔
        ∀ rule ∈ list.rules, rule.matchesAt text offset = true →
          rule.alternativesFor language = [])) ∧
    ∀ other : RuleList,
      (∀ c, list.rules.filter (·.firstChar == c) = other.rules.filter (·.firstChar == c)) →
      ∀ (language : Option Language) (cap : Nat) (word : String),
        list.transcribe language cap word = other.transcribe language cap word := by
  refine ⟨fun language text offset =>
    ⟨fun rule alternatives => select?_eq_some_iff, select?_eq_none_iff⟩, ?_⟩
  intro other same language cap word
  refine transcribe_congr (fun progress => ?_) cap
  simp only [advance?, segmentAt?, select?, candidatesAt_congr same]

theorem selection_scans_whole_list_reordered :
    let polish := Rule.anywhere 'a' [] (.restricted "1" (.ofNames ["polish"])) []
    let other := Rule.anywhere 'b' [] (.plain "2") []
    let longer := Rule.anywhere 'a' ['b'] (.plain "3") []
    let list := ofList [polish, other, longer]
    let reordered := ofList [other, polish, longer]
    (∀ c, list.rules.filter (·.firstChar == c) = reordered.rules.filter (·.firstChar == c)) ∧
      (reordered.transcribe (some ⟨"german"⟩) 5 "abb").frontier.toList = ["32"] := by
  intro polish other longer list reordered
  have same : ∀ c, list.rules.filter (·.firstChar == c) =
      reordered.rules.filter (·.firstChar == c) := by
    intro c
    change [polish, other, longer].filter _ = [other, polish, longer].filter _
    have first : polish.firstChar = 'a' := rfl
    have second : other.firstChar = 'b' := rfl
    by_cases begins : c = 'a'
    · simp [List.filter_cons, first, second, begins]
    · have passed : (polish.firstChar == c) = false := by
        rw [first, beq_eq_false_iff_ne]
        exact Ne.symm begins
      simp [List.filter_cons, passed]
  refine ⟨same, ?_⟩
  rw [← (selection_scans_whole_list list).2 reordered same]
  decide +kernel

end RuleList

end Homophone
