import Homophone.Proofs.Selection

/-! Transcribing for one language, and transcribing by the part of a list that is for it.

Alternatives for other languages are passed over as a word is read, place by place. Taking them out
of the list beforehand, and the rules that then have none left, comes to the same. So nothing about
these alternatives matters but that they are for other languages.
-/

set_option autoImplicit false

namespace Homophone

/-- Whether the alternative is for other languages only. None is when the language is the fallback
language. -/
def Phoneme.excludes (phoneme : Phoneme) (language : Language) : Bool :=
  language ≠ Language.any && phoneme.languages.any fun allowed => !allowed.contains language

theorem Phoneme.appliesTo_some (phoneme : Phoneme) (language : Language) :
    phoneme.appliesTo (some language) = !phoneme.excludes language := by
  cases restriction : phoneme.languages with
  | none => simp [appliesTo, excludes, restriction]
  | some allowed =>
    by_cases fallback : language = Language.any <;>
      simp [appliesTo, excludes, restriction, fallback]

namespace Rule

/-- The rule without the alternatives for other languages, unless it has no others. -/
def specialize? (language : Language) (rule : Rule) : Option Rule :=
  if excluded : rule.phonemes.filter (!·.excludes language) = [] then none
  else some
    { rule with
      phonemes := rule.phonemes.filter (!·.excludes language)
      phonemes_ne_nil := excluded }

theorem alternativesFor_some (rule : Rule) (language : Language) :
    rule.alternativesFor (some language) =
      (rule.phonemes.filter (!·.excludes language)).map (·.text) := by
  simp only [alternativesFor, Phoneme.appliesTo_some]

theorem alternativesFor_none (rule : Rule) :
    rule.alternativesFor none = rule.phonemes.map (·.text) := by
  rw [alternativesFor, List.filter_eq_self.2]
  intro phoneme _
  rfl

theorem alternativesFor_eq_nil_iff {rule : Rule} {language : Language} :
    rule.alternativesFor (some language) = [] ↔
      ∀ phoneme ∈ rule.phonemes, phoneme.excludes language = true := by
  simp [alternativesFor_some]

theorem specialize?_eq_none_iff {rule : Rule} {language : Language} :
    rule.specialize? language = none ↔ rule.alternativesFor (some language) = [] := by
  rw [alternativesFor_some, List.map_eq_nil_iff, specialize?]
  split
  · next excluded => exact iff_of_true rfl excluded
  · next left => exact iff_of_false (Option.some_ne_none _) left

theorem of_specialize? {rule part : Rule} {language : Language}
    (left : rule.specialize? language = some part) :
    part.pattern = rule.pattern ∧
      part.alternativesFor none = rule.alternativesFor (some language) ∧
      ∀ word offset, part.isUsableAt none word offset =
        rule.isUsableAt (some language) word offset := by
  rw [specialize?] at left
  split at left
  · cases left
  · cases left
    have same := (alternativesFor_some rule language).symm
    refine ⟨rfl, ?_, fun word offset => ?_⟩
    · rw [alternativesFor_none, same]
    · rw [isUsableAt, isUsableAt, alternativesFor_none, same]
      rfl

end Rule

namespace RuleList

def specialize (list : RuleList) (language : Language) : RuleList :=
  ofList (list.rules.filterMap (Rule.specialize? language))

/-- Where the first rule of use is found, what is left of it is the first of use in what is left of
the list. -/
theorem find?_specialize (rules : List Rule) (language : Language) (word : String)
    (offset : Nat) :
    (rules.filterMap (Rule.specialize? language)).find? (·.isUsableAt none word offset) =
      (rules.find? (·.isUsableAt (some language) word offset)).bind
        (Rule.specialize? language) := by
  induction rules with
  | nil => rfl
  | cons rule rest ih =>
    cases left : rule.specialize? language with
    | none =>
      have useless : rule.isUsableAt (some language) word offset = false := by
        rw [Bool.eq_false_iff, ne_eq, Rule.isUsableAt_iff]
        exact fun usable => usable.2 (Rule.specialize?_eq_none_iff.1 left)
      rw [List.filterMap_cons_none left, List.find?_cons, useless]
      exact ih
    | some part =>
      have same := (Rule.of_specialize? left).2.2 word offset
      rw [List.filterMap_cons_some left, List.find?_cons, List.find?_cons, same]
      split
      · exact left.symm
      · exact ih

theorem advance?_specialize (list : RuleList) (language : Language) (word : String)
    (progress : Progress) :
    list.advance? (some language) word progress =
      (list.specialize language).advance? none word progress := by
  have found := find?_specialize list.rules language word progress.offset
  cases first : list.rules.find? (·.isUsableAt (some language) word progress.offset) with
  | none =>
    rw [first, Option.bind_none] at found
    rw [advance?, advance?, segmentAt?_of_not_find? first,
      @segmentAt?_of_not_find? (list.specialize language) _ _ _ found]
  | some rule =>
    have usable : rule.isUsableAt (some language) word progress.offset = true :=
      (List.find?_eq_some_iff_append.1 first).1
    obtain ⟨part, left⟩ := Option.ne_none_iff_exists'.1 fun dropped =>
      (Rule.isUsableAt_iff.1 usable).2 (Rule.specialize?_eq_none_iff.1 dropped)
    obtain ⟨pattern, alternatives, _⟩ := Rule.of_specialize? left
    rw [first, Option.bind_some, left] at found
    rw [advance?, advance?, segmentAt?_of_find? first,
      @segmentAt?_of_find? (list.specialize language) _ _ _ _ found, alternatives]
    simp only [Option.map_some, Progress.past, Segment.width, Segment.source, pattern,
      Segment.extend, SegmentCounts.add]

theorem transcribe_eq_specialize (list : RuleList) (language : Language) (cap : Nat)
    (word : String) :
    list.transcribe (some language) cap word =
      (list.specialize language).transcribe none cap word :=
  transcribe_congr (list.advance?_specialize language word) cap

theorem transcribe_of_specialize_eq {list other : RuleList} {language : Language}
    (same : list.rules.filterMap (Rule.specialize? language) =
      other.rules.filterMap (Rule.specialize? language))
    (cap : Nat) (word : String) :
    list.transcribe (some language) cap word = other.transcribe (some language) cap word := by
  rw [transcribe_eq_specialize, transcribe_eq_specialize, specialize, specialize, same]

end RuleList

/-! ## Alternatives for other languages -/

/-- The same restriction, and the same text unless the alternative is for other languages only. -/
structure Phoneme.AgreesFor (language : Language) (first second : Phoneme) : Prop where
  languages_eq : first.languages = second.languages
  text_eq : first.excludes language = false → first.text = second.text

theorem Phoneme.AgreesFor.excludes_eq {language : Language} {first second : Phoneme}
    (agree : first.AgreesFor language second) :
    second.excludes language = first.excludes language := by
  rw [excludes, excludes, agree.languages_eq]

theorem Phoneme.AgreesFor.filter_eq {language : Language} {phonemes others : List Phoneme}
    (agree : List.Forall₂ (AgreesFor language) phonemes others) :
    phonemes.filter (!·.excludes language) = others.filter (!·.excludes language) := by
  induction agree with
  | nil => rfl
  | @cons first second _ _ same _ ih =>
    rw [List.filter_cons, List.filter_cons, same.excludes_eq, ih]
    cases out : first.excludes language with
    | true => rfl
    | false =>
      have equal : first = second := by
        cases first
        cases second
        cases same.languages_eq
        cases same.text_eq out
        rfl
      rw [equal]

/-- The same rule, but for the texts of alternatives for other languages. -/
structure Rule.AgreesFor (language : Language) (first second : Rule) : Prop where
  pattern_eq : first.pattern = second.pattern
  left_eq : first.left = second.left
  right_eq : first.right = second.right
  phonemes : List.Forall₂ (Phoneme.AgreesFor language) first.phonemes second.phonemes

theorem Rule.AgreesFor.specialize?_eq {language : Language} {first second : Rule}
    (agree : first.AgreesFor language second) :
    first.specialize? language = second.specialize? language := by
  simp only [specialize?, agree.pattern_eq, agree.left_eq, agree.right_eq,
    Phoneme.AgreesFor.filter_eq agree.phonemes]

theorem RuleList.filterMap_specialize?_eq {language : Language} {rules others : List Rule}
    (agree : List.Forall₂ (Rule.AgreesFor language) rules others) :
    rules.filterMap (Rule.specialize? language) = others.filterMap (Rule.specialize? language) := by
  induction agree with
  | nil => rfl
  | cons same _ ih => rw [List.filterMap_cons, List.filterMap_cons, same.specialize?_eq, ih]

namespace RuleList

theorem segmentAt?_eq_copied_iff {list : RuleList} {language : Option Language} {word : String}
    {offset : Nat} {c : Char} :
    list.segmentAt? language word offset = some (.copied c) ↔
      Text.charAtByte? offset word.toList = some c ∧
        ∀ rule ∈ list.rules, rule.matchesAt word offset = true →
          rule.alternativesFor language = [] := by
  rw [← select?_eq_none_iff, segmentAt?]
  split
  · next selected => simp [selected]
  · next unused => simp [unused, and_comm]

/-- A word is transcribed for a language as the part of the list that is for it transcribes the word
without a language, with the same candidates and the same counts. So a rule without alternatives for
the language might as well not be there: where it applies, later rules are tried, and a character is
copied only where no rule applies that has one. And the texts of alternatives for other languages
may be any. -/
theorem transcribe_for_language (list : RuleList) (language : Language) :
    (∀ (cap : Nat) (word : String), list.transcribe (some language) cap word =
      (list.specialize language).transcribe none cap word) ∧
    (∀ earlier rule later, list.rules = earlier ++ rule :: later →
      (∀ phoneme ∈ rule.phonemes, phoneme.excludes language = true) →
      ∀ (cap : Nat) (word : String), list.transcribe (some language) cap word =
        (ofList (earlier ++ later)).transcribe (some language) cap word) ∧
    (∀ (word : String) (offset : Nat) (c : Char),
      list.segmentAt? (some language) word offset = some (.copied c) ↔
        Text.charAtByte? offset word.toList = some c ∧
          ∀ rule ∈ list.rules, rule.matchesAt word offset = true →
            ∀ phoneme ∈ rule.phonemes, phoneme.excludes language = true) ∧
    ∀ other : RuleList, List.Forall₂ (Rule.AgreesFor language) list.rules other.rules →
      ∀ (cap : Nat) (word : String), list.transcribe (some language) cap word =
        other.transcribe (some language) cap word := by
  refine ⟨list.transcribe_eq_specialize language, ?_, ?_, ?_⟩
  · intro earlier rule later parts excluded
    have gone := Rule.specialize?_eq_none_iff.2 (Rule.alternativesFor_eq_nil_iff.2 excluded)
    apply transcribe_of_specialize_eq
    rw [parts, ofList, List.filterMap_append, List.filterMap_append,
      List.filterMap_cons_none gone]
  · intro word offset c
    rw [segmentAt?_eq_copied_iff]
    simp only [Rule.alternativesFor_eq_nil_iff]
  · intro other agree
    exact transcribe_of_specialize_eq (filterMap_specialize?_eq agree)

theorem transcribe_for_language_german :
    let german : Language := ⟨"german"⟩
    let polish := LanguageSet.ofNames ["polish"]
    let single (text : String) := Rule.anywhere 'w' [] (.restricted text polish) []
    let double := Rule.anywhere 'w' ['o'] (.plain "vo") []
    let vowel (text : String) := Rule.anywhere 'o' [] (.plain "o") [.restricted text polish]
    let list := ofList [single "v", double, vowel "u"]
    let other := ofList [single "f", double, vowel "y"]
    (∀ phoneme ∈ (single "v").phonemes, phoneme.excludes german = true) ∧
      List.Forall₂ (Rule.AgreesFor german) list.rules other.rules ∧
      ((list.specialize german).transcribe none 10 "wow").frontier.toList = ["vow"] ∧
      ((ofList [double, vowel "u"]).transcribe (some german) 10 "wow").frontier.toList = ["vow"] ∧
      (other.transcribe (some german) 10 "wow").frontier.toList = ["vow"] := by
  intro german polish single double vowel list other
  obtain ⟨specialized, without, _, alike⟩ := transcribe_for_language list german
  have restricted : ∀ text, (Phoneme.restricted text polish).excludes german = true :=
    fun _ => (by decide +kernel : (Phoneme.restricted "" polish).excludes german = true)
  have excluded : ∀ phoneme ∈ (single "v").phonemes, phoneme.excludes german = true := by
    intro phoneme member
    rw [List.mem_singleton.1 member]
    exact restricted "v"
  have plain : ∀ text, (Phoneme.plain text).AgreesFor german (.plain text) :=
    fun _ => ⟨rfl, fun _ => rfl⟩
  have changed : ∀ text text',
      (Phoneme.restricted text polish).AgreesFor german (.restricted text' polish) :=
    fun text _ => ⟨rfl, fun kept => nomatch (restricted text).symm.trans kept⟩
  have agree : List.Forall₂ (Rule.AgreesFor german) list.rules other.rules :=
    .cons ⟨rfl, rfl, rfl, .cons (changed _ _) .nil⟩
      (.cons ⟨rfl, rfl, rfl, .cons (plain _) .nil⟩
        (.cons ⟨rfl, rfl, rfl, .cons (plain _) (.cons (changed _ _) .nil)⟩ .nil))
  have german_wow : (list.transcribe (some german) 10 "wow").frontier.toList = ["vow"] := by
    decide +kernel
  refine ⟨excluded, agree, ?_, ?_, ?_⟩
  · rw [← specialized, german_wow]
  · exact without [] (single "v") [double, vowel "u"] rfl excluded 10 "wow" ▸ german_wow
  · rw [← alike other agree, german_wow]

end RuleList

end Homophone
