import Homophone.Proofs.Coverage
import Homophone.Proofs.Prefixes

/-! Languages that are given instead of guessed.

An encoding depends on its languages through the words alone that it comes down to, those of both
names that are encoded for each prefix. If the same languages are guessed for all of these, they may
as well be given for the name.
-/

set_option autoImplicit false

namespace Homophone.Encoder

variable {encoder : Encoder}

/-! ## The words of a name -/

/-- A name comes down to a word: one of its own, or one of a name that a prefix leaves of it. -/
inductive ComesDownTo (encoder : Encoder) : List Char → String → Prop where
  | word {name : List Char} {word : String} (unsplit : encoder.split? name = none)
      (member : word ∈ encoder.words (encoder.normalize name)) : ComesDownTo encoder name word
  | rest {name rest joined : List Char} {word : String}
      (parts : encoder.split? name = some (rest, joined)) (inside : ComesDownTo encoder rest word) :
      ComesDownTo encoder name word
  | joined {name rest joined : List Char} {word : String}
      (parts : encoder.split? name = some (rest, joined))
      (inside : ComesDownTo encoder joined word) : ComesDownTo encoder name word

theorem comesDownTo_of_unsplit {name : List Char} (unsplit : encoder.split? name = none)
    {word : String} :
    encoder.ComesDownTo name word ↔ word ∈ encoder.words (encoder.normalize name) := by
  constructor
  · intro inside
    cases inside with
    | word _ member => exact member
    | rest parts _ =>
      rw [unsplit] at parts
      cases parts
    | joined parts _ =>
      rw [unsplit] at parts
      cases parts
  · exact .word unsplit

theorem comesDownTo_of_split {name rest joined : List Char}
    (parts : encoder.split? name = some (rest, joined)) {word : String} :
    encoder.ComesDownTo name word ↔
      encoder.ComesDownTo rest word ∨ encoder.ComesDownTo joined word := by
  constructor
  · intro inside
    cases inside with
    | word unsplit _ =>
      rw [unsplit] at parts
      cases parts
    | rest parts' inside =>
      rw [parts] at parts'
      cases parts'
      exact .inl inside
    | joined parts' inside =>
      rw [parts] at parts'
      cases parts'
      exact .inr inside
  · rintro (inside | inside)
    · exact .rest parts inside
    · exact .joined parts inside

/-! ## What an encoding depends on -/

variable {explicit explicit' : Option LanguageSet}

theorem encodeWords_congr {words : List String}
    (same : ∀ word ∈ words, encoder.encodeWord explicit word = encoder.encodeWord explicit' word) :
    encoder.encodeWords explicit words = encoder.encodeWords explicit' words := by
  rw [encodeWords, encodeWords, concatenate, concatenate, List.map_congr_left same]

/-- The same encoding comes about in the same way if the words have the same alternatives. -/
theorem Encodes.congr {name : List Char} {depth : Nat} {encoding : String}
    (encodes : encoder.Encodes explicit name depth encoding)
    (same : ∀ word, encoder.ComesDownTo name word →
      encoder.encodeWord explicit word = encoder.encodeWord explicit' word) :
    encoder.Encodes explicit' name depth encoding := by
  induction encodes with
  | whole unsplit =>
    rw [encodeWords_congr fun word member => same word (.word unsplit member)]
    exact .whole unsplit
  | split parts _ _ ihRest ihJoined =>
    exact .split parts (ihRest fun word inside => same word (.rest parts inside))
      (ihJoined fun word inside => same word (.joined parts inside))

theorem encodeName_congr {name : String}
    (same : ∀ word, encoder.ComesDownTo name.toList word →
      encoder.encodeWord explicit word = encoder.encodeWord explicit' word) :
    encoder.encodeName explicit name = encoder.encodeName explicit' name := by
  obtain ⟨_, encodes⟩ := encoder.exists_encodes_encodeName explicit name
  obtain ⟨_, encodes'⟩ := encoder.exists_encodes_encodeName explicit' name
  exact ((encodes.congr same).unique encodes').2

theorem encodeWord_guessLanguages (encoder : Encoder) (word : String) :
    encoder.encodeWord (some (encoder.guessLanguages word)) word =
      encoder.encodeWord none word := rfl

/-- If the same languages are guessed for all words that a name comes down to, the name has the same
encoding with these languages given. They are not refused: whatever is guessed has rules. A name that
comes down to no word says nothing of its languages, and any that are guessed elsewhere will do. -/
theorem encodeWithLanguages_of_guess {table : RuleTable} {settings : Settings} {encoder : Encoder}
    (built : new table settings = .ok encoder) {name : String} {languages : LanguageSet}
    (nonempty : languages.members ≠ [])
    (guessed : ∃ word, encoder.guessLanguages word = languages)
    (same : ∀ word, encoder.ComesDownTo name.toList word →
      encoder.guessLanguages word = languages) :
    encoder.encodeWithLanguages name languages = .ok (encoder.encode name) := by
  obtain ⟨rfl, rfl, _, reached, _⟩ := of_new built
  have served : ∀ language ∈ languages.members, (encoder.rules language).isSome = true := by
    obtain ⟨word, rfl⟩ := guessed
    exact fun language member => reached language (mem_reachable_of_guess member)
  -- What is given is, for each word, what would be guessed.
  have alike : encoder.encodeName (some languages) name = encoder.encodeName none name := by
    refine encodeName_congr fun word inside => ?_
    rw [← same word inside, encodeWord_guessLanguages]
  rw [encodeWithLanguages_of_served nonempty served, alike, encode]

def prefixTable : RuleTable := { guessTable with prefixes := fun _ => ["de"] }

theorem encodeWithLanguages_of_guess_prefix :
    ∃ encoder, new prefixTable { maxPhonemes := 2 } = .ok encoder ∧
      (∀ word, encoder.ComesDownTo "De Bateau".toList word ↔ word = "bateau" ∨ word = "debateau") ∧
      encoder.guessLanguages "bateau" = .ofList [⟨"french"⟩] ∧
      encoder.guessLanguages "debateau" = .ofList [⟨"french"⟩] ∧
      encoder.encodeWithLanguages "De Bateau" (.ofList [⟨"french"⟩]) =
        .ok "(bataau|bataiu)-(dabataau|dabataiu)" := by
  have outcome : (new prefixTable { maxPhonemes := 2 }).toOption.map (fun encoder =>
      (encoder.guessLanguages "bateau", encoder.guessLanguages "debateau",
        encoder.encode "De Bateau")) =
      some (.ofList [⟨"french"⟩], .ofList [⟨"french"⟩],
        "(bataau|bataiu)-(dabataau|dabataiu)") := by
    decide +kernel
  obtain ⟨encoder, built, seen⟩ := exists_of_new (fun encoder =>
      ["De Bateau", "bateau", "debateau"].map fun name =>
        (encoder.split? name.toList, encoder.words (encoder.normalize name.toList)))
    (show (new prefixTable { maxPhonemes := 2 }).toOption.map _ =
        some [(some ("bateau".toList, "debateau".toList), ["de", "bateau"]),
          (none, ["bateau"]), (none, ["debateau"])] by
      decide +kernel)
  rw [built] at outcome
  simp only [Except.toOption, Option.map_some, Option.some.injEq, Prod.mk.injEq] at outcome
  obtain ⟨guess, guess', encoding⟩ := outcome
  simp only [List.map_cons, List.map_nil, List.cons.injEq, Prod.mk.injEq, and_true] at seen
  obtain ⟨⟨parts, _⟩, ⟨unsplit, words⟩, unsplit', words'⟩ := seen
  have inside (word : String) :
      encoder.ComesDownTo "De Bateau".toList word ↔ word = "bateau" ∨ word = "debateau" := by
    rw [comesDownTo_of_split parts, comesDownTo_of_unsplit unsplit, comesDownTo_of_unsplit unsplit',
      words, words', List.mem_singleton, List.mem_singleton]
  refine ⟨encoder, built, inside, guess, guess', ?_⟩
  rw [encodeWithLanguages_of_guess built (by decide) ⟨"bateau", guess⟩ ?_, encoding]
  intro word comes
  rcases (inside word).1 comes with rfl | rfl
  · exact guess
  · exact guess'

end Homophone.Encoder
