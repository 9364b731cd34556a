import Homophone.Proofs.FirstDistinct
import Homophone.Proofs.RuleText
import Mathlib.Data.List.TakeWhile

/-! Rules as lines of a rule file.

What separates the parts of a rule cannot stand in the parts themselves, so a rule that was read from
a line is read again from the line that it is written as. There is one exception: an alternative that
stands alone is written without parentheses, and if its text begins with one, it is taken for a list.
-/

set_option autoImplicit false

namespace Homophone

open Unicode (isWhiteSpace)

namespace Text

/-! ## Up to a character -/

theorem takeWhile_ne_append {c : Char} {text : List Char} (free : c ∉ text) (rest : List Char) :
    (text ++ c :: rest).takeWhile (· ≠ c) = text := by
  have before : ∀ d ∈ text, decide (d ≠ c) = true := fun d inside =>
    decide_eq_true fun same => free (same ▸ inside)
  rw [List.takeWhile_append_of_pos before, List.takeWhile_cons_of_neg (by simp), List.append_nil]

theorem dropWhile_ne_append {c : Char} {text : List Char} (free : c ∉ text) (rest : List Char) :
    (text ++ c :: rest).dropWhile (· ≠ c) = c :: rest := by
  have before : ∀ d ∈ text, decide (d ≠ c) = true := fun d inside =>
    decide_eq_true fun same => free (same ▸ inside)
  rw [List.dropWhile_append_of_pos before, List.dropWhile_cons_of_neg (by simp)]

theorem dropWhile_ne_eq_nil_iff {c : Char} {text : List Char} :
    text.dropWhile (· ≠ c) = [] ↔ c ∉ text := by
  simp [List.dropWhile_eq_nil_iff, List.forall_mem_ne']

end Text

/-! ## Languages between brackets -/

namespace LanguageSet

theorem ofList_members (set : LanguageSet) : ofList set.members = set :=
  ext ((members_ofList set.members).trans (eraseDups_of_nodup set.nodup))

/-- Names as they are read between plus signs. -/
def Named (set : LanguageSet) : Prop :=
  ∀ language ∈ set.members, language.name ≠ "" ∧ '+' ∉ language.name.toList ∧
    Text.Trimmed language.name.toList

end LanguageSet

namespace RuleFile

/-! ## Languages -/

theorem exists_piece_of_mem_readLanguages {names : List Char} {language : Language}
    (member : language ∈ readLanguages names) :
    ∃ piece ∈ Text.pieces (· == '+') names, Text.trim piece ≠ [] ∧
      language = ⟨String.ofList (Text.trim piece)⟩ := by
  simp only [readLanguages, languagesBetween, LanguageSet.ofNames, LanguageSet.mem_ofList,
    List.mem_map, List.mem_filter] at member
  obtain ⟨_, ⟨_, ⟨⟨piece, listed, rfl⟩, nonempty⟩, rfl⟩, rfl⟩ := member
  exact ⟨piece, listed, by simpa using nonempty, rfl⟩

theorem named_readLanguages (names : List Char) : (readLanguages names).Named := by
  intro language member
  obtain ⟨piece, listed, nonempty, rfl⟩ := exists_piece_of_mem_readLanguages member
  refine ⟨fun empty => nonempty (String.toList_eq_nil_iff.2 empty ▸ by simp), ?_, ?_⟩
  · rw [String.toList_ofList]
    intro plus
    have ordinary := Text.ordinary_of_mem_pieces listed ((Text.trim_isInfix piece).subset plus)
    simp at ordinary
  · rw [String.toList_ofList]
    exact Text.trimmed_trim piece

theorem readLanguages_render {set : LanguageSet} (named : set.Named) (nonempty : set.members ≠ []) :
    readLanguages set.render.toList = set := by
  have free : ∀ text ∈ set.members.map (·.name.toList), '+' ∉ text := by
    simpa using fun language member => (named language member).2.1
  have parts : Text.pieces (· == '+') set.render.toList = set.members.map (·.name.toList) := by
    rw [LanguageSet.render, String.toList_intercalate, List.map_map]
    exact Text.pieces_intercalate_of_free (by simpa using nonempty) free
  have trimmed : ∀ name ∈ set.members.map (·.name.toList), Text.trim name = name := by
    simpa using fun language member => (named language member).2.2.trim_eq
  have kept : ∀ name ∈ set.members.map (·.name.toList), (!name.isEmpty) = true := by
    simpa using fun language member => (named language member).1
  rw [readLanguages, languagesBetween, parts, List.map_congr_left trimmed, List.map_id',
    List.filter_eq_self.2 kept, LanguageSet.ofNames]
  simpa [Function.comp_def] using set.ofList_members

/-! ## Alternatives -/

theorem dropLast?_eq_some_iff {c : Char} {text before : List Char} :
    dropLast? c text = some before ↔ text = before ++ [c] := by
  rw [dropLast?]
  constructor
  · intro found
    split at found
    · next ends =>
      cases found
      obtain ⟨others, rfl⟩ := List.getLast?_eq_some_iff.1 ends
      rw [List.dropLast_concat]
    · cases found
  · rintro rfl
    simp

theorem readPhoneme_of_free {field : List Char} (free : '[' ∉ field) :
    readPhoneme field = if field.contains ']' then .error (.unbalancedRestriction (String.ofList field))
      else .ok (.plain (String.ofList field)) := by
  rw [readPhoneme, Text.dropWhile_ne_eq_nil_iff.2 free]

theorem readPhoneme_restricted {text : List Char} (free : '[' ∉ text) (names : List Char)
    (nonempty : (readLanguages names).members ≠ []) :
    readPhoneme (text ++ '[' :: (names ++ [']'])) =
      .ok (.restricted (String.ofList text) (readLanguages names)) := by
  have given : (readLanguages names).isEmpty = false := List.isEmpty_eq_false_iff.2 nonempty
  rw [readPhoneme, Text.dropWhile_ne_append free, Text.takeWhile_ne_append free]
  simp [dropLast?_eq_some_iff.2, given]

/-- An alternative is a text without brackets, or one that names some languages after it. -/
theorem readPhoneme_eq_ok_iff {field : List Char} {phoneme : Phoneme} :
    readPhoneme field = .ok phoneme ↔
      ('[' ∉ field ∧ ']' ∉ field ∧ phoneme = .plain (String.ofList field)) ∨
      ∃ text names, field = text ++ '[' :: (names ++ [']']) ∧ '[' ∉ text ∧
        (readLanguages names).members ≠ [] ∧
        phoneme = .restricted (String.ofList text) (readLanguages names) := by
  constructor
  · intro read
    by_cases bracket : '[' ∈ field
    · obtain ⟨text, rest, rfl, free⟩ := List.eq_append_cons_of_mem bracket
      rw [readPhoneme, Text.dropWhile_ne_append free, Text.takeWhile_ne_append free] at read
      dsimp only at read
      split at read
      · cases read
      · next names closed =>
        split at read
        · cases read
        · next given =>
          cases read
          exact .inr ⟨text, names, by rw [dropLast?_eq_some_iff.1 closed], free,
            fun empty => given (List.isEmpty_iff.2 empty), rfl⟩
    · rw [readPhoneme_of_free bracket] at read
      split at read
      · cases read
      · next unclosed =>
        cases read
        exact .inl ⟨bracket, by simpa using unclosed, rfl⟩
  · rintro (⟨free, unclosed, rfl⟩ | ⟨text, names, rfl, free, nonempty, rfl⟩)
    · rw [readPhoneme_of_free free, if_neg (by simpa using unclosed)]
    · exact readPhoneme_restricted free names nonempty

theorem readPhonemes_eq_ok_iff {field : List Char} {phonemes : List Phoneme} :
    readPhonemes field = .ok phonemes ↔
      (∃ body, field = '(' :: (body ++ [')']) ∧
        List.Forall₂ (fun piece phoneme => readPhoneme piece = .ok phoneme)
          (Text.pieces (· == '|') body) phonemes) ∨
      (field.head? ≠ some '(' ∧ ∃ phoneme, readPhoneme field = .ok phoneme ∧
        phonemes = [phoneme]) := by
  unfold readPhonemes
  split
  · next body =>
    cases closed : dropLast? ')' body with
    | none =>
      constructor
      · intro read
        cases read
      · rintro (⟨inner, same, _⟩ | ⟨lone, _⟩)
        · rw [dropLast?_eq_some_iff.2 (List.cons.inj same).2] at closed
          cases closed
        · exact absurd rfl lone
    | some inner =>
      have parts := dropLast?_eq_some_iff.1 closed
      simp [parts, mapM_eq_ok_iff]
  · next lone =>
    have start : field.head? ≠ some '(' := by
      intro first
      obtain ⟨body, rfl⟩ := List.head?_eq_some_iff.1 first
      exact lone body rfl
    have unlisted : ∀ body, field ≠ '(' :: (body ++ [')']) := fun body => lone _
    simp [bind_eq_ok_iff, start, unlisted, pure, Except.pure, @eq_comm _ phonemes]

/-! ## Writing alternatives -/

theorem toList_render_plain (text : String) :
    (Phoneme.plain text).render.toList = text.toList := rfl

theorem toList_render_restricted (text : String) (languages : LanguageSet) :
    (Phoneme.restricted text languages).render.toList =
      text.toList ++ '[' :: (languages.render.toList ++ [']']) := by
  simp [Phoneme.render, Phoneme.restricted]

theorem readPhoneme_render {field : List Char} {phoneme : Phoneme}
    (read : readPhoneme field = .ok phoneme) : readPhoneme phoneme.render.toList = .ok phoneme := by
  rcases readPhoneme_eq_ok_iff.1 read with ⟨_, _, rfl⟩ | ⟨text, names, _, free, nonempty, rfl⟩
  · rw [toList_render_plain, String.toList_ofList]
    exact read
  · have again := readLanguages_render (named_readLanguages names) nonempty
    rw [toList_render_restricted, String.toList_ofList, readPhoneme_restricted free, again]
    rwa [again]

theorem plain_render_readLanguages {separators names : List Char}
    (plain : Plain separators names) (other : '+' ∉ separators) :
    Plain separators (readLanguages names).render.toList := by
  rw [LanguageSet.render, String.toList_intercalate]
  refine Plain.intercalate (c := '+') (fun text listed => ?_) (by simpa using other)
  obtain ⟨name, named, rfl⟩ := List.mem_map.1 listed
  obtain ⟨language, member, rfl⟩ := List.mem_map.1 named
  obtain ⟨piece, part, _, rfl⟩ := exists_piece_of_mem_readLanguages member
  rw [String.toList_ofList]
  exact plain.of_isInfix ((Text.trim_isInfix piece).trans (Text.isInfix_of_mem_pieces part))

theorem plain_render {separators field : List Char} {phoneme : Phoneme}
    (read : readPhoneme field = .ok phoneme) (plain : Plain separators field)
    (others : ∀ c ∈ ['[', ']', '+'], c ∉ separators) :
    Plain separators phoneme.render.toList := by
  rcases readPhoneme_eq_ok_iff.1 read with ⟨_, _, rfl⟩ | ⟨text, names, rfl, _, _, rfl⟩
  · rwa [toList_render_plain, String.toList_ofList]
  · rw [toList_render_restricted, String.toList_ofList]
    have named : Plain separators names := plain.of_isInfix ⟨text ++ ['['], [']'], by simp⟩
    have closed := (plain_render_readLanguages named (others '+' (by simp))).append_cons plain_nil
      (c := ']') (by simpa using others ']' (by simp))
    exact (plain.of_isInfix ⟨[], _, rfl⟩).append_cons closed (by simpa using others '[' (by simp))

def phonemeField (phonemes : List Phoneme) : List Char :=
  match phonemes with
  | [single] => single.render.toList
  | several => '(' :: (['|'].intercalate (several.map (·.render.toList)) ++ [')'])

/-- One alternative whose text begins like a list. -/
def LooksListed (phonemes : List Phoneme) : Prop :=
  ∃ phoneme, phonemes = [phoneme] ∧ phoneme.text.toList.head? = some '('

theorem head?_render {phoneme : Phoneme} {c : Char} (ordinary : c ≠ '[') :
    phoneme.render.toList.head? = some c ↔ phoneme.text.toList.head? = some c := by
  cases languages : phoneme.languages with
  | none => simp [Phoneme.render, languages]
  | some set =>
    cases text : phoneme.text.toList <;> simp [Phoneme.render, languages, text, ordinary.symm]

theorem plain_phonemeField {separators field : List Char} {phonemes : List Phoneme}
    (read : readPhonemes field = .ok phonemes) (plain : Plain separators field)
    (others : ∀ c ∈ ['[', ']', '+', '(', '|', ')'], c ∉ separators) :
    Plain separators (phonemeField phonemes) := by
  have apart : ∀ c ∈ ['[', ']', '+'], c ∉ separators := fun c member => others c (by grind)
  have renders : ∀ phoneme ∈ phonemes, Plain separators phoneme.render.toList := by
    intro phoneme member
    rcases readPhonemes_eq_ok_iff.1 read with ⟨body, rfl, each⟩ | ⟨_, single, here, rfl⟩
    · obtain ⟨piece, listed, here⟩ := exists_of_forall₂ each member
      exact plain_render here (plain.of_isInfix
        ((Text.isInfix_of_mem_pieces listed).trans ⟨['('], [')'], rfl⟩)) apart
    · exact List.mem_singleton.1 member ▸ plain_render here plain apart
  unfold phonemeField
  split
  · next single => exact renders single (by simp)
  · have joined : Plain separators (['|'].intercalate (phonemes.map (·.render.toList))) :=
      Plain.intercalate (by simpa using renders) (by simpa using others '|' (by simp))
    exact plain_nil.append_cons (joined.append_cons plain_nil
      (by simpa using others ')' (by simp))) (by simpa using others '(' (by simp))

theorem readPhonemes_phonemeField {field : List Char} {phonemes : List Phoneme}
    (read : readPhonemes field = .ok phonemes) (uncommented : Uncommented field)
    (unlisted : ¬LooksListed phonemes) :
    readPhonemes (phonemeField phonemes) = .ok phonemes := by
  have lone : ∀ phoneme, phonemes = [phoneme] → readPhoneme phoneme.render.toList = .ok phoneme →
      readPhonemes (phonemeField phonemes) = .ok phonemes := by
    rintro phoneme rfl here
    exact readPhonemes_eq_ok_iff.2 (.inr ⟨fun first => unlisted
      ⟨phoneme, rfl, (head?_render (by decide)).1 first⟩, phoneme, here, rfl⟩)
  rcases readPhonemes_eq_ok_iff.1 read with ⟨body, rfl, each⟩ | ⟨_, phoneme, here, single⟩
  · have renders : ∀ phoneme ∈ phonemes, readPhoneme phoneme.render.toList = .ok phoneme ∧
        '|' ∉ phoneme.render.toList := by
      intro phoneme member
      obtain ⟨piece, listed, here⟩ := exists_of_forall₂ each member
      have inside : piece <:+: '(' :: (body ++ [')']) :=
        (Text.isInfix_of_mem_pieces listed).trans ⟨['('], [')'], rfl⟩
      have plain : Plain ['|'] piece := by
        refine ⟨fun c bar member => ?_, uncommented.of_isInfix inside⟩
        have ordinary := Text.ordinary_of_mem_pieces listed member
        simp [List.mem_singleton.1 bar] at ordinary
      exact ⟨readPhoneme_render here, (plain_render here plain (by simp)).free '|' (by simp)⟩
    rcases phonemes with _ | ⟨first, _ | ⟨second, others⟩⟩
    · cases Text.pieces_ne_nil _ _ (List.forall₂_nil_right_iff.1 each)
    · exact lone first rfl (renders first (by simp)).1
    -- Several alternatives are separated by bars that are in none of them.
    · refine readPhonemes_eq_ok_iff.2 (.inl ⟨_, rfl, ?_⟩)
      rw [Text.pieces_intercalate_of_free (by simp) (by simpa using fun p m => (renders p m).2),
        List.forall₂_map_left_iff]
      exact List.forall₂_same.2 fun phoneme member => (renders phoneme member).1
  · exact lone phoneme single (readPhoneme_render here)

/-- What looks like a list is not read as the alternative that it is written for. -/
theorem readPhonemes_phonemeField_ne {phonemes : List Phoneme} (listed : LooksListed phonemes) :
    readPhonemes (phonemeField phonemes) ≠ .ok phonemes := by
  obtain ⟨phoneme, rfl, opens⟩ := listed
  intro read
  rcases readPhonemes_eq_ok_iff.1 read with ⟨body, field, each⟩ | ⟨lone, _⟩
  · obtain ⟨piece, others, here, _, whole⟩ := List.forall₂_cons_right_iff.1 each
    have inside : piece <:+: body := Text.isInfix_of_mem_pieces (whole ▸ List.mem_cons_self)
    change phoneme.render.toList = '(' :: (body ++ [')']) at field
    rcases readPhoneme_eq_ok_iff.1 here with ⟨_, _, rfl⟩ | ⟨text, names, rfl, _, _, rfl⟩
    -- Between the parentheses there is less than the text that would have to come out of it.
    · rw [toList_render_plain, String.toList_ofList] at field
      have shorter := inside.length_le
      have longer := congrArg List.length field
      simp only [List.length_cons, List.length_append, List.length_nil] at longer
      omega
    -- A restriction does not end as a list does.
    · rw [toList_render_restricted, ← List.cons_append, ← List.cons_append, ← List.append_assoc] at field
      have ends := List.append_inj_right' field rfl
      simp at ends
  · exact lone ((head?_render (by decide)).2 opens)

end RuleFile

end Homophone
