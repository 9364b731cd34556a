import Homophone.Proofs.Loading
import Homophone.Proofs.NameEncoding
import Homophone.Proofs.RuleNotation
import Mathlib.Data.List.Nodup

/-! Bars in encodings.

A bar separates the alternatives of an encoding, so the cap can be read off the text as long as no
alternative has a bar in it. Names bring none: bars separate their words. Rules bring none from
alternatives between parentheses, but an alternative without these is taken as it stands.
-/

set_option autoImplicit false

namespace Homophone

def Barless (text : String) : Prop := '|' ∉ text.toList

instance (text : String) : Decidable (Barless text) := inferInstanceAs (Decidable (¬_))

theorem barless_append {first second : String} :
    Barless (first ++ second) ↔ Barless first ∧ Barless second := by
  simp [Barless, not_or]

theorem barless_choices {lists : List (List String)}
    (each : ∀ alternatives ∈ lists, ∀ text ∈ alternatives, Barless text) {choice : String}
    (member : choice ∈ choices lists) : Barless choice := by
  induction lists generalizing choice with
  | nil =>
    cases List.mem_singleton.1 member
    decide
  | cons alternatives rest ih =>
    obtain ⟨first, here, continued⟩ := List.mem_flatMap.1 member
    obtain ⟨last, later, rfl⟩ := List.mem_map.1 continued
    exact barless_append.2 ⟨each alternatives List.mem_cons_self first here,
      ih (fun others known => each others (List.mem_cons_of_mem _ known)) later⟩

/-! ## Joined texts -/

theorem pieces_join {separator : Char} {texts : List String} (nonempty : texts ≠ []) :
    Text.pieces (· == separator) ((String.singleton separator).intercalate texts).toList =
      texts.flatMap fun text => Text.pieces (· == separator) text.toList := by
  rw [String.toList_intercalate, String.toList_singleton,
    Text.pieces_intercalate (p := (· == separator)) (beq_self_eq_true separator)
      (by simpa using nonempty), List.flatMap_map]

theorem pieces_join_bars {texts : List String} (barless : ∀ text ∈ texts, Barless text) :
    Text.pieces (· == '|') ("|".intercalate texts).toList =
      if texts = [] then [[]] else texts.map String.toList := by
  split
  · next empty => simp [empty, Text.pieces]
  · next nonempty =>
    have bar : "|".toList = ['|'] := rfl
    rw [String.toList_intercalate, bar]
    exact Text.pieces_intercalate_of_free (by simpa using nonempty) (List.forall_mem_map.2 barless)

theorem read_join_bars {texts : List String} (barless : ∀ text ∈ texts, Barless text)
    (distinct : texts.Nodup) {cap : Nat} (few : texts.length ≤ cap) (positive : 0 < cap) :
    (Text.pieces (· == '|') ("|".intercalate texts).toList).length ≤ cap ∧
      (Text.pieces (· == '|') ("|".intercalate texts).toList).Nodup := by
  rw [pieces_join_bars barless]
  split
  · exact ⟨positive, List.nodup_singleton []⟩
  · rw [List.length_map]
    exact ⟨few, distinct.map fun _ _ => String.toList_inj.1⟩

/-! ## Transcriptions -/

def Rule.Barless (rule : Rule) : Prop := ∀ phoneme ∈ rule.phonemes, Homophone.Barless phoneme.text

def RuleList.Barless (list : RuleList) : Prop := ∀ rule ∈ list.rules, rule.Barless

theorem RuleList.Cuts.barless {list : RuleList} {language : Option Language} {word : String}
    {offset : Nat} {segments : List Segment} (cuts : list.Cuts language word offset segments)
    (rules : list.Barless) (plain : Homophone.Barless word) :
    ∀ segment ∈ segments, ∀ text ∈ segment.alternatives, Homophone.Barless text := by
  -- A segment writes what a phoneme of the list says, or copies a character of the word.
  induction cuts with
  | finished => simp
  | @replaced _ rule _ first _ ih =>
    have known : rule ∈ list.rules := List.mem_of_find?_eq_some first
    rw [List.forall_mem_cons]
    refine ⟨fun text member => ?_, ih⟩
    obtain ⟨phoneme, listed, rfl⟩ := List.mem_map.1 member
    exact rules rule known phoneme (List.mem_of_mem_filter listed)
  | @copied _ c _ _ here _ ih =>
    obtain ⟨before, after, parts, _⟩ := Text.charAtByte?_eq_some_iff.1 here
    rw [List.forall_mem_cons]
    refine ⟨fun text member => ?_, ih⟩
    cases List.mem_singleton.1 member
    intro bar
    rw [String.toList_singleton, List.mem_singleton] at bar
    exact plain (by simp [parts, ← bar])

theorem RuleList.barless_transcriptions {list : RuleList} (rules : list.Barless)
    (language : Option Language) {word : String} (plain : Homophone.Barless word) {text : String}
    (member : text ∈ list.transcriptions language word) : Homophone.Barless text := by
  have cuts := list.cuts_segmentsFrom language word 0 (Text.isBoundary_zero word.toList)
  refine barless_choices ?_ (List.mem_eraseDups.1 member)
  intro alternatives listed
  obtain ⟨segment, known, rfl⟩ := List.mem_map.1 listed
  exact cuts.barless rules plain segment known

namespace Encoder

structure Barless (encoder : Encoder) : Prop where
  primary : ∀ language list, encoder.rules language = some list → list.Barless
  final : ∀ list, encoder.finalRules = some list → list.Barless

/-! ## Words -/

theorem Barless.rawCandidates {encoder : Encoder} (rules : encoder.Barless)
    {languages : LanguageSet} {word : String} (plain : Homophone.Barless word) {text : String}
    (member : text ∈ encoder.rawCandidates languages word) : Homophone.Barless text := by
  obtain ⟨language, _, written⟩ := List.mem_flatMap.1 (List.mem_eraseDups.1 member)
  rw [rawOf] at written
  split at written
  · next list served =>
    exact RuleList.barless_transcriptions (rules.primary language list served) _ plain written
  · cases written

theorem Barless.encodeWord {encoder : Encoder} (rules : encoder.Barless) {finals : RuleList}
    (served : encoder.finalRules = some finals) (explicit : Option LanguageSet) {word : String}
    (plain : Homophone.Barless word) {text : String}
    (member : text ∈ (encoder.encodeWord explicit word).toList) : Homophone.Barless text := by
  obtain ⟨width, _, kept⟩ := exists_width_encodeWord served explicit word
  rw [kept] at member
  have written := List.mem_eraseDups.1 (List.mem_of_mem_take member)
  obtain ⟨raw, candidate, written⟩ := List.mem_flatMap.1 written
  exact RuleList.barless_transcriptions (rules.final finals served) none
    (rules.rawCandidates plain (List.mem_of_mem_take candidate)) written

/-! ## Names -/

theorem bar_not_mem_normalize (encoder : Encoder) (name : List Char) :
    '|' ∉ encoder.normalize name := by
  intro bar
  rcases Text.mem_join bar with blank | ⟨run, listed, inside⟩
  · cases List.mem_singleton.1 blank
  -- A run holds no separators, and a bar is one whatever the table says.
  · have separates := Text.ordinary_of_mem_pieces (List.mem_of_mem_filter listed) inside
    simp at separates

theorem afterApostrophe_sublist (word : List Char) : (afterApostrophe word).Sublist word := by
  have part := (List.takeWhile_sublist (p := (· ≠ '\'')) (l := word.reverse)).reverse
  rwa [List.reverse_reverse] at part

theorem words_subset_allWords (encoder : Encoder) (name : List Char) :
    encoder.words name ⊆ encoder.allWords name := by
  intro word member
  rw [words] at member
  dsimp only at member
  split at member
  · exact member
  · split at member
    · exact member
    · exact List.mem_of_mem_filter member

theorem exists_piece_of_mem_words {encoder : Encoder} {name : List Char} {word : String}
    (member : word ∈ encoder.words name) :
    ∃ piece ∈ Text.pieces (· == ' ') name, word.toList.Sublist piece := by
  obtain ⟨text, kept, rfl⟩ := List.mem_map.1 (encoder.words_subset_allWords name member)
  obtain ⟨piece, listed, rfl⟩ := List.mem_map.1 (List.mem_of_mem_filter kept)
  refine ⟨piece, listed, ?_⟩
  rw [String.toList_ofList]
  split
  · exact afterApostrophe_sublist piece
  · exact .refl piece

theorem barless_nameWords (encoder : Encoder) (name : String) {word : String}
    (member : word ∈ encoder.nameWords name) : Homophone.Barless word := by
  obtain ⟨piece, listed, part⟩ := exists_piece_of_mem_words member
  exact fun bar => encoder.bar_not_mem_normalize name.toList
    ((Text.isInfix_of_mem_pieces listed).subset (part.subset bar))

/-- If the rules write no bars, the cap can be read off an encoding. -/
theorem Barless.encodeName {encoder : Encoder} (rules : encoder.Barless) {finals : RuleList}
    (served : encoder.finalRules = some finals) (explicit : Option LanguageSet) {name : String}
    (whole : encoder.Unsplit name) :
    let encoding := (encoder.encodeName explicit name).toList
    (encoder.settings.concat = true →
      (Text.pieces (· == '|') encoding).length ≤ encoder.settings.maxPhonemes ∧
      (Text.pieces (· == '|') encoding).Nodup) ∧
    (encoder.settings.concat = false → ∀ segment ∈ Text.pieces (· == '-') encoding,
      (Text.pieces (· == '|') segment).length ≤ encoder.settings.maxPhonemes) := by
  have positive := Settings.maxPhonemes_pos encoder.valid
  have plain : ∀ word ∈ encoder.nameWords name,
      ∀ text ∈ (encoder.encodeWord explicit word).toList, Homophone.Barless text :=
    fun word member _ => rules.encodeWord served explicit (encoder.barless_nameWords name member)
  constructor
  · intro concat
    have kept := encoder.toList_concatenate explicit (encoder.nameWords name)
    rw [encodeName_of_concat concat whole, kept]
    refine read_join_bars (fun text member => ?_) (nodup_firstDistinct _ _)
      (length_firstDistinct_le _ _) positive
    refine barless_choices ?_ (List.mem_eraseDups.1 (List.mem_of_mem_take member))
    intro alternatives listed
    obtain ⟨word, known, rfl⟩ := List.mem_map.1 listed
    exact plain word known
  · intro apart segment member
    rw [encodeName_of_unsplit whole, encodeWords, if_neg (by simp [apart]), List.map_map] at member
    by_cases empty : encoder.nameWords name = []
    -- The empty encoding has one empty segment.
    · rw [empty] at member
      cases List.mem_singleton.1 member
      exact positive
    -- What is between hyphens is part of what one word becomes.
    · change segment ∈ Text.pieces _ ((String.singleton '-').intercalate _).toList at member
      rw [pieces_join (by simpa using empty)] at member
      obtain ⟨text, listed, inside⟩ := List.mem_flatMap.1 member
      obtain ⟨word, known, rfl⟩ := List.mem_map.1 listed
      have read := read_join_bars (plain word known) (nodup_encodeWord served explicit word)
        (length_encodeWord_le served explicit word) positive
      exact Nat.le_trans
        (Text.length_pieces_le_of_sublist (Text.isInfix_of_mem_pieces inside).sublist) read.1

end Encoder

/-! ## Rule files -/

namespace RuleFile

/-- Alternatives in parentheses, or one without a bar in its text. -/
def LoneBarless (field : List Char) : Prop :=
  field.head? = some '(' ∨ '|' ∉ field.takeWhile (· ≠ '[')

instance (field : List Char) : Decidable (LoneBarless field) :=
  inferInstanceAs (Decidable (_ ∨ _))

theorem toList_text_of_readPhoneme {field : List Char} {phoneme : Phoneme}
    (read : readPhoneme field = .ok phoneme) :
    phoneme.text.toList = field.takeWhile (· ≠ '[') := by
  rcases readPhoneme_eq_ok_iff.1 read with ⟨free, _, rfl⟩ | ⟨text, names, rfl, free, _, rfl⟩
  · have whole := List.takeWhile_append_dropWhile (p := (· ≠ '[')) (l := field)
    rw [Text.dropWhile_ne_eq_nil_iff.2 free, List.append_nil] at whole
    rw [whole, Phoneme.plain, String.toList_ofList]
  · rw [Text.takeWhile_ne_append free, Phoneme.restricted, String.toList_ofList]

theorem barless_readPhonemes_iff {field : List Char} {phonemes : List Phoneme}
    (read : readPhonemes field = .ok phonemes) :
    (∀ phoneme ∈ phonemes, Barless phoneme.text) ↔ LoneBarless field := by
  rcases readPhonemes_eq_ok_iff.1 read with ⟨body, rfl, each⟩ | ⟨lone, phoneme, here, rfl⟩
  -- Each alternative of a list is read from a piece between bars.
  · refine ⟨fun _ => .inl rfl, fun _ phoneme member bar => ?_⟩
    obtain ⟨piece, listed, here⟩ := exists_of_forall₂ each member
    rw [toList_text_of_readPhoneme here] at bar
    have ordinary := Text.ordinary_of_mem_pieces listed ((List.takeWhile_sublist _).subset bar)
    simp at ordinary
  · simp [Barless, LoneBarless, toList_text_of_readPhoneme here, lone]

/-- In every line with four fields, only alternatives in parentheses bring bars. -/
def BarsListed (text : String) : Prop :=
  ∀ line ∈ Line.significant text.toList, ∀ fields ∈ readFields? line.text,
    LoneBarless fields.2.2.2

instance (text : String) : Decidable (BarsListed text) :=
  inferInstanceAs (Decidable (∀ line ∈ Line.significant text.toList,
    ∀ fields ∈ readFields? line.text, LoneBarless fields.2.2.2))

end RuleFile

/-! ## Loaded rules -/

namespace RuleDirectory

/-- The rules of an encoder over a loaded set come, among others, from a file. -/
def Feeds (directory : RuleDirectory) (set : RuleSet) (settings : Settings) (file : String) :
    Prop :=
  (∃ language ∈ (set.entry settings.nameType).languages,
    directory.Reaches (primaryStem settings.nameType language) file) ∨
  directory.Reaches (finalStem settings.nameType settings.ruleType) file

variable {directory : RuleDirectory}

theorem barless_of_rules {file : String} {rules : List Rule}
    (loaded : directory.rules file = .ok rules)
    (listed : ∀ reached text, directory.Reaches file reached →
      directory.files.read (directory.pathOf reached) = .text text → RuleFile.BarsListed text) :
    (RuleList.ofList rules).Barless := by
  intro rule member
  obtain ⟨reached, text, line, path, readable, significant, read⟩ :=
    exists_line_of_rules loaded member
  obtain ⟨_, field, fields, phonemes, _⟩ := RuleFile.readStatement_eq_rule_iff.1 read
  exact (RuleFile.barless_readPhonemes_iff phonemes).2
    (listed reached text path readable line significant _ fields)

theorem barless_of_load {set : RuleSet} (loaded : directory.load = .ok set) {settings : Settings}
    {encoder : Encoder} (built : Encoder.new set.toTable settings = .ok encoder)
    (listed : ∀ file text, directory.Feeds set settings file →
      directory.files.read (directory.pathOf file) = .text text → RuleFile.BarsListed text) :
    encoder.Barless := by
  obtain ⟨table, rfl, _⟩ := Encoder.of_new built
  have supplies := suppliesAll_of_load loaded encoder.settings.nameType
  constructor
  · intro language list served
    rw [Encoder.rules, table] at served
    obtain ⟨rules, read, rfl⟩ := supplies.primary language list served
    have declared := supplies.declared language _ served
    exact barless_of_rules read fun file text path =>
      listed file text (.inl ⟨language, declared, path⟩)
  · intro list served
    rw [Encoder.finalRules, table] at served
    obtain ⟨rules, read, rfl⟩ := supplies.final encoder.settings.ruleType list served
    exact barless_of_rules read fun file text path => listed file text (.inr path)

def ofAlternatives (alternatives : String) : RuleDirectory where
  files := .ofPaths [] [
    ("rules/gen_languages.txt", .text "any"),
    ("rules/gen_rules_any.txt", .text ("\"a\" \"\" \"\" \"" ++ alternatives ++ "\"")),
    ("rules/gen_approx_common.txt", .text ""),
    ("rules/gen_exact_common.txt", .text "")]
  path := "rules"

end RuleDirectory

namespace Encoder

/-- Of the names that no prefix is split off, over rules that were loaded from files in which bars
stand in parentheses: taken as one, the words of a name have no more alternatives than the cap, all
different, and taken apart, no word has more. -/
theorem encodeName_within_cap {directory : RuleDirectory} {set : RuleSet}
    (loaded : directory.load = .ok set) {settings : Settings} {encoder : Encoder}
    (built : new set.toTable settings = .ok encoder)
    (listed : ∀ file text, directory.Feeds set settings file →
      directory.files.read (directory.pathOf file) = .text text → RuleFile.BarsListed text)
    (explicit : Option LanguageSet) {name : String} (whole : encoder.Unsplit name) :
    let encoding := (encoder.encodeName explicit name).toList
    (settings.concat = true →
      (Text.pieces (· == '|') encoding).length ≤ settings.maxPhonemes ∧
      (Text.pieces (· == '|') encoding).Nodup) ∧
    (settings.concat = false → ∀ segment ∈ Text.pieces (· == '-') encoding,
      (Text.pieces (· == '|') segment).length ≤ settings.maxPhonemes) := by
  have rules := RuleDirectory.barless_of_load loaded built listed
  obtain ⟨table, rfl, _, _, finals, served⟩ := of_new built
  have served' : encoder.finalRules = some finals := by rw [finalRules, table, served]
  exact rules.encodeName served' explicit whole

theorem exists_of_loaded {α : Type} (directory : RuleDirectory) (settings : Settings)
    (ask : Encoder → α) {answer : α}
    (run : (directory.load.toOption.bind fun set =>
      (new set.toTable settings).toOption.map ask) = some answer) :
    ∃ set encoder, directory.load = .ok set ∧ new set.toTable settings = .ok encoder ∧
      ask encoder = answer := by
  cases loaded : directory.load with
  | error error =>
    rw [loaded] at run
    cases run
  | ok set =>
    rw [loaded] at run
    obtain ⟨encoder, built, same⟩ := exists_of_new ask run
    exact ⟨set, encoder, rfl, built, same⟩

theorem encodeName_within_cap_listed :
    let directory := RuleDirectory.ofAlternatives "(x|y|z)"
    ∃ set encoder, directory.load = .ok set ∧
      new set.toTable { maxPhonemes := 2 } = .ok encoder ∧
      (∀ file text, directory.Feeds set { maxPhonemes := 2 } file →
        directory.files.read (directory.pathOf file) = .text text →
        RuleFile.BarsListed text) ∧
      encoder.Unsplit "a" ∧ encoder.encodeName none "a" = "x|y" ∧
      (Text.pieces (· == '|') (encoder.encodeName none "a").toList).length ≤ 2 ∧
      (Text.pieces (· == '|') (encoder.encodeName none "a").toList).Nodup := by
  intro directory
  -- Whatever can be read is one of the four files.
  have listed : ∀ file text, directory.files.read (directory.pathOf file) = .text text →
      RuleFile.BarsListed text := by
    have entries : ∀ entry ∈ directory.files.entries, ∀ text,
        FileTree.contentOf entry.2 = .text text → RuleFile.BarsListed text := by
      simp only [directory, RuleDirectory.ofAlternatives, FileTree.ofPaths, List.map_cons,
        List.map_nil, List.forall_mem_cons, FileTree.contentOf, Reading.text.injEq, forall_eq',
        List.not_mem_nil, false_implies, implies_true, and_true]
      decide +kernel
    intro file text readable
    obtain ⟨content, stored, same⟩ := FileTree.exists_find?_of_read readable
    exact entries _ (FileTree.mem_entries_of_find? stored same) text same
  obtain ⟨set, encoder, loaded, built, answer⟩ := exists_of_loaded directory { maxPhonemes := 2 }
    (fun encoder => (encoder.splitPrefix? (encoder.normalize ['a']), encoder.encodeName none "a"))
    (show _ = some (none, "x|y") by decide +kernel)
  obtain ⟨whole, encoding⟩ := Prod.mk.inj answer
  have listed' : ∀ file text, directory.Feeds set { maxPhonemes := 2 } file →
      directory.files.read (directory.pathOf file) = .text text → RuleFile.BarsListed text :=
    fun file text _ => listed file text
  have unsplit : encoder.Unsplit "a" := fun _ => whole
  have kept := encodeName_within_cap loaded built listed' none unsplit
  exact ⟨set, encoder, loaded, built, listed', unsplit, encoding, kept.1 rfl⟩

/-- A bar outside parentheses gets past the cap. -/
theorem encodeName_beyond_cap :
    ∃ set encoder, (RuleDirectory.ofAlternatives "x|y").load = .ok set ∧
      new set.toTable { maxPhonemes := 1 } = .ok encoder ∧
      encoder.Unsplit "a" ∧ encoder.encode "a" = "x|y" ∧
      1 < (Text.pieces (· == '|') (encoder.encode "a").toList).length := by
  obtain ⟨set, encoder, loaded, built, answer⟩ :=
    exists_of_loaded (RuleDirectory.ofAlternatives "x|y") { maxPhonemes := 1 }
      (fun encoder => (encoder.splitPrefix? (encoder.normalize ['a']), encoder.encode "a"))
      (show _ = some (none, "x|y") by decide +kernel)
  obtain ⟨whole, encoding⟩ := Prod.mk.inj answer
  refine ⟨set, encoder, loaded, built, fun _ => whole, encoding, ?_⟩
  rw [encoding]
  decide

end Encoder

end Homophone
