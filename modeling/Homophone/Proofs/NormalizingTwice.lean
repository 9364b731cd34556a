import Homophone.Proofs.ComposedWords
import Homophone.Proofs.Prefixes

/-! Normalizing a text again.

A text is composed before it is put into lower case, and a small letter may compose with a mark that
its capital does not compose with. So a text in normal form is composed if that happens nowhere, and
stays as it is then. Otherwise normalizing it again composes it, and a third time changes nothing.
-/

set_option autoImplicit false

namespace Homophone

open Unicode

namespace Unicode

/-! ## Lower case on both sides of a character that has none -/

section

variable {c : Char} (ignorable : isCaseIgnorable c = false) (cased : isCased c = false)

include ignorable cased

theorem meetsCased_append_cons (text rest : List Char) :
    meetsCased (text ++ c :: rest) = meetsCased text := by
  induction text with
  | nil => simp [meetsCased, ignorable, cased]
  | cons first others ih =>
    cases passed : isCaseIgnorable first with
    | true => simpa [meetsCased, passed] using ih
    | false => simp [meetsCased, passed]

theorem lowerCaseAfter_append_cons (before more text : List Char) :
    lowerCaseAfter (before ++ c :: more) text = lowerCaseAfter before text := by
  induction text generalizing before with
  | nil => rfl
  | cons first rest ih =>
    rw [lowerCaseAfter_cons, lowerCaseAfter_cons, ← List.cons_append, ih, smallForm, smallForm,
      lowerCaseSigma, lowerCaseSigma, meetsCased_append_cons ignorable cased]

theorem lowerCase_append_cons (small : lowerCaseOf c = [c]) (text rest : List Char) :
    lowerCase (text ++ c :: rest) = lowerCase text ++ c :: lowerCase rest := by
  have general (before : List Char) : lowerCaseAfter before (text ++ c :: rest) =
      lowerCaseAfter before text ++ c :: lowerCaseAfter [] rest := by
    induction text generalizing before with
    | nil =>
      rw [List.nil_append, lowerCaseAfter_cons, smallForm_of_small small,
        ← lowerCaseAfter_append_cons ignorable cased [] before rest]
      rfl
    | cons first others ih =>
      rw [List.cons_append, lowerCaseAfter_cons, lowerCaseAfter_cons, ih, smallForm, smallForm,
        lowerCaseSigma, lowerCaseSigma, meetsCased_append_cons ignorable cased, List.append_assoc]
  exact general []

end

theorem exists_lowerCaseAfter_append (before lead text : List Char) :
    ∃ head, lowerCaseAfter before (lead ++ text) =
      head ++ lowerCaseAfter (lead.reverse ++ before) text := by
  induction lead generalizing before with
  | nil => exact ⟨[], rfl⟩
  | cons first rest ih =>
    obtain ⟨head, parts⟩ := ih (first :: before)
    refine ⟨smallForm before first (rest ++ text) ++ head, ?_⟩
    rw [List.cons_append, lowerCaseAfter_cons, parts, List.reverse_cons, List.append_assoc,
      List.append_assoc, List.singleton_append]

/-- Only a sigma looks at what stands before it. -/
theorem lowerCaseAfter_of_not_mem {text : List Char} (free : 'Σ' ∉ text) (before : List Char) :
    lowerCaseAfter before text = lowerCase text := by
  have general (before before' : List Char) :
      lowerCaseAfter before text = lowerCaseAfter before' text := by
    induction text generalizing before before' with
    | nil => rfl
    | cons c rest ih =>
      rw [List.mem_cons, not_or] at free
      rw [lowerCaseAfter_cons, lowerCaseAfter_cons, smallForm, smallForm, if_neg (Ne.symm free.1),
        if_neg (Ne.symm free.1), ih free.2 (c :: before) (c :: before')]
  exact general before []

end Unicode

namespace Text

/-! ## Texts in normal form -/

theorem exists_dropEndWhile (p : Char → Bool) (text : List Char) :
    ∃ trail, text = dropEndWhile p text ++ trail ∧ ∀ c ∈ trail, p c = true := by
  induction text with
  | nil => exact ⟨[], rfl, by simp⟩
  | cons c rest ih =>
    obtain ⟨trail, parts, all⟩ := ih
    rw [dropEndWhile]
    split
    · next nothing =>
      rw [nothing, List.nil_append] at parts
      subst parts
      split
      · next dropped => exact ⟨c :: rest, rfl, List.forall_mem_cons.2 ⟨dropped, all⟩⟩
      · exact ⟨rest, rfl, all⟩
    · exact ⟨trail, congrArg (c :: ·) parts, all⟩

theorem exists_trim (text : List Char) : ∃ lead trail, text = lead ++ (trim text ++ trail) ∧
    (∀ c ∈ lead, isWhiteSpace c = true) ∧ ∀ c ∈ trail, isWhiteSpace c = true := by
  obtain ⟨trail, parts, all⟩ := exists_dropEndWhile isWhiteSpace (trimStart text)
  refine ⟨text.takeWhile isWhiteSpace, trail, ?_, fun c => List.mem_takeWhile_imp, all⟩
  rw [trim, trimEnd, ← parts]
  exact List.takeWhile_append_dropWhile.symm

theorem isBreak_of_isWhiteSpace {c : Char} (blank : isWhiteSpace c = true) : isBreak c = true := by
  simp [isBreak, blank]

theorem keepsBreaks_lowerCaseAfter (before text : List Char) :
    KeepsBreaks (lowerCaseAfter before (compose text)) :=
  fun c member broken => keepsBreaks_compose text c (mem_of_mem_lowerCaseAfter broken member) broken

/-- What texts in normal form are, composed or not. -/
structure Tidy (text : List Char) : Prop where
  small : IsSmall text
  keeps : KeepsBreaks text
  trimmed : Trimmed text

theorem tidy_normalize (text : List Char) : Tidy (normalize text) where
  small _ member := lowerCaseOf_of_mem_lowerCaseAfter ((trim_isInfix _).subset member)
  keeps c member := keepsBreaks_lowerCaseAfter [] text c ((trim_isInfix _).subset member)
  trimmed := trimmed_trim _

theorem Tidy.trimmed_compose {text : List Char} (tidy : Tidy text) : Trimmed (compose text) where
  first c head := by
    by_contra blank
    rw [Bool.not_eq_false] at blank
    have begins := (ends_compose tidy.keeps (isBreak_of_isWhiteSpace blank)).1 head
    rw [tidy.trimmed.first c begins] at blank
    cases blank
  last c head := by
    by_contra blank
    rw [Bool.not_eq_false] at blank
    have ends := (ends_compose tidy.keeps (isBreak_of_isWhiteSpace blank)).2 head
    rw [tidy.trimmed.last c ends] at blank
    cases blank

/-- Nothing is left to do but to compose the text. -/
theorem Tidy.normalize_eq {text : List Char} (tidy : Tidy text) : normalize text = compose text := by
  rw [normalize, (isSmall_compose tidy.small).lowerCase_eq, tidy.trimmed_compose.trim_eq]

theorem normalize_normalize (text : List Char) :
    normalize (normalize text) = compose (normalize text) :=
  (tidy_normalize text).normalize_eq

/-! ## Without the blanks at the ends -/

theorem compose_blanks_append {blanks : List Char}
    (all : ∀ c ∈ blanks, isBreak c = true ∧ Undivided c) (text : List Char) :
    compose (blanks ++ text) = blanks ++ compose text := by
  induction blanks with
  | nil => rfl
  | cons c rest ih =>
    rw [List.forall_mem_cons] at all
    rw [List.cons_append, compose_break_cons all.1.1 all.1.2, ih all.2, List.cons_append]

theorem compose_append_blanks {blanks : List Char}
    (all : ∀ c ∈ blanks, isBreak c = true ∧ Undivided c) (text : List Char) :
    compose (text ++ blanks) = compose text ++ blanks := by
  cases blanks with
  | nil => simp
  | cons c rest =>
    rw [List.forall_mem_cons] at all
    have alone := compose_blanks_append all.2 []
    rw [List.append_nil, compose_nil, List.append_nil] at alone
    rw [compose_append_break all.1.1 all.1.2, alone]

theorem compose_trim_iff {text : List Char} (keeps : KeepsBreaks text) :
    compose (trim text) = trim text ↔ compose text = text := by
  obtain ⟨lead, trail, parts, leads, trails⟩ := exists_trim text
  have inert {blanks : List Char} (inside : ∀ c ∈ blanks, c ∈ text)
      (blank : ∀ c ∈ blanks, isWhiteSpace c = true) :
      ∀ c ∈ blanks, isBreak c = true ∧ Undivided c :=
    fun c member =>
      have broken := isBreak_of_isWhiteSpace (blank c member)
      ⟨broken, keeps c (inside c member) broken⟩
  have first : ∀ c ∈ lead, c ∈ text := fun c member => by
    rw [parts]
    exact List.mem_append_left _ member
  have last : ∀ c ∈ trail, c ∈ text := fun c member => by
    rw [parts]
    exact List.mem_append_right _ (List.mem_append_right _ member)
  have whole := compose_blanks_append (inert first leads) (trim text ++ trail)
  rw [compose_append_blanks (inert last trails), ← parts] at whole
  rw [whole]
  constructor
  · intro kept
    rw [kept]
    exact parts.symm
  · intro kept
    exact List.append_cancel_right (List.append_cancel_left (kept.trans parts))

theorem compose_normalize_iff (text : List Char) :
    compose (normalize text) = normalize text ↔ SmallFormsComposed (compose text) :=
  (compose_trim_iff (keepsBreaks_lowerCaseAfter [] text)).trans
    (compose_lowerCaseAfter_iff (compose_compose text) [])

/-! ## Runs between separators -/

section

variable {p : Char → Bool}

theorem runs_append_cons {c : Char} (separator : p c = true) (before after : List Char) :
    runs p (before ++ c :: after) = runs p before ++ runs p after := by
  rw [runs, pieces_append_cons separator, List.filter_append]
  rfl

theorem runs_of_forall {text : List Char} (ordinary : ∀ c ∈ text, p c = false) :
    runs p text = if text = [] then [] else [text] := by
  rw [runs, pieces_of_forall ordinary]
  cases text <;> rfl

theorem runs_separators_append {blanks : List Char} (all : ∀ c ∈ blanks, p c = true)
    (text : List Char) : runs p (blanks ++ text) = runs p text := by
  induction blanks with
  | nil => rfl
  | cons c rest ih =>
    rw [List.forall_mem_cons] at all
    rw [← ih all.2]
    exact runs_append_cons all.1 [] (rest ++ text)

theorem runs_append_separators {blanks : List Char} (all : ∀ c ∈ blanks, p c = true)
    (text : List Char) : runs p (text ++ blanks) = runs p text := by
  cases blanks with
  | nil => rw [List.append_nil]
  | cons c rest =>
    rw [List.forall_mem_cons] at all
    have rest := runs_separators_append all.2 []
    rw [List.append_nil] at rest
    rw [runs_append_cons all.1, rest]
    exact List.append_nil _

theorem runs_trim (blank : ∀ c, isWhiteSpace c = true → p c = true) (text : List Char) :
    runs p (trim text) = runs p text := by
  obtain ⟨lead, trail, parts, leads, trails⟩ := exists_trim text
  have whole := runs_separators_append (fun c member => blank c (leads c member))
    (trim text ++ trail)
  rw [runs_append_separators (fun c member => blank c (trails c member)), ← parts] at whole
  exact whole.symm

theorem of_mem_runs {text run : List Char} (member : run ∈ runs p text) :
    run ≠ [] ∧ (∀ c ∈ run, p c = false) ∧ ∀ c ∈ run, c ∈ text := by
  obtain ⟨piece, nonempty⟩ := List.mem_filter.1 member
  exact ⟨by simpa using nonempty, fun _ => ordinary_of_mem_pieces piece,
    fun _ inside => (isInfix_of_mem_pieces piece).subset inside⟩

theorem join_cons {separator first : List Char} {rest : List (List Char)} (several : rest ≠ []) :
    join separator (first :: rest) = first ++ separator ++ join separator rest := by
  cases rest with
  | nil => exact absurd rfl several
  | cons second others => rfl

theorem join_append {separator : List Char} {first second : List (List Char)} (nonempty : first ≠ [])
    (more : second ≠ []) :
    join separator (first ++ second) =
      join separator first ++ separator ++ join separator second := by
  induction first with
  | nil => exact absurd rfl nonempty
  | cons text rest ih =>
    by_cases several : rest = []
    · rw [several]
      exact join_cons more
    · rw [List.cons_append, join_cons (by simp [several]), join_cons several, ih several]
      simp only [List.append_assoc]

theorem runs_join {c : Char} (separator : p c = true) {texts : List (List Char)}
    (words : ∀ text ∈ texts, text ≠ [] ∧ ∀ c ∈ text, p c = false) :
    runs p (join [c] texts) = texts := by
  induction texts with
  | nil => rfl
  | cons first rest ih =>
    rw [List.forall_mem_cons] at words
    have whole : runs p first = [first] := by rw [runs_of_forall words.1.2, if_neg words.1.1]
    by_cases several : rest = []
    · rw [several]
      exact whole
    · rw [join_cons several, List.append_assoc, List.singleton_append, runs_append_cons separator,
        whole, ih words.2]
      rfl

theorem exists_head_of_pieces {text : List Char} {others : List (List Char)}
    (cut : pieces p text = [] :: others) (more : others ≠ []) :
    ∃ separator ∈ text.head?, p separator = true := by
  cases text with
  | nil =>
    cases cut
    exact absurd rfl more
  | cons separator rest =>
    refine ⟨separator, rfl, ?_⟩
    by_contra ordinary
    rw [pieces, if_neg ordinary] at cut
    split at cut <;> cases cut

theorem exists_join_runs_cons {c : Char} (ordinary : p c = false) (text : List Char) :
    ∃ gap, (gap = [] ∨ gap = [' '] ∧ ∃ separator ∈ text.head?, p separator = true) ∧
      join [' '] (runs p (c :: text)) = c :: (gap ++ join [' '] (runs p text)) := by
  cases cut : pieces p text with
  | nil => exact absurd cut (pieces_ne_nil p text)
  | cons first others =>
    have whole : runs p (c :: text) = (c :: first) :: others.filter (!·.isEmpty) := by
      simp [runs, pieces, cut, ordinary]
    rw [whole, runs, cut]
    cases first with
    | nil =>
      rw [List.filter_cons_of_neg (by simp)]
      by_cases several : others.filter (!·.isEmpty) = []
      · rw [several]
        exact ⟨[], .inl rfl, rfl⟩
      · have more : others ≠ [] := fun nothing => several (congrArg _ nothing)
        rw [join_cons several]
        exact ⟨[' '], .inr ⟨rfl, exists_head_of_pieces cut more⟩, rfl⟩
    | cons next rest =>
      rw [List.filter_cons_of_pos (by simp)]
      refine ⟨[], .inl rfl, ?_⟩
      cases others.filter (!·.isEmpty) <;> rfl

theorem exists_join_runs_append {c : Char} (ordinary : p c = false) (lead text : List Char) :
    ∃ head gap, (gap = [] ∨ gap = [' '] ∧ ∃ separator ∈ text.head?, p separator = true) ∧
      join [' '] (runs p (lead ++ c :: text)) = head ++ c :: (gap ++ join [' '] (runs p text)) := by
  induction lead with
  | nil =>
    obtain ⟨gap, space, parts⟩ := exists_join_runs_cons ordinary text
    exact ⟨[], gap, space, parts⟩
  | cons first others ih =>
    obtain ⟨head, gap, space, parts⟩ := ih
    cases separator : p first with
    | true =>
      have same := runs_append_cons separator [] (others ++ c :: text)
      exact ⟨head, gap, space, (congrArg (join [' ']) same).trans parts⟩
    | false =>
      obtain ⟨before, _, begins⟩ := exists_join_runs_cons separator (others ++ c :: text)
      refine ⟨first :: (before ++ head), gap, space, ?_⟩
      rw [List.cons_append, begins, parts, List.cons_append, List.append_assoc]

theorem compose_join {c : Char} (broken : isBreak c = true) (undivided : Undivided c)
    (texts : List (List Char)) : compose (join [c] texts) = join [c] (texts.map compose) := by
  induction texts with
  | nil => rfl
  | cons first rest ih =>
    by_cases several : rest = []
    · rw [several]
      rfl
    · rw [List.map_cons, join_cons several, join_cons (by simpa using several), List.append_assoc,
        List.append_assoc, List.singleton_append, List.singleton_append,
        compose_append_break broken undivided, ih]

/-- A text is composed exactly if it is so between the separators. -/
theorem forall_compose_runs_iff (breaks : ∀ c, p c = true → isBreak c = true) {text : List Char}
    (keeps : KeepsBreaks text) :
    (∀ run ∈ runs p text, compose run = run) ↔ compose text = text := by
  induction length : text.length using Nat.strong_induction_on generalizing text with
  | _ n ih =>
    have plain {text : List Char} (ordinary : ∀ c ∈ text, p c = false) :
        (∀ run ∈ runs p text, compose run = run) ↔ compose text = text := by
      rw [runs_of_forall ordinary]
      split
      · next empty => simp [empty, compose_nil]
      · exact List.forall_mem_singleton
    rcases exists_first p text with ordinary | ⟨before, c, rest, rfl, separator, ordinary⟩
    · exact plain ordinary
    · have later := ih rest.length (by simp [← length]; omega)
        (fun other member => keeps other (by simp [member])) rfl
      have broken := breaks c separator
      have undivided := keeps c (by simp) broken
      have begins := compose_break_cons broken undivided rest
      rw [runs_append_cons separator, List.forall_mem_append, plain ordinary, later,
        compose_append_break broken undivided]
      constructor
      · rintro ⟨first, second⟩
        rw [first, second]
      · intro whole
        rw [← begins] at whole
        obtain ⟨first, second⟩ := compose_eq_of_append whole
        rw [begins] at second
        exact ⟨first, List.tail_eq_of_cons_eq second⟩

end

theorem join_ne_nil {separator : List Char} {texts : List (List Char)} (given : texts ≠ [])
    (nonempty : ∀ text ∈ texts, text ≠ []) : join separator texts ≠ [] := by
  cases texts with
  | nil => exact absurd rfl given
  | cons first rest =>
    have begins := nonempty first List.mem_cons_self
    by_cases several : rest = []
    · rw [several]
      exact begins
    · rw [join_cons several]
      simp [begins]

theorem trimmed_join {separator : List Char} {texts : List (List Char)}
    (words : ∀ text ∈ texts, text ≠ [] ∧ Tidy text) : Trimmed (join separator texts) := by
  induction texts with
  | nil => exact trimmed_of_forall (by simp [join])
  | cons first rest ih =>
    rw [List.forall_mem_cons] at words
    by_cases several : rest = []
    · rw [several]
      exact words.1.2.trimmed
    · have ends := ih words.2
      have nonempty : join separator rest ≠ [] :=
        join_ne_nil several fun text member => (words.2 text member).1
      rw [join_cons several]
      constructor
      · rw [List.append_assoc, List.head?_append_of_ne_nil _ words.1.1]
        exact words.1.2.trimmed.first
      · rw [List.getLast?_append_of_ne_nil _ nonempty]
        exact ends.last

theorem tidy_join {texts : List (List Char)} (words : ∀ text ∈ texts, text ≠ [] ∧ Tidy text) :
    Tidy (join [' '] texts) where
  small c member := by
    rcases mem_join member with space | ⟨word, listed, inside⟩
    · rw [List.mem_singleton.1 space]
      decide
    · exact (words word listed).2.small c inside
  keeps c member := by
    rcases mem_join member with space | ⟨word, listed, inside⟩
    · rw [List.mem_singleton.1 space]
      exact fun _ => undivided_of_lt (by decide)
    · exact (words word listed).2.keeps c inside
  trimmed := trimmed_join words

end Text

namespace Encoder

open Text (join runs)

/-! ## Names in normal form -/

def separates (encoder : Encoder) (c : Char) : Bool := c = '|' || encoder.table.isWordBoundary c

/-- The normal form of a name that stands behind `before`, which is given backwards: what becomes of
a sigma depends on it. -/
def normalizeAfter (encoder : Encoder) (before name : List Char) : List Char :=
  join [' '] (runs encoder.separates (lowerCaseAfter before (compose name)))

section

variable {encoder : Encoder} (default : HasDefaultBoundaries encoder.table)

include default

theorem isBreak_of_separates {c : Char} (separator : encoder.separates c = true) :
    isBreak c = true := by
  rw [isBreak, ← default c]
  exact Bool.or_eq_true_iff.2 (.inr separator)

theorem separates_space : encoder.separates ' ' = true := by
  rw [separates, default]
  rfl

theorem separates_of_isWhiteSpace {c : Char} (blank : isWhiteSpace c = true) :
    encoder.separates c = true := by
  simp [separates, default c, blank]

theorem normalizeAfter_nil (name : List Char) :
    encoder.normalizeAfter [] name = encoder.normalize name :=
  congrArg (join [' ']) (Text.runs_trim (fun _ => separates_of_isWhiteSpace default) _).symm

theorem normalizeAfter_of_not_mem {before name : List Char} (free : 'Σ' ∉ compose name) :
    encoder.normalizeAfter before name = encoder.normalize name := by
  rw [← normalizeAfter_nil default, normalizeAfter, lowerCaseAfter_of_not_mem free]
  rfl

theorem tidy_of_mem_runs {before name word : List Char}
    (member : word ∈ runs encoder.separates (lowerCaseAfter before (compose name))) :
    Text.Tidy word := by
  obtain ⟨_, ordinary, inside⟩ := Text.of_mem_runs member
  refine ⟨fun c listed => lowerCaseOf_of_mem_lowerCaseAfter (inside c listed),
    fun c listed => Text.keepsBreaks_lowerCaseAfter before name c (inside c listed),
    Text.trimmed_of_forall fun c listed => ?_⟩
  by_contra blank
  rw [Bool.not_eq_false] at blank
  have separator := separates_of_isWhiteSpace default blank
  rw [ordinary c listed] at separator
  cases separator

theorem runs_normalizeAfter (before name : List Char) :
    runs encoder.separates (encoder.normalizeAfter before name) =
      runs encoder.separates (lowerCaseAfter before (compose name)) :=
  Text.runs_join (separates_space default) fun _ listed =>
    have known := Text.of_mem_runs listed
    ⟨known.1, known.2.1⟩

theorem tidy_normalizeAfter (before name : List Char) :
    Text.Tidy (encoder.normalizeAfter before name) :=
  Text.tidy_join fun _ listed => ⟨(Text.of_mem_runs listed).1, tidy_of_mem_runs default listed⟩

theorem tidy_normalize (name : List Char) : Text.Tidy (encoder.normalize name) :=
  normalizeAfter_nil default name ▸ tidy_normalizeAfter default [] name

theorem normalize_normalizeAfter (before name : List Char) :
    encoder.normalize (encoder.normalizeAfter before name) =
      compose (encoder.normalizeAfter before name) := by
  change join [' '] (runs encoder.separates (Text.normalize (encoder.normalizeAfter before name))) = _
  rw [(tidy_normalizeAfter default before name).normalize_eq]
  have apart : compose (encoder.normalizeAfter before name) =
      join [' '] ((runs encoder.separates (lowerCaseAfter before (compose name))).map compose) :=
    Text.compose_join (by decide) (undivided_of_lt (by decide)) _
  rw [apart, Text.runs_join (separates_space default)]
  -- Composing brings no separator into a word.
  refine List.forall_mem_map.2 fun word listed => ?_
  obtain ⟨nonempty, ordinary, _⟩ := Text.of_mem_runs listed
  refine ⟨compose_ne_nil nonempty, fun c member => ?_⟩
  by_contra separator
  rw [Bool.not_eq_false] at separator
  have before := mem_of_mem_compose (tidy_of_mem_runs default listed).keeps
    (isBreak_of_separates default separator) member
  rw [ordinary c before] at separator
  cases separator

theorem normalize_normalizeAfter_eq_iff (before name : List Char) :
    encoder.normalize (encoder.normalizeAfter before name) = encoder.normalizeAfter before name ↔
      SmallFormsComposed (compose name) := by
  have breaks : ∀ c, encoder.separates c = true → isBreak c = true :=
    fun _ => isBreak_of_separates default
  calc encoder.normalize (encoder.normalizeAfter before name) = encoder.normalizeAfter before name
      ↔ compose (encoder.normalizeAfter before name) = encoder.normalizeAfter before name := by
        rw [normalize_normalizeAfter default]
    _ ↔ ∀ run ∈ runs encoder.separates (lowerCaseAfter before (compose name)),
          compose run = run := by
        rw [← Text.forall_compose_runs_iff breaks (tidy_normalizeAfter default before name).keeps,
          runs_normalizeAfter default]
    _ ↔ compose (lowerCaseAfter before (compose name)) = lowerCaseAfter before (compose name) :=
        Text.forall_compose_runs_iff breaks (Text.keepsBreaks_lowerCaseAfter before name)
    _ ↔ SmallFormsComposed (compose name) := compose_lowerCaseAfter_iff (compose_compose name) before

theorem normalize_normalize_eq_iff (name : List Char) :
    encoder.normalize (encoder.normalize name) = encoder.normalize name ↔
      SmallFormsComposed (compose name) := by
  have known := normalize_normalizeAfter_eq_iff default [] name
  rwa [normalizeAfter_nil default] at known

/-! ## After a prefix -/

theorem runs_normalize_append (lead name : List Char) :
    runs encoder.separates (Text.normalize (lead ++ ' ' :: name)) =
      runs encoder.separates (Text.normalize lead) ++
        runs encoder.separates (Text.normalize name) := by
  have blank : ∀ c, isWhiteSpace c = true → encoder.separates c = true :=
    fun _ => separates_of_isWhiteSpace default
  have composed : compose (lead ++ ' ' :: name) = compose lead ++ ' ' :: compose name :=
    compose_append_break (by decide) (undivided_of_lt (by decide)) lead name
  simp only [Text.normalize, Text.runs_trim blank]
  rw [composed, lowerCase_append_cons (by decide) (by decide) (by decide),
    Text.runs_append_cons (separates_space default)]

theorem normalize_gap_append {gap : List Char} (space : gap = [] ∨ gap = [' '])
    (name : List Char) : encoder.normalize (gap ++ name) = encoder.normalize name := by
  rcases space with rfl | rfl
  · rfl
  · exact congrArg (join [' ']) (runs_normalize_append default [] name)

theorem normalize_append {lead name : List Char} (first : encoder.normalize lead ≠ [])
    (last : encoder.normalize name ≠ []) :
    encoder.normalize (lead ++ ' ' :: name) =
      encoder.normalize lead ++ ' ' :: encoder.normalize name := by
  have nonempty {name : List Char} (known : encoder.normalize name ≠ []) :
      runs encoder.separates (Text.normalize name) ≠ [] := by
    intro nothing
    exact known (congrArg (join [' ']) nothing)
  change join [' '] (runs encoder.separates (Text.normalize (lead ++ ' ' :: name))) = _
  rw [runs_normalize_append default, Text.join_append (nonempty first) (nonempty last),
    List.append_assoc]
  rfl

/-- Behind an apostrophe a name is put into normal form on its own but for a sigma, with a space in
front if it begins with a separator and has more than those. -/
theorem exists_normalize_append_apostrophe (lead name : List Char) :
    ∃ head gap,
      (gap = [] ∨ gap = [' '] ∧ ∃ c ∈ (compose name).head?, encoder.separates c = true) ∧
      encoder.normalize (lead ++ '\'' :: name) =
        head ++ '\'' :: (gap ++ encoder.normalizeAfter ('\'' :: (compose lead).reverse) name) := by
  have ordinary : encoder.separates '\'' = false := by
    rw [separates, default]
    decide
  have composed : compose (lead ++ '\'' :: name) = compose lead ++ '\'' :: compose name :=
    compose_append_break (by decide) (undivided_of_lt (by decide)) lead name
  obtain ⟨begins, parts⟩ := exists_lowerCaseAfter_append [] (compose lead) ('\'' :: compose name)
  rw [lowerCaseAfter_cons, smallForm_of_small (by decide), List.append_nil] at parts
  obtain ⟨head, gap, space, whole⟩ := Text.exists_join_runs_append ordinary begins
    (lowerCaseAfter ('\'' :: (compose lead).reverse) (compose name))
  rw [← normalizeAfter_nil default, normalizeAfter, composed, parts]
  exact ⟨head, gap, space.imp_right fun ⟨same, c, first, separator⟩ =>
    ⟨same, c, head?_of_lowerCaseAfter (isBreak_of_separates default separator) first, separator⟩,
    whole⟩

end

section

variable {encoder : Encoder} {explicit : Option LanguageSet}

theorem Encodes.of_normalize {name other : List Char} {depth : Nat} {encoding : String}
    (encodes : encoder.Encodes explicit name depth encoding)
    (same : encoder.normalize name = encoder.normalize other) :
    encoder.Encodes explicit other depth encoding := by
  have parts : encoder.split? name = encoder.split? other := by rw [split?, split?, same]
  cases encodes with
  | whole unsplit =>
    rw [same]
    exact .whole (parts ▸ unsplit)
  | split cut ofRest ofJoined => exact .split (parts ▸ cut) ofRest ofJoined

theorem encodeName_of_normalize {name other : String}
    (same : encoder.normalize name.toList = encoder.normalize other.toList) :
    encoder.encodeName explicit name = encoder.encodeName explicit other := by
  obtain ⟨_, ofName⟩ := encoder.exists_encodes_encodeName explicit name
  obtain ⟨_, ofOther⟩ := encoder.exists_encodes_encodeName explicit other
  exact ((ofName.of_normalize same).unique ofOther).2

theorem encodeName_of_split {whole name : String} {rest joined : List Char}
    (parts : encoder.split? whole.toList = some (rest, joined))
    (same : encoder.normalize rest = encoder.normalize name.toList)
    (explicit : Option LanguageSet) :
    encoder.encodeName explicit whole =
      "(" ++ encoder.encodeName explicit name ++ ")-(" ++
        encoder.encodeName explicit (.ofList joined) ++ ")" := by
  obtain ⟨_, ofWhole⟩ := encoder.exists_encodes_encodeName explicit whole
  obtain ⟨_, ofName⟩ := encoder.exists_encodes_encodeName explicit name
  obtain ⟨_, ofJoined⟩ := encoder.exists_encodes_encodeName explicit (.ofList joined)
  rw [String.toList_ofList] at ofJoined
  exact (ofWhole.unique (.split parts (ofName.of_normalize same.symm) ofJoined)).2

end

/-- A text in normal form is in lower case and trimmed. It is composed, and stays as it is when it
is normalized again, exactly if lower case leaves its capitals composed with their marks; after that
it always stays. Under this condition a name is encoded behind a prefix as it is on its own. What is
left behind an elided prefix is the normal form of the name, but for a sigma that looks back at the
prefix and at most a space in front of a name that begins with a separator. It stays as it is under
the same condition. -/
theorem normalizes_again {set : RuleSet} {settings : Settings} {encoder : Encoder}
    (built : new set.toTable settings = .ok encoder) :
    (∀ text, lowerCase (Text.normalize text) = Text.normalize text ∧
      Text.trim (Text.normalize text) = Text.normalize text ∧
      Text.normalize (Text.normalize text) = compose (Text.normalize text) ∧
      (Text.normalize (Text.normalize text) = Text.normalize text ↔
        SmallFormsComposed (compose text)) ∧
      Text.normalize (Text.normalize (Text.normalize text)) =
        Text.normalize (Text.normalize text)) ∧
    (∀ name : String, (encoder.normalize (encoder.normalize name.toList) =
        encoder.normalize name.toList ↔ SmallFormsComposed (compose name.toList)) ∧
      ∀ lead : String, encoder.normalize lead.toList ≠ [] → encoder.normalize name.toList ≠ [] →
        encoder.normalize (lead ++ " " ++ name).toList =
          encoder.normalize lead.toList ++ ' ' :: encoder.normalize name.toList ∧
        ∀ joined, encoder.split? (lead ++ " " ++ name).toList =
            some (encoder.normalize name.toList, joined) →
          SmallFormsComposed (compose name.toList) → ∀ explicit,
            encoder.encodeName explicit (lead ++ " " ++ name) =
              "(" ++ encoder.encodeName explicit name ++ ")-(" ++
                encoder.encodeName explicit (.ofList joined) ++ ")") ∧
    ∀ lead name : String, ∃ head gap behind,
      (gap = [] ∨ gap = [' '] ∧ ∃ c ∈ (compose name.toList).head?, encoder.separates c = true) ∧
      encoder.normalize (lead ++ "'" ++ name).toList = head ++ '\'' :: (gap ++ behind) ∧
      behind = encoder.normalizeAfter ('\'' :: (compose lead.toList).reverse) name.toList ∧
      ('Σ' ∉ compose name.toList → behind = encoder.normalize name.toList) ∧
      (encoder.normalize (gap ++ behind) = behind ↔ SmallFormsComposed (compose name.toList)) ∧
      ∀ joined, encoder.split? (lead ++ "'" ++ name).toList = some (gap ++ behind, joined) →
        behind = encoder.normalize name.toList → SmallFormsComposed (compose name.toList) →
        ∀ explicit,
          encoder.encodeName explicit (lead ++ "'" ++ name) =
            "(" ++ encoder.encodeName explicit name ++ ")-(" ++
              encoder.encodeName explicit (.ofList joined) ++ ")" := by
  obtain ⟨table, _⟩ := of_new built
  have default : HasDefaultBoundaries encoder.table := table ▸ set.hasDefaultBoundaries
  refine ⟨fun text => ?_, fun name => ⟨normalize_normalize_eq_iff default name.toList, ?_⟩,
    fun lead name => ?_⟩
  · have again := Text.normalize_normalize text
    have tidy := Text.tidy_normalize text
    refine ⟨tidy.small.lowerCase_eq, tidy.trimmed.trim_eq, again, ?_, ?_⟩
    · rw [again]
      exact Text.compose_normalize_iff text
    · rw [Text.normalize_normalize (Text.normalize text), again, compose_compose]
  · intro lead first last
    have parts : (lead ++ " " ++ name).toList = lead.toList ++ ' ' :: name.toList := by simp
    refine ⟨parts ▸ normalize_append default first last, fun joined split small => ?_⟩
    -- The name behind the prefix comes in normal form, and that is its own normal form.
    exact encodeName_of_split split ((normalize_normalize_eq_iff default name.toList).2 small)
  · have parts : (lead ++ "'" ++ name).toList = lead.toList ++ '\'' :: name.toList := by simp
    obtain ⟨head, gap, space, whole⟩ :=
      exists_normalize_append_apostrophe default lead.toList name.toList
    have again := normalize_normalizeAfter_eq_iff default ('\'' :: (compose lead.toList).reverse)
      name.toList
    rw [← normalize_gap_append default (space.imp id And.left)] at again
    refine ⟨head, gap, _, space, parts ▸ whole, rfl, normalizeAfter_of_not_mem default, again,
      fun joined split own small => encodeName_of_split split ((again.2 small).trans own)⟩

theorem normalizes_again_behind_particles :
    ∃ encoder, new particleSet.toTable {} = .ok encoder ∧
      encoder.encodeName none "De la Ŝarko" =
        "(" ++ encoder.encodeName none "Ŝarko" ++ ")-(" ++
          encoder.encodeName none "delaŝarko" ++ ")" ∧
      encoder.encodeName none "D'Ŝarko" =
        "(" ++ encoder.encodeName none "Ŝarko" ++ ")-(" ++
          encoder.encodeName none "dŝarko" ++ ")" := by
  obtain ⟨encoder, built, seen⟩ := exists_of_new (fun encoder => decide (
      encoder.normalize "De la".toList = "de la".toList ∧
      encoder.normalize "Ŝarko".toList = "ŝarko".toList ∧
      encoder.normalize "D'Ŝarko".toList = "d'ŝarko".toList ∧
      encoder.split? "De la Ŝarko".toList = some ("ŝarko".toList, "delaŝarko".toList) ∧
      encoder.split? "D'Ŝarko".toList = some ("ŝarko".toList, "dŝarko".toList)))
    (show (new particleSet.toTable {}).toOption.map _ = some true by decide +kernel)
  obtain ⟨lead, name, whole, cut, cut'⟩ := of_decide_eq_true seen
  have free : 'Σ' ∉ compose "Ŝarko".toList := by decide +kernel
  obtain ⟨_, ofName, elided⟩ := normalizes_again built
  obtain ⟨_, behind⟩ := (ofName "Ŝarko").2 "De la" (by rw [lead]; simp) (by rw [name]; simp)
  obtain ⟨head, gap, rest, space, parts, _, own, _, behind'⟩ := elided "D" "Ŝarko"
  have spaced : "De la" ++ " " ++ "Ŝarko" = "De la Ŝarko" := by decide
  have joined : "D" ++ "'" ++ "Ŝarko" = "D'Ŝarko" := by decide
  rw [spaced, name] at behind
  rw [joined] at parts behind'
  rw [whole, own free, name] at parts
  -- No space is left behind the apostrophe.
  have left : gap ++ rest = "ŝarko".toList := by
    rw [own free, name]
    rcases space with rfl | ⟨rfl, _⟩
    · rfl
    · have apart : ¬ ('\'' :: ([' '] ++ "ŝarko".toList)) <:+ "d'ŝarko".toList := by decide +kernel
      exact absurd ⟨head, parts.symm⟩ apart
  rw [left] at behind'
  have encoded := behind _ cut (by decide +kernel) none
  have encoded' := behind' _ cut' (own free) (by decide +kernel) none
  rw [String.ofList_toList] at encoded encoded'
  exact ⟨encoder, built, encoded, encoded'⟩

/-- The capital J composes with no caron, the small one does. -/
theorem normalize_of_caron :
    Text.normalize "J\u030C".toList = "j\u030C".toList ∧
      Text.normalize (Text.normalize "J\u030C".toList) = "\u01F0".toList := by
  decide +kernel

end Encoder

end Homophone
