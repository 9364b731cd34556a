import Homophone.Proofs.Bars
import Homophone.Proofs.KeptWords
import Homophone.Proofs.Letterless

/-! Words without letters and numbers in a name.

They are left out when the words of a name are read, which is after prefixes are split off. So they
change nothing in a name that is not generic, wherever they stand. In a generic name they change
nothing behind a part of it that all prefixes end within, those of the name and those of the names
that are encoded for it. In front of the name they hide its prefixes.
-/

set_option autoImplicit false

namespace Homophone

open Unicode (Letterless isAlphanumeric)

theorem filter_map_filter {α β : Type} {p : α → Bool} {q : β → Bool} {f : α → β}
    (drops : ∀ x, p x = false → q (f x) = false) (xs : List α) :
    ((xs.filter p).map f).filter q = (xs.map f).filter q := by
  rw [List.filter_map, List.filter_map, List.filter_filter]
  congr 1
  refine List.filter_congr fun x _ => ?_
  cases kept : p x with
  | true => rw [Bool.and_true]
  | false => rw [Bool.and_false, Function.comp_apply, drops x kept]

namespace Text

/-! ## Words behind other words -/

theorem runs_ne_nil {p : Char → Bool} {c : Char} {text : List Char} (member : c ∈ text)
    (ordinary : p c = false) : runs p text ≠ [] := by
  intro nothing
  have left : c ∈ text.filter (!p ·) := List.mem_filter.2 ⟨member, by simp [ordinary]⟩
  rw [← flatten_runs, nothing] at left
  cases left

/-- Words in normal form, each behind a space. -/
def trailing (words : List (List Char)) : List Char := words.flatMap fun word => ' ' :: wordForm word

theorem join_append_trailing {lead : List (List Char)} (nonempty : lead ≠ [])
    (words : List (List Char)) :
    join [' '] (lead ++ words.map wordForm) = join [' '] lead ++ trailing words := by
  induction words generalizing lead with
  | nil => simp [trailing]
  | cons word rest ih =>
    have one : join [' '] (lead ++ [wordForm word]) = join [' '] lead ++ ' ' :: wordForm word := by
      rw [join_append nonempty (List.cons_ne_nil _ _), List.append_assoc]
      rfl
    rw [List.map_cons, List.append_cons, ih (by simp), one, List.append_assoc]
    rfl

theorem runs_append_trailing {words : List (List Char)}
    (plain : ∀ word ∈ words, word ≠ [] ∧ ∀ c ∈ word, isSeparator c = false) (text : List Char) :
    runs isSeparator (text ++ trailing words) = runs isSeparator text ++ words.map wordForm := by
  induction words generalizing text with
  | nil => simp [trailing]
  | cons word rest ih =>
    rw [List.forall_mem_cons] at plain
    obtain ⟨⟨nonempty, ordinary⟩, others⟩ := plain
    have behind : text ++ trailing (word :: rest) =
        text ++ ' ' :: (wordForm word ++ trailing rest) := rfl
    have whole : runs isSeparator (wordForm word) = [wordForm word] := by
      rw [runs_of_forall (plain_wordForm ordinary), if_neg (wordForm_ne_nil nonempty)]
    rw [behind, runs_append_cons (by decide), ih others, whole]
    rfl

end Text

namespace Encoder

open Text (isSeparator join runs trailing wordForm)

/-! ## The words that are left -/

theorem isLettered_eq_false_iff {word : List Char} : isLettered word = false ↔ Letterless word := by
  simp [isLettered, Letterless]

theorem isLettered_wordForm {word : List Char} (unlettered : isLettered word = false) :
    isLettered (wordForm word) = false :=
  isLettered_eq_false_iff.2 (Text.letterless_wordForm (isLettered_eq_false_iff.1 unlettered))

theorem isLettered_cutWord {word : List Char} (encoder : Encoder)
    (unlettered : isLettered word = false) : isLettered (encoder.cutWord word) = false := by
  rw [isLettered_eq_false_iff] at unlettered ⊢
  rw [cutWord]
  split
  · exact fun c member => unlettered c ((afterApostrophe_sublist word).subset member)
  · exact unlettered

def letteredRuns (name : List Char) : List (List Char) :=
  (runs isSeparator name).filter isLettered

section

variable {encoder : Encoder} (default : HasDefaultBoundaries encoder.table)

include default

theorem runs_space_normalize (name : List Char) :
    runs (· == ' ') (encoder.normalize name) = (runs isSeparator name).map wordForm := by
  have plain : ∀ word ∈ (runs isSeparator name).map wordForm,
      word ≠ [] ∧ ∀ c ∈ word, (c == ' ') = false := by
    refine List.forall_mem_map.2 fun word listed => ?_
    obtain ⟨nonempty, ordinary, _⟩ := Text.of_mem_runs listed
    refine ⟨Text.wordForm_ne_nil nonempty, fun c member => ?_⟩
    rw [beq_eq_false_iff_ne]
    rintro rfl
    exact absurd (Text.plain_wordForm ordinary ' ' member) (by decide)
  rw [normalize_eq_join default]
  exact Text.runs_join (by decide) plain

theorem letteredWords_eq (name : List Char) :
    encoder.letteredWords name =
      ((letteredRuns name).map fun word => encoder.cutWord (wordForm word)).filter isLettered := by
  have empty : ∀ word : List Char, (!word.isEmpty) = false →
      isLettered (encoder.cutWord word) = false := by
    intro word nothing
    obtain rfl : word = [] := by simpa using nothing
    exact isLettered_cutWord encoder rfl
  calc encoder.letteredWords name
      = ((runs (· == ' ') (encoder.normalize name)).map encoder.cutWord).filter isLettered :=
        (filter_map_filter empty _).symm
    _ = ((runs isSeparator name).map fun word => encoder.cutWord (wordForm word)).filter
          isLettered := by
        rw [runs_space_normalize default, List.map_map]
        rfl
    _ = _ := (filter_map_filter (fun word unlettered =>
        isLettered_cutWord encoder (isLettered_wordForm unlettered)) _).symm

theorem words_congr {name other : List Char} (same : letteredRuns name = letteredRuns other) :
    encoder.words (encoder.normalize name) = encoder.words (encoder.normalize other) := by
  have all : encoder.allWords (encoder.normalize name) =
      encoder.allWords (encoder.normalize other) := by
    change (encoder.letteredWords name).map String.ofList =
      (encoder.letteredWords other).map String.ofList
    rw [letteredWords_eq default, letteredWords_eq default, same]
  unfold words
  rw [all]

end

/-! ## Prefixes that end early -/

/-- No prefix reaches beyond `lead`: of a name that goes on with `behind`, it leaves more than
that. -/
def EndsWithin (encoder : Encoder) (lead behind : List Char) : Prop :=
  ∀ pre ∈ encoder.prefixes, ∀ rest, Leaves pre (lead ++ behind) rest → behind.length < rest.length

instance (encoder : Encoder) (lead behind : List Char) :
    Decidable (encoder.EndsWithin lead behind) :=
  decidable_of_iff (∀ pre ∈ encoder.prefixes, ∀ cut ∈ cutPrefix? pre.toList (lead ++ behind),
      behind.length < cut.1.length) <| by
    simp only [EndsWithin, Option.mem_def, Prod.forall, cutPrefix?_eq_some_iff]
    exact forall₂_congr fun pre _ =>
      ⟨fun more rest leaves => more rest _ ⟨leaves, rfl⟩, fun more rest _ cut => more rest cut.1⟩

theorem Leaves.append {pre : String} {lead rest : List Char} (leaves : Leaves pre lead rest)
    (behind : List Char) : Leaves pre (lead ++ behind) (rest ++ behind) := by
  obtain ⟨rfl, nonempty⟩ := leaves
  exact ⟨List.append_assoc _ _ _, by simp [nonempty]⟩

theorem EndsWithin.leaves {encoder : Encoder} {lead behind rest : List Char} {pre : String}
    (ends : encoder.EndsWithin lead behind) (known : pre ∈ encoder.prefixes)
    (leaves : Leaves pre (lead ++ behind) rest) :
    ∃ front, Leaves pre lead front ∧ rest = front ++ behind := by
  have longer := ends pre known rest leaves
  obtain ⟨whole, _⟩ := leaves
  have last : behind <:+ rest := List.suffix_of_suffix_length_le (List.suffix_append lead behind)
    (whole ▸ List.suffix_append _ rest) (Nat.le_of_lt longer)
  obtain ⟨front, rfl⟩ := last
  rw [← List.append_assoc] at whole
  refine ⟨front, ⟨List.append_cancel_right whole, ?_⟩, rfl⟩
  rintro rfl
  exact Nat.lt_irrefl _ longer

/-- The same prefix is split off, and what comes behind stays behind. -/
theorem EndsWithin.splitPrefix? {encoder : Encoder} {lead behind : List Char}
    (ends : encoder.EndsWithin lead behind) :
    encoder.splitPrefix? (lead ++ behind) =
      (encoder.splitPrefix? lead).map fun parts => (parts.1 ++ behind, parts.2 ++ behind) := by
  cases parts : encoder.splitPrefix? lead with
  | none =>
    rw [splitPrefix?_eq_none_iff] at parts
    refine splitPrefix?_eq_none_iff.2 fun pre known rest leaves => ?_
    obtain ⟨front, early, _⟩ := ends.leaves known leaves
    exact parts pre known front early
  | some both =>
    obtain ⟨rest, joined⟩ := both
    obtain ⟨pre, known, leaves, rfl, longest⟩ := splitPrefix?_eq_some_iff.1 parts
    refine splitPrefix?_eq_some_iff.2
      ⟨pre, known, leaves.append behind, List.append_assoc _ _ _, ?_⟩
    intro other known' rest' leaves'
    obtain ⟨front, early, _⟩ := ends.leaves known' leaves'
    exact longest other known' front early

/-- No prefix reaches beyond `lead` in a name that goes on with the words `later`, nor in the names
that are encoded for it once a prefix is split off. -/
inductive Within (encoder : Encoder) : List (List Char) → List Char → Prop where
  | whole {later : List (List Char)} {lead : List Char}
      (ends : encoder.EndsWithin (encoder.normalize lead) (trailing later))
      (unsplit : encoder.split? lead = none) : Within encoder later lead
  | split {later : List (List Char)} {lead rest joined : List Char}
      (ends : encoder.EndsWithin (encoder.normalize lead) (trailing later))
      (parts : encoder.split? lead = some (rest, joined))
      (ofRest : Within encoder (later.map wordForm) rest)
      (ofJoined : Within encoder (later.map wordForm) joined) : Within encoder later lead

/-! ## Behind a part of a name -/

theorem plain_of_runs {name : List Char} (first : List (List Char)) {later : List (List Char)}
    (parts : runs isSeparator name = first ++ later) :
    ∀ word ∈ later, word ≠ [] ∧ ∀ c ∈ word, isSeparator c = false := by
  intro word listed
  obtain ⟨nonempty, ordinary, _⟩ := Text.of_mem_runs (parts ▸ List.mem_append_right first listed)
  exact ⟨nonempty, ordinary⟩

section

variable {encoder : Encoder} (default : HasDefaultBoundaries encoder.table)

include default

theorem normalize_of_runs {name lead : List Char} {later : List (List Char)}
    (worded : runs isSeparator lead ≠ [])
    (parts : runs isSeparator name = runs isSeparator lead ++ later) :
    encoder.normalize name = encoder.normalize lead ++ trailing later := by
  rw [normalize_eq_join default, normalize_eq_join default, parts, List.map_append,
    Text.join_append_trailing (by simpa using worded)]

/-- The last character of a name in normal form, which is part of a word, is in both names that are
encoded when a prefix is split off. -/
theorem runs_ne_nil_of_split? {lead rest joined : List Char}
    (parts : encoder.split? lead = some (rest, joined)) :
    runs isSeparator rest ≠ [] ∧ runs isSeparator joined ≠ [] := by
  rw [split?] at parts
  split at parts
  · obtain ⟨pre, _, ⟨whole, nonempty⟩, rfl, _⟩ := splitPrefix?_eq_some_iff.1 parts
    have last : rest.getLast nonempty ∈ (encoder.normalize lead).getLast? := by
      rw [whole, List.getLast?_append_of_ne_nil _ nonempty]
      exact List.getLast?_eq_some_getLast nonempty
    have visible := (tidy_normalize default lead).trimmed.last _ last
    have ordinary : isSeparator (rest.getLast nonempty) = false := by
      rw [normalize_eq_join default] at last
      rcases Text.mem_join (List.mem_of_getLast? last) with blank | ⟨word, listed, inside⟩
      · rw [List.mem_singleton.1 blank] at visible
        exact absurd visible (by decide)
      · obtain ⟨run, known, rfl⟩ := List.mem_map.1 listed
        exact Text.plain_wordForm (Text.of_mem_runs known).2.1 _ inside
    exact ⟨Text.runs_ne_nil (List.getLast_mem nonempty) ordinary,
      Text.runs_ne_nil (List.mem_append_right _ (List.getLast_mem nonempty)) ordinary⟩
  · cases parts

theorem split?_of_runs {name lead : List Char} {later : List (List Char)}
    (ends : encoder.EndsWithin (encoder.normalize lead) (trailing later))
    (worded : runs isSeparator lead ≠ [])
    (parts : runs isSeparator name = runs isSeparator lead ++ later) :
    encoder.split? name = (encoder.split? lead).map fun both =>
      (both.1 ++ trailing later, both.2 ++ trailing later) := by
  rw [split?, split?]
  split
  · rw [normalize_of_runs default worded parts, ends.splitPrefix?]
  · rfl

/-- Words without letters and numbers make no difference behind a part of a name that all prefixes end
within. By induction on how they do. -/
theorem Within.exists_encodes (explicit : Option LanguageSet) {later later' : List (List Char)}
    {name other lead : List Char} (within : encoder.Within later lead)
    (within' : encoder.Within later' lead) (worded : runs isSeparator lead ≠ [])
    (parts : runs isSeparator name = runs isSeparator lead ++ later)
    (parts' : runs isSeparator other = runs isSeparator lead ++ later')
    (same : later.filter isLettered = later'.filter isLettered) :
    ∃ depth encoding, encoder.Encodes explicit name depth encoding ∧
      encoder.Encodes explicit other depth encoding := by
  induction within generalizing later' name other with
  | whole ends unsplit =>
    have lettered : letteredRuns name = letteredRuns other := by
      rw [letteredRuns, letteredRuns, parts, parts', List.filter_append, List.filter_append, same]
    cases within' with
    | whole ends' _ =>
      have unsplit₁ := split?_of_runs default ends worded parts
      have unsplit₂ := split?_of_runs default ends' worded parts'
      rw [unsplit] at unsplit₁ unsplit₂
      refine ⟨0, _, .whole unsplit₁, ?_⟩
      rw [words_congr default lettered]
      exact .whole unsplit₂
    | split _ split _ _ =>
      rw [unsplit] at split
      cases split
  | @split later lead rest joined ends split _ _ ihRest ihJoined =>
    cases within' with
    | whole _ unsplit =>
      rw [unsplit] at split
      cases split
    | split ends' split' ofRest' ofJoined' =>
      rw [split] at split'
      cases split'
      have cut₁ := split?_of_runs default ends worded parts
      have cut₂ := split?_of_runs default ends' worded parts'
      rw [split] at cut₁ cut₂
      obtain ⟨wordedRest, wordedJoined⟩ := runs_ne_nil_of_split? default split
      have again := Text.runs_append_trailing (plain_of_runs _ parts)
      have again' := Text.runs_append_trailing (plain_of_runs _ parts')
      have drops (word : List Char) : isLettered word = false → isLettered (wordForm word) = false :=
        isLettered_wordForm
      have formed : (later.map wordForm).filter isLettered =
          (later'.map wordForm).filter isLettered := by
        rw [← filter_map_filter drops, same, filter_map_filter drops]
      obtain ⟨_, _, name₁, other₁⟩ := ihRest ofRest' wordedRest (again _) (again' _) formed
      obtain ⟨_, _, name₂, other₂⟩ := ihJoined ofJoined' wordedJoined (again _) (again' _) formed
      exact ⟨_, _, .split cut₁ name₁ name₂, .split cut₂ other₁ other₂⟩

end

/-! ## In front of a name -/

theorem head?_opening (pre : List Char) : (opening pre).head? = some (pre.head?.getD ' ') := by
  cases pre with
  | nil => rfl
  | cons c rest =>
    rw [opening]
    split <;> rfl

section

variable {encoder : Encoder} (default : HasDefaultBoundaries encoder.table)

include default

theorem head?_normalize {name mark : List Char} {others : List (List Char)}
    (front : runs isSeparator name = mark :: others) :
    (encoder.normalize name).head? = (wordForm mark).head? := by
  obtain ⟨nonempty, ordinary⟩ := plain_of_runs [] front mark List.mem_cons_self
  have alone : runs isSeparator mark = [mark] := by
    rw [Text.runs_of_forall ordinary, if_neg nonempty]
  have form : encoder.normalize mark = wordForm mark := by
    rw [normalize_eq_join default, alone]
    rfl
  have whole : encoder.normalize name = encoder.normalize mark ++ trailing others := by
    apply normalize_of_runs default
    · simp [alone]
    · rw [front, alone]
      rfl
  rw [whole, form, List.head?_append_of_ne_nil _ (Text.wordForm_ne_nil nonempty)]

/-- A prefix that begins with a letter or a number is not split off a name whose first word has
none. -/
theorem split?_of_unlettered {name mark : List Char} {others : List (List Char)}
    (begins : ∀ pre ∈ encoder.prefixes, ∀ c ∈ pre.toList.head?, isAlphanumeric c = true)
    (front : runs isSeparator name = mark :: others) (unlettered : isLettered mark = false) :
    encoder.split? name = none := by
  rw [split?]
  split
  · refine splitPrefix?_eq_none_iff.2 fun pre known rest leaves => ?_
    obtain ⟨whole, _⟩ := leaves
    have first : (wordForm mark).head? = some (pre.toList.head?.getD ' ') := by
      rw [← head?_normalize default front, whole, List.head?_append, head?_opening]
      rfl
    have member := List.mem_of_head? first
    obtain ⟨_, ordinary⟩ := plain_of_runs [] front mark List.mem_cons_self
    cases same : pre.toList.head? with
    | none =>
      rw [same] at member
      exact absurd (Text.plain_wordForm ordinary _ member) (by decide)
    | some c =>
      rw [same] at member
      have letterless := isLettered_eq_false_iff.1 (isLettered_wordForm unlettered) c member
      rw [begins pre known c same] at letterless
      cases letterless
  · rfl

end

theorem isAlphanumeric_of_defaultPrefixes (nameType : NameType) :
    ∀ pre ∈ nameType.defaultPrefixes, ∀ c ∈ pre.toList.head?, isAlphanumeric c = true := by
  have checked : (NameType.all.all fun nameType => nameType.defaultPrefixes.all fun pre =>
      pre.toList.head?.all isAlphanumeric) = true := by
    decide +kernel
  intro pre known c first
  have begins := List.all_eq_true.1 (List.all_eq_true.1 checked nameType nameType.mem_all) pre known
  rw [Option.mem_def.1 first] at begins
  exact begins

theorem unsplit_iff {encoder : Encoder} {name : String} :
    encoder.Unsplit name ↔ encoder.split? name.toList = none := by
  rw [Unsplit, split?, ite_eq_right_iff]

/-- Words without letters and numbers change nothing in a name that is not generic, and nothing behind
a part of a name that all prefixes end within. With such a word in front, no prefix that begins with a
letter or a number is split off, and the name is encoded word by word. -/
theorem encodeName_of_letteredRuns {set : RuleSet} {settings : Settings} {encoder : Encoder}
    (built : new set.toTable settings = .ok encoder) (explicit : Option LanguageSet) :
    (settings.nameType ≠ .generic → ∀ name other : String,
      letteredRuns name.toList = letteredRuns other.toList →
        encoder.encodeName explicit name = encoder.encodeName explicit other) ∧
    (∀ (lead : List Char) (later later' : List (List Char)) (name other : String),
      runs isSeparator lead ≠ [] → runs isSeparator name.toList = runs isSeparator lead ++ later →
      runs isSeparator other.toList = runs isSeparator lead ++ later' →
      later.filter isLettered = later'.filter isLettered →
      encoder.Within later lead → encoder.Within later' lead →
        encoder.encodeName explicit name = encoder.encodeName explicit other) ∧
    ((∀ pre ∈ encoder.prefixes, ∀ c ∈ pre.toList.head?, isAlphanumeric c = true) →
      ∀ (mark : List Char) (others : List (List Char)) (name other : String),
        runs isSeparator other.toList = mark :: others → isLettered mark = false →
        letteredRuns name.toList = letteredRuns other.toList →
          encoder.encodeName explicit other =
            encoder.encodeWords explicit (encoder.words (encoder.normalize name.toList)) ∧
          (encoder.split? name.toList = none →
            encoder.encodeName explicit name = encoder.encodeName explicit other)) := by
  obtain ⟨table, rfl, _⟩ := of_new built
  have default : HasDefaultBoundaries encoder.table := table ▸ set.hasDefaultBoundaries
  have whole {name : String} (unsplit : encoder.split? name.toList = none) :
      encoder.encodeName explicit name =
        encoder.encodeWords explicit (encoder.words (encoder.normalize name.toList)) :=
    encodeName_of_unsplit (unsplit_iff.2 unsplit) explicit
  refine ⟨?_, ?_, ?_⟩
  · intro special name other same
    have unsplit (name : String) : encoder.split? name.toList = none := if_neg special
    rw [whole (unsplit name), whole (unsplit other), words_congr default same]
  · intro lead later later' name other worded parts parts' same within within'
    obtain ⟨_, _, ofName, ofOther⟩ :=
      within.exists_encodes default explicit within' worded parts parts' same
    obtain ⟨_, encodes⟩ := encoder.exists_encodes_encodeName explicit name
    obtain ⟨_, encodes'⟩ := encoder.exists_encodes_encodeName explicit other
    rw [(encodes.unique ofName).2, (encodes'.unique ofOther).2]
  · intro begins mark others name other front unlettered same
    have unsplit := split?_of_unlettered default begins front unlettered
    have hidden := whole unsplit
    rw [← words_congr default same] at hidden
    exact ⟨hidden, fun unsplit' => (whole unsplit').trans hidden.symm⟩

def genericSet : RuleSet where
  generic := {
    languages := [.any]
    primary := [(.any, .ofList [])]
    approx := some (.ofList []) }

theorem encodeName_of_letteredRuns_van :
    ∃ encoder, new genericSet.toTable {} = .ok encoder ∧
      encoder.encodeName none "van Helsing Smith" = "(helsingsmith)-(vanhelsingsmith)" ∧
      encoder.encodeName none "van Helsing ?! Smith" = "(helsingsmith)-(vanhelsingsmith)" ∧
      encoder.encodeName none "! van Helsing" = encoder.encodeWords none ["van", "helsing"] := by
  let later : List (List Char) := ["Smith".toList]
  let later' : List (List Char) := ["?!".toList, "Smith".toList]
  let hidden : List (List Char) := ["van".toList, "Helsing".toList]
  obtain ⟨encoder, built, seen⟩ := exists_of_new (fun encoder => decide (
      (encoder.split? "van Helsing".toList = some ("helsing".toList, "vanhelsing".toList) ∧
        encoder.split? "helsing".toList = none ∧ encoder.split? "vanhelsing".toList = none) ∧
      (∀ lead ∈ ["van Helsing", "helsing", "vanhelsing"],
        ∀ words ∈ [later, later.map wordForm, later', later'.map wordForm],
          encoder.EndsWithin (encoder.normalize lead.toList) (trailing words)) ∧
      (runs isSeparator "van Helsing".toList ≠ [] ∧
        runs isSeparator "van Helsing Smith".toList =
          runs isSeparator "van Helsing".toList ++ later ∧
        runs isSeparator "van Helsing ?! Smith".toList =
          runs isSeparator "van Helsing".toList ++ later' ∧
        later.filter isLettered = later'.filter isLettered) ∧
      (runs isSeparator "! van Helsing".toList = "!".toList :: hidden ∧
        isLettered "!".toList = false ∧
        letteredRuns "van Helsing".toList = letteredRuns "! van Helsing".toList) ∧
      encoder.words (encoder.normalize "van Helsing".toList) = ["van", "helsing"] ∧
      encoder.encodeName none "van Helsing Smith" = "(helsingsmith)-(vanhelsingsmith)"))
    (show (new genericSet.toTable {}).toOption.map _ = some true by decide +kernel)
  obtain ⟨⟨parts, first, second⟩, ends, ⟨worded, read, read', same⟩, ⟨front, mark, alike⟩, words,
    encoding⟩ := of_decide_eq_true seen
  obtain ⟨table, settings, _⟩ := of_new built
  have begins : ∀ pre ∈ encoder.prefixes, ∀ c ∈ pre.toList.head?, isAlphanumeric c = true := by
    rw [prefixes, table, settings]
    exact isAlphanumeric_of_defaultPrefixes .generic
  have within : encoder.Within later "van Helsing".toList :=
    .split (ends _ (by simp) _ (by simp)) parts (.whole (ends _ (by simp) _ (by simp)) first)
      (.whole (ends _ (by simp) _ (by simp)) second)
  have within' : encoder.Within later' "van Helsing".toList :=
    .split (ends _ (by simp) _ (by simp)) parts (.whole (ends _ (by simp) _ (by simp)) first)
      (.whole (ends _ (by simp) _ (by simp)) second)
  obtain ⟨_, behind, before⟩ := encodeName_of_letteredRuns built .none
  have unchanged := behind _ later later' _ _ worded read read' same within within'
  have whole := (before begins _ hidden _ _ front mark alike).1
  rw [words] at whole
  exact ⟨encoder, built, encoding, unchanged ▸ encoding, whole⟩

/-- A prefix at the beginning of a name is no longer there when such a word stands in front of it. -/
theorem encode_of_mark_before_van :
    ∃ encoder, new genericSet.toTable {} = .ok encoder ∧
      runs isSeparator "! van Helsing".toList = "!".toList :: runs isSeparator "van Helsing".toList ∧
      isLettered "!".toList = false ∧
      encoder.encode "van Helsing" = "(helsing)-(vanhelsing)" ∧
      encoder.encode "! van Helsing" = "vanhelsing" ∧
      encoder.encode "! van Helsing" ≠ encoder.encode "van Helsing" := by
  obtain ⟨encoder, built, seen⟩ := exists_of_new (fun encoder => decide (
      runs isSeparator "! van Helsing".toList =
        "!".toList :: runs isSeparator "van Helsing".toList ∧
      isLettered "!".toList = false ∧
      encoder.encode "van Helsing" = "(helsing)-(vanhelsing)" ∧
      encoder.encode "! van Helsing" = "vanhelsing" ∧
      encoder.encode "! van Helsing" ≠ encoder.encode "van Helsing"))
    (show (new genericSet.toTable {}).toOption.map _ = some true by decide +kernel)
  exact ⟨encoder, built, of_decide_eq_true seen⟩

end Encoder

end Homophone
