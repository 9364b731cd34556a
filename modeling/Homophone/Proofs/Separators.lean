import Homophone.Proofs.NormalizingTwice

/-! What separates the words of a name.

Composing and lower case act on a whole name before it is cut into words, but neither looks across a
separator. White space, hyphens and bars compose with nothing, two blanks are written as other blanks,
and the search for a cased letter around a capital sigma ends at each of them. So the words of a name
in normal form are those of the name, each put into a form of its own, and it makes no difference to
an encoding what separates them.
-/

set_option autoImplicit false

namespace Homophone

open Unicode

namespace Text

/-! ## Separators -/

/-- A bar, or what separates words by default. -/
def isSeparator (c : Char) : Bool := c = '|' || (isWhiteSpace c || c = '-')

theorem isBreak_of_isSeparator {c : Char} (separator : isSeparator c = true) : isBreak c = true :=
  Bool.or_eq_true_iff.2 (.inr separator)

def separatorBits : Nat := Ranges.mask (('|'.toNat, '|'.toNat) :: ('-'.toNat, '-'.toNat) :: whiteSpace)

theorem testBit_separatorBits {c : Char} (separator : isSeparator c = true) :
    separatorBits.testBit c.toNat = true := by
  rw [separatorBits, Ranges.testBit_mask]
  simp only [isSeparator, Bool.or_eq_true, decide_eq_true_eq] at separator
  rcases separator with rfl | blank | rfl
  · simp
  · obtain ⟨range, listed, bounds⟩ := Ranges.containsPoint_sound blank
    exact ⟨range, List.mem_cons_of_mem _ (List.mem_cons_of_mem _ listed), bounds⟩
  · simp

theorem separators_checked :
    (caseIgnorable.mask &&& separatorBits == 0 && cased.mask &&& separatorBits == 0 &&
    (singletons.all fun entry =>
      !separatorBits.testBit entry.1 || isSeparator (.ofNat entry.2)) &&
    exclusions.all fun entry => !separatorBits.testBit entry.1) = true := by
  decide +kernel

/-- Separators are neither cased nor passed over in search of a cased letter. Where one is written in
another way, it is as one separator again. -/
structure SeparatorTables : Prop where
  ignorable : caseIgnorable.mask &&& separatorBits = 0
  cased : cased.mask &&& separatorBits = 0
  single : ∀ entry ∈ singletons, separatorBits.testBit entry.1 = false ∨
    isSeparator (.ofNat entry.2) = true
  excluded : ∀ entry ∈ exclusions, separatorBits.testBit entry.1 = false

theorem separator_tables : SeparatorTables := by
  have checked := separators_checked
  simp only [Bool.and_eq_true, Bool.or_eq_true, List.all_eq_true, beq_iff_eq, Bool.not_eq_true',
    and_assoc] at checked
  obtain ⟨ignorable, cased, single, excluded⟩ := checked
  exact ⟨ignorable, cased, single, excluded⟩

section

variable {c : Char} (separator : isSeparator c = true)

include separator

theorem not_contains_of_isSeparator {ranges : Ranges}
    (disjoint : ranges.mask &&& separatorBits = 0) : ranges.contains c = false := by
  refine Bool.eq_false_iff.2 fun inside => ?_
  have bit := Ranges.testBit_mask.2 (Ranges.containsPoint_sound inside)
  rw [testBit_of_disjoint disjoint (testBit_separatorBits separator)] at bit
  cases bit

theorem isCaseIgnorable_of_isSeparator : isCaseIgnorable c = false :=
  not_contains_of_isSeparator separator separator_tables.ignorable

theorem isCased_of_isSeparator : isCased c = false :=
  not_contains_of_isSeparator separator separator_tables.cased

theorem lowerCaseOf_of_isSeparator : lowerCaseOf c = [c] := by
  by_contra capital
  exact not_isLetter_of_isBreak (isBreak_of_isSeparator separator) (isLetter_of_lowerCaseOf capital)

theorem exists_splitOnce_of_isSeparator :
    ∃ part, splitOnce c = [part] ∧ isSeparator part = true := by
  have broken := isBreak_of_isSeparator separator
  have point := testBit_separatorBits separator
  rcases splitOnce_cases c with alone | letters | ⟨entry, listed, same, _⟩ |
    ⟨entry, listed, same, parts⟩ | ⟨entry, listed, same, _⟩
  · exact ⟨c, alone, separator⟩
  · rw [decompose?_of_isOutsideHangul (isOutsideHangul_of_isBreak broken)] at letters
    cases letters
  · obtain ⟨plain, _⟩ := unbroken_tables.1 entry listed
    rw [same, isBreakPoint_of_isBreak broken] at plain
    cases plain
  · rcases separator_tables.single entry listed with plain | between
    · rw [same, point] at plain
      cases plain
    · exact ⟨_, parts, between⟩
  · have plain := separator_tables.excluded entry listed
    rw [same, point] at plain
    cases plain

end

/-! ## Around a separator -/

/-- What a word becomes when the name that it stands in is put into normal form. -/
def wordForm (word : List Char) : List Char := lowerCase (compose word)

theorem compose_append_separator {c : Char} (separator : isSeparator c = true)
    (text rest : List Char) :
    ∃ part, isSeparator part = true ∧
      compose (text ++ c :: rest) = compose text ++ part :: compose rest := by
  obtain ⟨part, alone, same⟩ := exists_splitOnce_of_isSeparator separator
  have undivided : Undivided part := undivided_of_splitOnce alone
  have written : decomposeChar c = [part] := by
    rw [decomposeChar, deepestPair, decomposeWithin, alone]
  -- A blank that is written as another one may as well be that one.
  have same' : decompose (text ++ c :: rest) = decompose (text ++ part :: rest) := by
    simp only [decompose, List.flatMap_append, List.flatMap_cons, written,
      undivided.decomposeChar]
  refine ⟨part, same, ?_⟩
  rw [compose_of_decompose same',
    compose_append_break (isBreak_of_isSeparator same) undivided]

theorem wordForm_append_separator {c : Char} (separator : isSeparator c = true)
    (text rest : List Char) :
    ∃ part, isSeparator part = true ∧
      wordForm (text ++ c :: rest) = wordForm text ++ part :: wordForm rest := by
  obtain ⟨part, same, composed⟩ := compose_append_separator separator text rest
  refine ⟨part, same, ?_⟩
  rw [wordForm, composed, lowerCase_append_cons (isCaseIgnorable_of_isSeparator same)
    (isCased_of_isSeparator same) (lowerCaseOf_of_isSeparator same)]
  rfl

/-! ## Words -/

theorem plain_wordForm {word : List Char} (plain : ∀ c ∈ word, isSeparator c = false) :
    ∀ c ∈ wordForm word, isSeparator c = false := by
  intro c member
  by_contra separator
  rw [Bool.not_eq_false] at separator
  have broken := isBreak_of_isSeparator separator
  -- The only breaks of the word are apostrophes, and these are not decomposed.
  have keeps : KeepsBreaks word := by
    intro other listed point
    rw [isBreak, Bool.or_eq_true, decide_eq_true_eq] at point
    rcases point with rfl | between
    · exact undivided_of_lt (by decide)
    · have absent := plain other listed
      rw [isSeparator, between] at absent
      cases absent
  have before := mem_of_mem_compose keeps broken (mem_of_mem_lowerCaseAfter broken member)
  rw [plain c before] at separator
  cases separator

theorem wordForm_ne_nil {word : List Char} (nonempty : word ≠ []) : wordForm word ≠ [] := by
  have composed := compose_ne_nil nonempty
  rw [wordForm]
  cases same : compose word with
  | nil => exact absurd same composed
  | cons c rest =>
    rw [lowerCase, lowerCaseAfter, lowerCaseOf]
    split_ifs <;> simp

/-- The words are put into form one by one. By induction on the length: a text without separators
is one word at most, and at the first separator it falls into two. -/
theorem runs_wordForm (text : List Char) :
    runs isSeparator (wordForm text) = (runs isSeparator text).map wordForm := by
  induction length : text.length using Nat.strong_induction_on generalizing text with
  | _ n ih =>
    have whole {text : List Char} (plain : ∀ c ∈ text, isSeparator c = false) :
        runs isSeparator (wordForm text) = (runs isSeparator text).map wordForm := by
      rw [runs_of_forall plain, runs_of_forall (plain_wordForm plain)]
      by_cases empty : text = []
      · subst empty
        rfl
      · rw [if_neg empty, if_neg (wordForm_ne_nil empty)]
        rfl
    rcases exists_first isSeparator text with plain | ⟨before, c, rest, rfl, separator, plain⟩
    · exact whole plain
    · have later := ih rest.length (by simp [← length]; omega) rest rfl
      obtain ⟨part, same, form⟩ := wordForm_append_separator separator before rest
      rw [form, runs_append_cons same, runs_append_cons separator, whole plain, later,
        List.map_append]

theorem runs_normalize (text : List Char) :
    runs isSeparator (normalize text) = (runs isSeparator text).map wordForm := by
  have blank : ∀ c, isWhiteSpace c = true → isSeparator c = true := by
    intro c white
    simp [isSeparator, white]
  rw [normalize, runs_trim blank]
  exact runs_wordForm text

end Text

namespace Encoder

open Text (isSeparator join runs wordForm)

section

variable {encoder : Encoder} (default : HasDefaultBoundaries encoder.table)

include default

theorem separates_eq : encoder.separates = isSeparator := by
  funext c
  rw [separates, default]
  rfl

theorem normalize_eq_join (name : List Char) :
    encoder.normalize name = join [' '] ((runs isSeparator name).map wordForm) := by
  rw [← Text.runs_normalize, ← separates_eq default]
  rfl

end

/-- A name in normal form is its words, each in a form of its own, with a space between them. So names
that have the same words between their separators have the same encoding: a prefix is split off both
or neither, whatever is left of them. -/
theorem encodeName_of_runs {encoder : Encoder} (default : HasDefaultBoundaries encoder.table) :
    (∀ name, encoder.normalize name = join [' '] ((runs isSeparator name).map wordForm)) ∧
    ∀ name other : String, runs isSeparator name.toList = runs isSeparator other.toList →
      encoder.split? name.toList = encoder.split? other.toList ∧
      ∀ explicit, encoder.encodeName explicit name = encoder.encodeName explicit other := by
  refine ⟨normalize_eq_join default, fun name other same => ?_⟩
  have normal : encoder.normalize name.toList = encoder.normalize other.toList := by
    rw [normalize_eq_join default, normalize_eq_join default, same]
  refine ⟨?_, fun explicit => encodeName_of_normalize normal⟩
  rw [split?, split?, normal]

/-- A sigma that ends a word has its final form whatever comes next. -/
theorem encodeName_of_runs_particles :
    ∃ encoder, new particleSet.toTable {} = .ok encoder ∧
      encoder.encodeName none "De la ΑΣ-Ι" = "(αςι)-(delaαςι)" ∧
      encoder.encodeName none "| De-la||ΑΣ\u2000\tΙ -" = "(αςι)-(delaαςι)" := by
  obtain ⟨encoder, built, seen⟩ := exists_of_new (fun encoder =>
      (encoder.encode "De la ΑΣ-Ι",
        runs isSeparator "De la ΑΣ-Ι".toList ==
          runs isSeparator "| De-la||ΑΣ\u2000\tΙ -".toList))
    (show (new particleSet.toTable {}).toOption.map _ = some ("(αςι)-(delaαςι)", true) by
      decide +kernel)
  obtain ⟨encoding, alike⟩ := Prod.mk.inj seen
  obtain ⟨table, _⟩ := of_new built
  have default : HasDefaultBoundaries encoder.table :=
    table ▸ particleSet.hasDefaultBoundaries
  have same := ((encodeName_of_runs default).2 "De la ΑΣ-Ι" "| De-la||ΑΣ\u2000\tΙ -"
    (beq_iff_eq.1 alike)).2 none
  exact ⟨encoder, built, encoding, same ▸ encoding⟩

end Encoder

end Homophone
