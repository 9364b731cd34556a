import Homophone.Proofs.NormalForm
import Mathlib.Data.Nat.Bitwise

/-! How long a text is once it is decomposed.

Normalizing may make a text longer, but not in this sense: what decomposes is as long as its parts,
what is composed as long as what it is composed of, and a letter in lower case is no longer than the
capital. That is read off the tables, which are too long to be searched for each of their entries.
-/

set_option autoImplicit false

namespace Homophone.Unicode

open Text (weigh weigh_nil weigh_cons weigh_append weigh_perm)

/-! ## Lengths of characters -/

/-- Some numbers as the bits of one number, in which each is found in one step. -/
def bitSet : List Nat → Nat
  | [] => 0
  | n :: rest => 2 ^ n ||| bitSet rest

theorem testBit_bitSet {numbers : List Nat} {n : Nat} :
    (bitSet numbers).testBit n = true ↔ n ∈ numbers := by
  induction numbers with
  | nil => simp [bitSet]
  | cons first rest ih =>
    rw [bitSet, Nat.testBit_or, Nat.testBit_two_pow, Bool.or_eq_true, ih, decide_eq_true_eq,
      List.mem_cons, @eq_comm _ n]

/-- The characters that decompose into more than `k + 1` others. A pair decomposes further in its
first part only. -/
def longer : Nat → Nat
  | 0 => bitSet (pairs.map (·.1) ++ exclusions.map (·.1))
  | k + 1 =>
    bitSet ((pairs.filter fun entry => (longer k).testBit entry.2.1).map (·.1) ++
      (exclusions.filter fun entry => k + 2 < entry.2.length).map (·.1))

def lengthAt (n : Nat) : Nat :=
  match Hangul.decompose? n with
  | some letters => letters.length
  | none =>
    if (longer 0).testBit n then
      if (longer 1).testBit n then if (longer 2).testBit n then 4 else 3 else 2
    else 1

def decomposedLength (c : Char) : Nat := lengthAt c.toNat

theorem length_of_decompose? {n : Nat} {letters : List Char}
    (taken : Hangul.decompose? n = some letters) : letters.length = 2 ∨ letters.length = 3 := by
  unfold Hangul.decompose? at taken
  dsimp only at taken
  split at taken
  · cases taken
  · rw [← Option.some.inj taken]
    split
    · exact .inl rfl
    · exact .inr rfl

theorem lengthAt_bounds (n : Nat) : 1 ≤ lengthAt n ∧ lengthAt n ≤ 4 := by
  rw [lengthAt]
  split
  · next letters taken => rcases length_of_decompose? taken with same | same <;> omega
  · split_ifs <;> decide

theorem one_le_decomposedLength (c : Char) : 1 ≤ decomposedLength c := (lengthAt_bounds c.toNat).1

/-- The tables agree on the lengths: of pairs, of characters that stand for another one, of those
that are not composed again, of capitals and small letters; and what stands below all of these, or
makes up syllable blocks, is not decomposed. -/
theorem lengthAt_tables :
    (∀ entry ∈ pairs, lengthAt entry.1 = lengthAt entry.2.1 + lengthAt entry.2.2) ∧
    (∀ entry ∈ singletons, lengthAt entry.1 = 1 ∧ lengthAt entry.2 = 1) ∧
    (∀ entry ∈ exclusions,
      (∀ part ∈ entry.2, lengthAt part = 1) ∧ lengthAt entry.1 = entry.2.length) ∧
    (∀ run ∈ lowerCaseRuns, ∀ k ∈ run.steps,
      lengthAt (k * run.step + run.target) ≤ lengthAt (k * run.step + run.first)) ∧
    (∀ n ∈ List.range 0xC0 ++ List.range' 0x1100 0x100, lengthAt n = 1) ∧
    (∀ c ∈ ['i', '\u0307', 'ς', 'σ'], lengthAt c.toNat = 1) ∧ lengthAt 'İ'.toNat = 2 := by
  -- The tables are long, so that the kernel is to run through them with a `Bool`.
  have checked :
      ((pairs.all fun entry => lengthAt entry.1 == lengthAt entry.2.1 + lengthAt entry.2.2) &&
      (singletons.all fun entry => lengthAt entry.1 == 1 && lengthAt entry.2 == 1) &&
      (exclusions.all fun entry =>
        (entry.2.all fun part => lengthAt part == 1) && lengthAt entry.1 == entry.2.length) &&
      (lowerCaseRuns.all fun run => run.steps.all fun k =>
        lengthAt (k * run.step + run.target) ≤ lengthAt (k * run.step + run.first)) &&
      ((List.range 0xC0 ++ List.range' 0x1100 0x100).all fun n => lengthAt n == 1) &&
      (['i', '\u0307', 'ς', 'σ'].all fun c => lengthAt c.toNat == 1) &&
      lengthAt 'İ'.toNat == 2) = true := by
    decide +kernel
  simp only [Bool.and_eq_true, List.all_eq_true, beq_iff_eq, decide_eq_true_eq, and_assoc] at checked
  exact checked

theorem lengthAt_of_lt {n : Nat} (low : n < 0xC0) : lengthAt n = 1 := by
  obtain ⟨_, _, _, _, plain, _⟩ := lengthAt_tables
  exact plain n (List.mem_append_left _ (List.mem_range.2 low))

theorem decomposedLength_ofNat_le (n : Nat) : decomposedLength (Char.ofNat n) ≤ lengthAt n := by
  by_cases valid : n.isValidChar
  · rw [decomposedLength, toNat_ofNat valid]
  · rw [Char.ofNat, dif_neg valid]
    exact Nat.le_trans (Nat.le_of_eq (lengthAt_of_lt (by decide))) (lengthAt_bounds n).1

theorem decomposedLength_ofNat_eq_one {n : Nat} (single : lengthAt n = 1) :
    decomposedLength (Char.ofNat n) = 1 :=
  Nat.le_antisymm (single ▸ decomposedLength_ofNat_le n) (one_le_decomposedLength _)

/-! ## Hangul -/

section

open Hangul

theorem lengthAt_of_decompose? {n : Nat} {letters : List Char}
    (taken : decompose? n = some letters) : lengthAt n = letters.length := by
  rw [lengthAt, taken]

theorem decomposedLength_of_mem_hangul {n : Nat} {letters : List Char}
    (taken : decompose? n = some letters) : ∀ c ∈ letters, decomposedLength c = 1 := by
  intro c member
  obtain ⟨point, low, high, rfl⟩ := exists_of_mem_decompose? taken member
  obtain ⟨_, _, _, _, plain, _⟩ := lengthAt_tables
  exact decomposedLength_ofNat_eq_one
    (plain point (List.mem_append_right _ (List.mem_range'_1.2 ⟨low, by omega⟩)))

theorem lengthAt_syllable {n : Nat} (low : syllableBase ≤ n)
    (high : n < syllableBase + leadCount * vowelCount * tailCount) :
    lengthAt n = if (n - syllableBase) % tailCount = 0 then 2 else 3 := by
  have outside : (n < syllableBase || leadCount * vowelCount * tailCount ≤ n - syllableBase) =
      false := by
    simp only [Bool.or_eq_false_iff, decide_eq_false_iff_not]
    omega
  rw [lengthAt, decompose?]
  dsimp only
  rw [outside, if_neg Bool.false_ne_true]
  dsimp only
  split <;> rfl

theorem decomposedLength_of_hangul {a b whole : Char}
    (made : compose? a.toNat b.toNat = some whole) :
    decomposedLength whole ≤ decomposedLength a + decomposedLength b := by
  have one := one_le_decomposedLength a
  have two := one_le_decomposedLength b
  unfold compose? at made
  split at made
  -- A leading consonant and a vowel make an open block.
  · next inside =>
    simp only [Bool.and_eq_true, decide_eq_true_eq] at inside
    simp only [leadBase, leadCount, vowelBase, vowelCount] at inside
    rw [← Option.some.inj made]
    refine Nat.le_trans (decomposedLength_ofNat_le _) ?_
    rw [lengthAt_syllable (Nat.le_add_right _ _), if_pos]
    · omega
    · simp only [syllableBase, vowelCount, tailCount, leadBase, vowelBase]
      omega
    · simp only [syllableBase, leadCount, vowelCount, tailCount, leadBase, vowelBase]
      omega
  · split at made
    -- An open block and a consonant make a closed one.
    · next inside =>
      simp only [Bool.and_eq_true, decide_eq_true_eq, beq_iff_eq] at inside
      obtain ⟨⟨⟨⟨low, high⟩, closed⟩, above⟩, below⟩ := inside
      have first : decomposedLength a = 2 := by
        rw [decomposedLength, lengthAt_syllable low high, if_pos closed]
      rw [← Option.some.inj made]
      refine Nat.le_trans (decomposedLength_ofNat_le _) ?_
      rw [lengthAt_syllable]
      · split <;> omega
      · omega
      · simp only [syllableBase, leadCount, vowelCount, tailCount, tailBase] at *
        omega
    · cases made

end

/-! ## Normalizing -/

theorem weigh_eq_length {text : List Char} (single : ∀ c ∈ text, decomposedLength c = 1) :
    weigh decomposedLength text = text.length := by
  induction text with
  | nil => rfl
  | cons c rest ih =>
    rw [List.forall_mem_cons] at single
    rw [weigh_cons, single.1, ih single.2, List.length_cons, Nat.add_comm]

theorem length_le_weigh (text : List Char) : text.length ≤ weigh decomposedLength text := by
  induction text with
  | nil => exact Nat.le_refl _
  | cons c rest ih =>
    have one := one_le_decomposedLength c
    rw [List.length_cons, weigh_cons]
    omega

theorem weigh_decomposedLength_splitOnce_le (c : Char) :
    weigh decomposedLength (splitOnce c) ≤ decomposedLength c := by
  obtain ⟨ofPairs, ofSingletons, ofExclusions, _⟩ := lengthAt_tables
  rcases splitOnce_cases c with alone | letters | ⟨entry, listed, same, parts⟩ |
    ⟨entry, listed, same, part⟩ | ⟨entry, listed, same, parts⟩
  · rw [alone]
    exact Nat.le_refl _
  · rw [weigh_eq_length (decomposedLength_of_mem_hangul letters), decomposedLength,
      lengthAt_of_decompose? letters]
  · rw [parts, decomposedLength, ← same, ofPairs entry listed]
    exact Nat.add_le_add (decomposedLength_ofNat_le _) (decomposedLength_ofNat_le _)
  · rw [part, weigh_cons, decomposedLength_ofNat_eq_one (ofSingletons entry listed).2]
    exact one_le_decomposedLength c
  · obtain ⟨single, length⟩ := ofExclusions entry listed
    have each : ∀ part ∈ entry.2.map Char.ofNat, decomposedLength part = 1 :=
      List.forall_mem_map.2 fun part member => decomposedLength_ofNat_eq_one (single part member)
    rw [parts, weigh_eq_length each, decomposedLength, ← same, length, List.length_map]

theorem decomposedLength_composePair?_le {a b whole : Char} (made : composePair? a b = some whole) :
    decomposedLength whole ≤ decomposedLength a + decomposedLength b := by
  obtain ⟨ofPairs, _⟩ := lengthAt_tables
  rw [composePair?] at made
  split at made
  · cases made
  · split at made
    · next block =>
      cases made
      exact decomposedLength_of_hangul block
    · obtain ⟨entry, found, rfl⟩ := Option.map_eq_some_iff.1 made
      have parts := List.find?_some found
      simp only [Bool.and_eq_true, beq_iff_eq] at parts
      have length := ofPairs entry (List.mem_of_find?_eq_some found)
      rw [parts.1, parts.2] at length
      exact Nat.le_trans (decomposedLength_ofNat_le _) (Nat.le_of_eq length)

theorem decomposedLength_map_le (c : Char) :
    decomposedLength (lowerCaseRuns.map c) ≤ decomposedLength c := by
  obtain ⟨_, _, _, ofRuns, _⟩ := lengthAt_tables
  rw [CaseRuns.map]
  cases found : CaseRuns.image? c.toNat lowerCaseRuns with
  | none => exact Nat.le_refl _
  | some image =>
    obtain ⟨run, listed, k, within, same, rfl⟩ := CaseRuns.exists_run_of_image? found
    rw [decomposedLength.eq_def c, same]
    exact Nat.le_trans (decomposedLength_ofNat_le _) (ofRuns run listed k within)

/-- No text gets longer, in this sense, by normalizing it. -/
theorem neverAdds_decomposedLength : NeverAdds decomposedLength where
  decompose := weigh_decomposedLength_splitOnce_le
  compose := decomposedLength_composePair?_le
  lowerCase c := by
    obtain ⟨_, _, _, _, _, letters, dotted⟩ := lengthAt_tables
    rw [lowerCaseOf]
    split
    · next capital =>
      rw [capital, weigh_cons, weigh_cons, weigh_nil, decomposedLength, decomposedLength,
        decomposedLength, letters 'i' (by simp), letters '\u0307' (by simp), dotted]
    · exact decomposedLength_map_le c
  sigma before after := by
    obtain ⟨_, _, _, _, _, letters, _⟩ := lengthAt_tables
    have one := one_le_decomposedLength 'Σ'
    rw [lowerCaseSigma]
    split
    · exact Nat.le_trans (Nat.le_of_eq (letters 'ς' (by simp))) one
    · exact Nat.le_trans (Nat.le_of_eq (letters 'σ' (by simp))) one

/-! ## What is decomposed -/

theorem mem_of_testBit_longer {k n : Nat} (long : (longer k).testBit n = true) :
    n ∈ pairs.map (·.1) ∨ n ∈ exclusions.map (·.1) := by
  cases k with
  | zero => exact List.mem_append.1 (testBit_bitSet.1 long)
  | succ k =>
    rcases List.mem_append.1 (testBit_bitSet.1 long) with pair | excluded
    · exact .inl ((List.filter_sublist.map _).subset pair)
    · exact .inr ((List.filter_sublist.map _).subset excluded)

theorem mem_of_one_lt_lengthAt {n : Nat} (block : Hangul.decompose? n = none)
    (long : 1 < lengthAt n) : n ∈ pairs.map (·.1) ∨ n ∈ exclusions.map (·.1) := by
  rw [lengthAt, block] at long
  dsimp only at long
  split at long
  · next zero => exact mem_of_testBit_longer zero
  · exact absurd long (Nat.lt_irrefl 1)

theorem splitOnce_ne_singleton {c : Char} (long : 1 < decomposedLength c) (single : Char) :
    splitOnce c ≠ [single] := by
  obtain ⟨_, ofSingletons, ofExclusions, _⟩ := lengthAt_tables
  intro alone
  rw [decomposedLength] at long
  rw [splitOnce] at alone
  split at alone
  · next low =>
    rw [lengthAt_of_lt low] at long
    exact absurd long (Nat.lt_irrefl 1)
  · split at alone
    · next letters taken =>
      rw [lengthAt_of_decompose? taken, alone] at long
      exact absurd long (Nat.lt_irrefl 1)
    · next block =>
      split at alone
      · cases alone
      · next unpaired =>
        split at alone
        · next key part found =>
          have same := List.find?_some found
          rw [beq_iff_eq] at same
          rw [← same, (ofSingletons _ (List.mem_of_find?_eq_some found)).1] at long
          exact absurd long (Nat.lt_irrefl 1)
        · split at alone
          · next key parts found =>
            have same := List.find?_some found
            rw [beq_iff_eq] at same
            have length := (ofExclusions _ (List.mem_of_find?_eq_some found)).2
            rw [← List.length_map Char.ofNat, alone, same] at length
            rw [length] at long
            exact absurd long (Nat.lt_irrefl 1)
          -- What is in no table is one character long.
          · next unexcluded =>
            rw [List.find?_eq_none] at unpaired unexcluded
            rcases mem_of_one_lt_lengthAt block long with pair | excluded
            · obtain ⟨entry, listed, same⟩ := List.mem_map.1 pair
              exact unpaired entry listed (by simp [same])
            · obtain ⟨entry, listed, same⟩ := List.mem_map.1 excluded
              exact unexcluded entry listed (by simp [same])

theorem decomposedLength_of_splitOnce {c single : Char} (alone : splitOnce c = [single]) :
    decomposedLength single = 1 := by
  have parts := weigh_decomposedLength_splitOnce_le c
  have one := one_le_decomposedLength single
  have short : ¬1 < decomposedLength c := fun long => splitOnce_ne_singleton long single alone
  rw [alone, weigh_cons, weigh_nil] at parts
  omega

theorem decomposedLength_lt_of_mem_splitOnce {c part : Char}
    (several : ∀ single, splitOnce c ≠ [single]) (member : part ∈ splitOnce c) :
    decomposedLength part < decomposedLength c := by
  -- The other parts are not empty, and they are as long as they are many.
  obtain ⟨before, after, parts⟩ := List.append_of_mem member
  have whole := weigh_decomposedLength_splitOnce_le c
  have first := length_le_weigh before
  have last := length_le_weigh after
  have more : before ≠ [] ∨ after ≠ [] := by
    by_contra alone
    rw [not_or, not_not, not_not] at alone
    rw [alone.1, alone.2] at parts
    exact several part parts
  rw [parts, weigh_append, weigh_cons] at whole
  rcases more with nonempty | nonempty
  · have positive := List.length_pos_iff.2 nonempty
    omega
  · have positive := List.length_pos_iff.2 nonempty
    omega

/-- A character is decomposed in fewer steps than it is long. -/
theorem decomposedLength_of_mem_decomposeWithin {fuel : Nat} {c part : Char}
    (enough : decomposedLength c ≤ fuel + 1) (member : part ∈ decomposeWithin fuel c) :
    decomposedLength part = 1 := by
  induction fuel generalizing c with
  | zero =>
    rw [List.mem_singleton.1 member]
    exact Nat.le_antisymm enough (one_le_decomposedLength c)
  | succ fuel ih =>
    rw [decomposeWithin] at member
    split at member
    · next single alone =>
      rw [List.mem_singleton.1 member]
      exact decomposedLength_of_splitOnce alone
    · next several =>
      obtain ⟨other, listed, inside⟩ := List.mem_flatMap.1 member
      have shorter := decomposedLength_lt_of_mem_splitOnce several listed
      exact ih (by omega) inside

theorem weigh_decompose_eq_length (text : List Char) :
    weigh decomposedLength (decompose text) = (decompose text).length := by
  refine weigh_eq_length fun c member => ?_
  rw [decompose, (reorderAfter_perm [] _).mem_iff, List.nil_append] at member
  obtain ⟨whole, _, part⟩ := List.mem_flatMap.1 member
  exact decomposedLength_of_mem_decomposeWithin
    (Nat.le_succ_of_le (lengthAt_bounds whole.toNat).2) part

/-- The normal form is no longer than the decomposed text. -/
theorem weigh_decomposedLength_normalize_le (text : List Char) :
    weigh decomposedLength (Text.normalize text) ≤ (decompose text).length :=
  weigh_decompose_eq_length text ▸ weigh_normalize_le_decompose neverAdds_decomposedLength text

end Homophone.Unicode
