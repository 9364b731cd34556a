import Homophone.Proofs.Separators

/-! Texts without letters and numbers.

The parts of a character that is neither a letter nor a number are neither, and what is composed of
such characters is neither; none of them has a lower case. So a word without letters and numbers stays
one when it is put into normal form.
-/

set_option autoImplicit false

namespace Homophone

namespace Unicode

/-! ## In the tables -/

def alphanumericBits : Nat := alphanumeric.mask

theorem alphanumeric_checked :
    (decide ((alphanumeric.map (·.1)).IsChain (· ≤ ·)) &&
    decide ((0x10FC, 0x1248) ∈ alphanumeric ∧ (0xAC00, 0xD7A3) ∈ alphanumeric) &&
    (pairs.all fun entry =>
      alphanumericBits.testBit entry.1 == alphanumericBits.testBit entry.2.1) &&
    (pairs.all fun entry => decide (alphanumericBits.testBit entry.1 = false →
      alphanumericBits.testBit entry.2.2 = false)) &&
    (singletons.all fun entry => decide (alphanumericBits.testBit entry.1 = false →
      alphanumericBits.testBit entry.2 = false)) &&
    (exclusions.all fun entry => decide (alphanumericBits.testBit entry.1 = false →
      ∀ part ∈ entry.2, alphanumericBits.testBit part = false)) &&
    ('İ'.toNat :: capitalPoints).all fun n => alphanumericBits.testBit n) = true := by
  decide +kernel

/-- A pair is a letter or a number exactly if its first part is. -/
structure AlphanumericTables : Prop where
  ascending : (alphanumeric.map (·.1)).IsChain (· ≤ ·)
  hangul : (0x10FC, 0x1248) ∈ alphanumeric ∧ (0xAC00, 0xD7A3) ∈ alphanumeric
  first : ∀ entry ∈ pairs, alphanumericBits.testBit entry.1 = alphanumericBits.testBit entry.2.1
  second : ∀ entry ∈ pairs, alphanumericBits.testBit entry.1 = false →
    alphanumericBits.testBit entry.2.2 = false
  single : ∀ entry ∈ singletons, alphanumericBits.testBit entry.1 = false →
    alphanumericBits.testBit entry.2 = false
  excluded : ∀ entry ∈ exclusions, alphanumericBits.testBit entry.1 = false →
    ∀ part ∈ entry.2, alphanumericBits.testBit part = false
  moved : ∀ n ∈ 'İ'.toNat :: capitalPoints, alphanumericBits.testBit n = true

theorem alphanumeric_tables : AlphanumericTables := by
  have checked := alphanumeric_checked
  simp only [Bool.and_eq_true, List.all_eq_true, decide_eq_true_eq, beq_iff_eq, and_assoc]
    at checked
  obtain ⟨ascending, syllable, letter, first, second, single, excluded, moved⟩ := checked
  exact ⟨ascending, ⟨syllable, letter⟩, first, second, single, excluded, moved⟩

theorem isAlphanumeric_eq (c : Char) : isAlphanumeric c = alphanumericBits.testBit c.toNat := by
  rw [Bool.eq_iff_iff, alphanumericBits, Ranges.testBit_mask]
  constructor
  · exact Ranges.containsPoint_sound
  · rintro ⟨range, listed, low, high⟩
    exact Ranges.containsPoint_of_mem alphanumeric_tables.ascending listed low high

theorem neverEntered_alphanumericBits : NeverEntered alphanumericBits where
  null := by
    rw [← isAlphanumeric_eq]
    decide
  hangul m n inside inside' := by
    have letters {n : Nat} (inside : isOutsideHangul n = false) :
        alphanumericBits.testBit n = true := by
      obtain ⟨letters, syllables⟩ := alphanumeric_tables.hangul
      simp only [isOutsideHangul, Bool.or_eq_false_iff, Bool.and_eq_false_iff,
        decide_eq_false_iff_not] at inside
      have within : (0x10FC ≤ n ∧ n ≤ 0x1248) ∨ (0xAC00 ≤ n ∧ n ≤ 0xD7A3) := by
        omega
      rw [alphanumericBits, Ranges.testBit_mask]
      rcases within with bounds | bounds
      · exact ⟨_, letters, bounds⟩
      · exact ⟨_, syllables, bounds⟩
    rw [letters inside, letters inside']
  first := alphanumeric_tables.first
  second := alphanumeric_tables.second
  single := alphanumeric_tables.single
  excluded := alphanumeric_tables.excluded

/-! ## In normal form -/

def Letterless (text : List Char) : Prop := ∀ c ∈ text, isAlphanumeric c = false

theorem letterless_iff {text : List Char} : Letterless text ↔ Avoids alphanumericBits text :=
  forall₂_congr fun c _ => by rw [isAlphanumeric_eq]

theorem Letterless.compose {text : List Char} (letterless : Letterless text) :
    Letterless (compose text) :=
  letterless_iff.2 (neverEntered_alphanumericBits.compose (letterless_iff.1 letterless))

theorem Letterless.isSmall {text : List Char} (letterless : Letterless text) : IsSmall text := by
  intro c member
  rw [lowerCaseOf_eq_iff, movedBits, ← Bool.not_eq_true, testBit_bitSet]
  intro moved
  have letter := alphanumeric_tables.moved _ moved
  rw [← isAlphanumeric_eq, letterless c member] at letter
  cases letter

end Unicode

open Unicode

theorem Text.letterless_wordForm {word : List Char} (letterless : Letterless word) :
    Letterless (wordForm word) := by
  rw [wordForm, letterless.compose.isSmall.lowerCase_eq]
  exact letterless.compose

end Homophone
