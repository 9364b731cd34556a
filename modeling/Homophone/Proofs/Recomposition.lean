import Homophone.Proofs.CanonicalOrder
import Homophone.Proofs.DecomposedLength

/-! Composing what was decomposed.

What two characters compose to decomposes into the parts of the first, and the second. A composed
mark was not blocked, so it only stood behind marks of lower classes, and decomposing a composed
text gives what it was composed of. That is the same for all texts with one decomposition, so
composing twice changes nothing.
-/

set_option autoImplicit false

namespace Homophone.Unicode

/-! ## Characters that are not decomposed -/

/-- A character that is not decomposed any further. -/
def Undivided (c : Char) : Prop := splitOnce c = [c]

instance (c : Char) : Decidable (Undivided c) := inferInstanceAs (Decidable (_ = _))

theorem Undivided.decomposeWithin {c : Char} (undivided : Undivided c) (fuel : Nat) :
    decomposeWithin fuel c = [c] := by
  cases fuel with
  | zero => rfl
  | succ fuel => rw [Unicode.decomposeWithin, undivided]

theorem Undivided.decomposeChar {c : Char} (undivided : Undivided c) : decomposeChar c = [c] :=
  undivided.decomposeWithin deepestPair

theorem undivided_of_lt {c : Char} (low : c.toNat < 0xC0) : Undivided c := if_pos low

def singletonBits : Nat := bitSet (singletons.map (·.1))

/-- The tables are long: the kernel runs through them once, with a `Bool`, and what they say is read
off that. -/
theorem composition_checked :
    (decide ((pairs.map (·.1)).IsChain (· < ·)) &&
    (pairs.all fun entry => decide (0xC0 ≤ entry.1) && decide entry.1.isValidChar &&
      (Hangul.decompose? entry.1).isNone) &&
    (singletons.all fun entry => !singletonBits.testBit entry.2) &&
    (exclusions.all fun entry => decide (2 ≤ entry.2.length)) &&
    (List.range' 0x1100 0x100).all fun n => !singletonBits.testBit n) = true := by
  decide +kernel

/-- Pairs are listed by what they compose to, which is no syllable block; what stands for another
character has none that stands for it, nor do letters of syllable blocks; and what is excluded from
composition has several parts. -/
structure CompositionTables : Prop where
  ascending : (pairs.map (·.1)).IsChain (· < ·)
  whole : ∀ entry ∈ pairs,
    0xC0 ≤ entry.1 ∧ entry.1.isValidChar ∧ Hangul.decompose? entry.1 = none
  single : ∀ entry ∈ singletons, singletonBits.testBit entry.2 = false
  several : ∀ entry ∈ exclusions, 2 ≤ entry.2.length
  hangul : ∀ n ∈ List.range' 0x1100 0x100, singletonBits.testBit n = false

theorem composition_tables : CompositionTables := by
  have checked := composition_checked
  simp only [Bool.and_eq_true, List.all_eq_true, decide_eq_true_eq, Bool.not_eq_true',
    Option.isNone_iff_eq_none, and_assoc] at checked
  obtain ⟨ascending, whole, single, several, hangul⟩ := checked
  exact ⟨ascending, whole, single, several, hangul⟩

theorem undivided_of_decomposedLength {c : Char} (single : decomposedLength c = 1)
    (own : singletonBits.testBit c.toNat = false) : Undivided c := by
  obtain ⟨ofPairs, _⟩ := lengthAt_tables
  have ofExclusions := composition_tables.several
  have lengths := lengthAt_tables.2.2.1
  rcases splitOnce_cases c with alone | letters | ⟨entry, listed, same, _⟩ |
    ⟨entry, listed, same, _⟩ | ⟨entry, listed, same, _⟩
  · exact alone
  · have length := lengthAt_of_decompose? letters
    rw [← decomposedLength, single] at length
    rcases length_of_decompose? letters with two | three <;> omega
  · have sum := ofPairs entry listed
    rw [same, ← decomposedLength, single] at sum
    have first := (lengthAt_bounds entry.2.1).1
    have second := (lengthAt_bounds entry.2.2).1
    omega
  · have known : singletonBits.testBit entry.1 = true :=
      testBit_bitSet.2 (List.mem_map.2 ⟨entry, listed, rfl⟩)
    rw [same, own] at known
    cases known
  · have several := ofExclusions entry listed
    have length := (lengths entry listed).2
    rw [same, ← decomposedLength, single] at length
    omega

theorem undivided_ofNat {n : Nat} (single : lengthAt n = 1)
    (own : singletonBits.testBit n = false) : Undivided (Char.ofNat n) := by
  by_cases valid : n.isValidChar
  · have same : (Char.ofNat n).toNat = n := toNat_ofNat valid
    exact undivided_of_decomposedLength (by rw [decomposedLength, same, single]) (by rwa [same])
  -- Numbers of no character stand for the first one.
  · rw [Char.ofNat, dif_neg valid]
    exact undivided_of_lt (by decide)

theorem undivided_of_splitOnce {c single : Char} (alone : splitOnce c = [single]) :
    Undivided single := by
  have tables := composition_tables
  rcases splitOnce_cases c with same | letters | ⟨_, _, _, parts⟩ | ⟨entry, listed, _, part⟩ |
    ⟨entry, listed, _, parts⟩
  · rw [same] at alone
    cases alone
    exact same
  · rw [alone] at letters
    rcases length_of_decompose? letters with two | three
    · cases two
    · cases three
  · rw [alone] at parts
    cases parts
  · rw [alone] at part
    cases part
    exact undivided_ofNat (lengthAt_tables.2.1 entry listed).2 (tables.single entry listed)
  · have several := tables.several entry listed
    have length := congrArg List.length (alone.symm.trans parts)
    rw [List.length_map, List.length_singleton] at length
    omega

theorem undivided_of_mem_decomposeWithin {fuel : Nat} {c part : Char}
    (enough : decomposedLength c ≤ fuel) (member : part ∈ decomposeWithin fuel c) :
    Undivided part := by
  induction fuel generalizing c with
  | zero =>
    have one := one_le_decomposedLength c
    omega
  | succ fuel ih =>
    rw [decomposeWithin] at member
    split at member
    · next single alone =>
      rw [List.mem_singleton.1 member]
      exact undivided_of_splitOnce alone
    · next several =>
      obtain ⟨other, listed, inside⟩ := List.mem_flatMap.1 member
      have shorter := decomposedLength_lt_of_mem_splitOnce several listed
      exact ih (by omega) inside

theorem undivided_of_mem_decompose {text : List Char} {c : Char} (member : c ∈ decompose text) :
    Undivided c := by
  rw [decompose, (reorderAfter_perm [] _).mem_iff, List.nil_append] at member
  obtain ⟨whole, _, part⟩ := List.mem_flatMap.1 member
  exact undivided_of_mem_decomposeWithin (lengthAt_bounds whole.toNat).2 part

/-! ## What composes -/

theorem decomposeWithin_succ {fuel : Nat} {c : Char} (enough : decomposedLength c ≤ fuel) :
    decomposeWithin (fuel + 1) c = decomposeWithin fuel c := by
  induction fuel generalizing c with
  | zero =>
    have one := one_le_decomposedLength c
    omega
  | succ fuel ih =>
    rw [decomposeWithin, decomposeWithin.eq_def (fuel + 1)]
    dsimp only
    split
    · rfl
    · next several =>
      refine List.flatMap_congr fun part member => ?_
      have shorter := decomposedLength_lt_of_mem_splitOnce several member
      exact ih (by omega)

theorem decomposeWithin_of_several {c : Char} (several : ∀ single, splitOnce c ≠ [single])
    (fuel : Nat) : decomposeWithin (fuel + 1) c = (splitOnce c).flatMap (decomposeWithin fuel) := by
  rw [decomposeWithin]
  split
  · next single alone => exact absurd alone (several single)
  · rfl

theorem flatMap_decomposeWithin {text : List Char} (undivided : ∀ c ∈ text, Undivided c)
    (fuel : Nat) : text.flatMap (decomposeWithin fuel) = text := by
  induction text with
  | nil => rfl
  | cons c rest ih =>
    rw [List.forall_mem_cons] at undivided
    rw [List.flatMap_cons, undivided.1.decomposeWithin, ih undivided.2, List.singleton_append]

section

open Hangul

theorem undivided_hangul {point : Nat} (low : 0x1100 ≤ point) (high : point < 0x1200) :
    Undivided (Char.ofNat point) := by
  have listed : point ∈ List.range' 0x1100 0x100 := List.mem_range'_1.2 ⟨low, by omega⟩
  exact undivided_ofNat (lengthAt_tables.2.2.2.2.1 point (List.mem_append_right _ listed))
    (composition_tables.hangul point listed)

theorem decomposeChar_of_hangul {c : Char} {letters : List Char}
    (taken : decompose? c.toNat = some letters) : decomposeChar c = letters := by
  have several := length_of_decompose? taken
  have split : splitOnce c = letters := by
    have high : ¬c.toNat < 0xC0 := by
      intro low
      have outside : c.toNat < syllableBase := Nat.lt_trans low (by decide)
      rw [decompose?, decide_eq_true outside, Bool.true_or, if_pos rfl] at taken
      cases taken
    rw [splitOnce, if_neg high, taken]
  have undivided : ∀ letter ∈ letters, Undivided letter := by
    intro letter member
    obtain ⟨point, low, high, rfl⟩ := exists_of_mem_decompose? taken member
    exact undivided_hangul low high
  rw [decomposeChar, deepestPair, decomposeWithin_of_several, split,
    flatMap_decomposeWithin undivided]
  intro single alone
  rw [split] at alone
  rw [alone] at several
  simp at several

theorem decompose?_syllable {index : Nat} (inside : index < leadCount * vowelCount * tailCount) :
    decompose? (syllableBase + index) =
      some (Char.ofNat (leadBase + index / (vowelCount * tailCount)) ::
        Char.ofNat (vowelBase + index % (vowelCount * tailCount) / tailCount) ::
        if index % tailCount = 0 then [] else [Char.ofNat (tailBase + index % tailCount)]) := by
  have known : (syllableBase + index < syllableBase ||
      leadCount * vowelCount * tailCount ≤ syllableBase + index - syllableBase) = false := by
    simp only [Bool.or_eq_false_iff, decide_eq_false_iff_not]
    omega
  rw [decompose?]
  dsimp only
  rw [known, if_neg Bool.false_ne_true, Nat.add_sub_cancel_left]

theorem toNat_syllable {index : Nat} (inside : index < leadCount * vowelCount * tailCount) :
    (Char.ofNat (syllableBase + index)).toNat = syllableBase + index := by
  refine toNat_ofNat (.inl ?_)
  simp only [syllableBase, leadCount, vowelCount, tailCount] at *
  omega

theorem decomposeChar_of_compose? {a b whole : Char}
    (made : compose? a.toNat b.toNat = some whole) :
    decomposeChar whole = decomposeChar a ++ [b] := by
  unfold compose? at made
  split at made
  -- A leading consonant and a vowel.
  · next inside =>
    simp only [Bool.and_eq_true, decide_eq_true_eq] at inside
    obtain ⟨⟨⟨leadLow, leadHigh⟩, vowelLow⟩, vowelHigh⟩ := inside
    have bound : ((a.toNat - leadBase) * vowelCount + (b.toNat - vowelBase)) * tailCount <
        leadCount * vowelCount * tailCount := by
      simp only [leadBase, leadCount, vowelBase, vowelCount, tailCount] at *
      omega
    have first : Undivided a := by
      simp only [leadBase, leadCount] at leadLow leadHigh
      have known := undivided_hangul leadLow (by omega)
      rwa [Char.ofNat_toNat] at known
    rw [← Option.some.inj made, first.decomposeChar]
    refine (decomposeChar_of_hangul
      (by rw [toNat_syllable bound, decompose?_syllable bound])).trans ?_
    have lead : leadBase + ((a.toNat - leadBase) * vowelCount + (b.toNat - vowelBase)) * tailCount /
        (vowelCount * tailCount) = a.toNat := by
      simp only [leadBase, leadCount, vowelBase, vowelCount, tailCount] at *
      omega
    have vowel : vowelBase + ((a.toNat - leadBase) * vowelCount + (b.toNat - vowelBase)) * tailCount %
        (vowelCount * tailCount) / tailCount = b.toNat := by
      simp only [leadBase, leadCount, vowelBase, vowelCount, tailCount] at *
      omega
    rw [lead, vowel, if_pos (Nat.mul_mod_left _ _), Char.ofNat_toNat, Char.ofNat_toNat]
    rfl
  · split at made
    -- A block of these two, and a closing consonant.
    · next inside =>
      simp only [Bool.and_eq_true, decide_eq_true_eq, beq_iff_eq] at inside
      obtain ⟨⟨⟨⟨low, high⟩, opened⟩, above⟩, below⟩ := inside
      obtain ⟨index, same⟩ := Nat.exists_eq_add_of_le low
      rw [same] at high opened made
      rw [Nat.add_sub_cancel_left] at opened
      have inside : index < leadCount * vowelCount * tailCount := by omega
      have closed : index + (b.toNat - tailBase) < leadCount * vowelCount * tailCount := by
        simp only [leadCount, vowelCount, tailCount] at *
        omega
      have first : decomposeChar a = _ :=
        decomposeChar_of_hangul (by rw [same, decompose?_syllable inside])
      rw [Nat.add_assoc] at made
      rw [← Option.some.inj made, first]
      refine (decomposeChar_of_hangul
        (by rw [toNat_syllable closed, decompose?_syllable closed])).trans ?_
      have lead : (index + (b.toNat - tailBase)) / (vowelCount * tailCount) =
          index / (vowelCount * tailCount) := by
        simp only [vowelCount, tailCount] at *
        omega
      have vowel : (index + (b.toNat - tailBase)) % (vowelCount * tailCount) / tailCount =
          index % (vowelCount * tailCount) / tailCount := by
        simp only [vowelCount, tailCount] at *
        omega
      have tail : (index + (b.toNat - tailBase)) % tailCount = b.toNat - tailBase := by
        simp only [tailCount] at *
        omega
      have nonzero : b.toNat - tailBase ≠ 0 := by omega
      have point : tailBase + (b.toNat - tailBase) = b.toNat := by omega
      rw [lead, vowel, tail, if_neg nonzero, point, Char.ofNat_toNat, if_pos opened]
      rfl
    · cases made

end

theorem find?_of_mem {α : Type} {key : α → Nat} {entries : List α}
    (ascending : (entries.map key).IsChain (· < ·)) {entry : α} (member : entry ∈ entries) :
    entries.find? (key · == key entry) = some entry := by
  have ordered := List.pairwise_map.1 ascending.pairwise
  clear ascending
  induction entries with
  | nil => cases member
  | cons first rest ih =>
    rw [List.pairwise_cons] at ordered
    rcases List.mem_cons.1 member with rfl | later
    · rw [List.find?_cons_of_pos (by simp)]
    · have below := ordered.1 entry later
      rw [List.find?_cons_of_neg (by simp; omega), ih later ordered.2]

/-- What is composed decomposes into the parts of the first, and the second. -/
theorem decomposeChar_of_composePair? {a b whole : Char}
    (made : composePair? a b = some whole) (second : Undivided b) :
    decomposeChar whole = decomposeChar a ++ [b] := by
  rw [composePair?] at made
  split at made
  · cases made
  · split at made
    · next block =>
      cases made
      exact decomposeChar_of_compose? block
    · obtain ⟨entry, found, rfl⟩ := Option.map_eq_some_iff.1 made
      have listed := List.mem_of_find?_eq_some found
      have parts := List.find?_some found
      simp only [Bool.and_eq_true, beq_iff_eq] at parts
      obtain ⟨high, valid, block⟩ := composition_tables.whole entry listed
      have split : splitOnce (Char.ofNat entry.1) = [a, b] := by
        rw [splitOnce, toNat_ofNat valid, if_neg (Nat.not_lt_of_le high), block,
          find?_of_mem composition_tables.ascending listed]
        change [Char.ofNat entry.2.1, Char.ofNat entry.2.2] = [a, b]
        rw [parts.1, parts.2, Char.ofNat_toNat, Char.ofNat_toNat]
      have short : decomposedLength a ≤ 3 := by
        have sum := lengthAt_tables.1 entry listed
        have most := (lengthAt_bounds entry.1).2
        have one := one_le_decomposedLength b
        rw [parts.1, parts.2] at sum
        simp only [decomposedLength] at one ⊢
        omega
      rw [decomposeChar, deepestPair, decomposeWithin_of_several (by simp [split]), split]
      rw [List.flatMap_cons, List.flatMap_singleton, second.decomposeWithin, decomposeChar,
        deepestPair, decomposeWithin_succ short]

/-! ## Decomposing what was composed -/

theorem flatMap_decomposeChar {text : List Char} (undivided : ∀ c ∈ text, Undivided c) :
    text.flatMap decomposeChar = text :=
  flatMap_decomposeWithin undivided deepestPair

/-- A mark that is not blocked stands behind marks of lower classes alone. -/
theorem lt_of_not_blocked {c : Char} {marks rest : List Char}
    (ordered : Ordered (marks.reverse ++ c :: rest))
    (marked : ∀ mark ∈ marks, combiningClass mark ≠ 0)
    (free : ∀ mark ∈ marks.head?, combiningClass mark < combiningClass c) :
    ∀ mark ∈ marks, combiningClass mark < combiningClass c := by
  cases marks with
  | nil => simp
  | cons last others =>
    rw [List.forall_mem_cons] at marked
    have above : combiningClass last < combiningClass c := free last rfl
    rw [List.reverse_cons, List.append_assoc, List.singleton_append] at ordered
    refine List.forall_mem_cons.2 ⟨above, fun mark member => Nat.lt_of_le_of_lt ?_ above⟩
    exact ordered.le_of_mem (fun other old => marked.2 other (List.mem_reverse.1 old)) marked.1
      mark (List.mem_reverse.2 member)

theorem Ordered.without {before rest : List Char} {c : Char}
    (ordered : Ordered (before ++ c :: rest))
    (below : ∀ mark ∈ before, combiningClass mark < combiningClass c) :
    Ordered (before ++ rest) := by
  obtain ⟨first, later, _⟩ := List.isChain_append.1 ordered
  refine List.isChain_append.2 ⟨first, later.of_cons, fun last listed next head => ?_⟩
  cases rest with
  | nil => cases head
  | cons other rest =>
    cases head
    have less := below last (List.mem_of_getLast? listed)
    rcases (List.isChain_cons_cons.1 later).1 with starts | above
    · exact .inl starts
    · exact .inr (Nat.le_of_lt (Nat.lt_of_lt_of_le less above))

theorem exchanges_composeAfter (starter : Option Char) (marks text : List Char)
    (whole : ∀ mark ∈ marks, Undivided mark) (undivided : ∀ c ∈ text, Undivided c)
    (marked : ∀ mark ∈ marks, combiningClass mark ≠ 0)
    (ordered : Ordered (marks.reverse ++ text)) :
    Exchanges ((composeAfter starter marks text).flatMap decomposeChar)
      (starter.toList.flatMap decomposeChar ++ (marks.reverse ++ text)) := by
  have kept : marks.reverse.flatMap decomposeChar = marks.reverse :=
    flatMap_decomposeChar fun mark member => whole mark (List.mem_reverse.1 member)
  fun_induction composeAfter starter marks text with
  | case1 starter marks =>
    rw [List.append_nil, List.flatMap_append, kept]
    exact .refl _
  | case2 starter marks c rest blocked made composed ih =>
    rw [List.forall_mem_cons] at undivided
    split at composed
    · cases composed
    · next free =>
      obtain ⟨first, rfl, pair⟩ := Option.bind_eq_some_iff.1 composed
      have below : ∀ mark ∈ marks, combiningClass mark < combiningClass c := by
        refine lt_of_not_blocked ordered marked fun mark head => ?_
        cases marks with
        | nil => cases head
        | cons last others =>
          cases head
          simpa [blocked] using free
      have parts := decomposeChar_of_composePair? pair undivided.1
      have later := ih whole undivided.2 marked
        (ordered.without fun mark member => below mark (List.mem_reverse.1 member)) kept
      simp only [Option.toList_some, List.flatMap_singleton, parts, List.append_assoc,
        List.singleton_append] at later ⊢
      -- The composed mark is taken back past the marks that it stood behind.
      refine later.trans (Exchanges.append_left _ ?_)
      have past : Exchanges (c :: marks.reverse) (marks.reverse ++ [c]) := by
        cases marks with
        | nil => exact .refl _
        | cons last others =>
          have above := below last List.mem_cons_self
          refine (Exchanges.past (by omega) fun mark member => ?_).symm
          have less := below mark (List.mem_reverse.1 member)
          exact ⟨marked mark (List.mem_reverse.1 member), Nat.ne_of_lt less⟩
      simpa using past.append_right rest
  | case3 starter marks c rest blocked alone starts ih =>
    rw [List.forall_mem_cons] at undivided
    have tail : Ordered rest := (List.isChain_append.1 ordered).2.1.of_cons
    have later := ih (by simp) undivided.2 (by simp) tail rfl
    rw [List.append_assoc, List.flatMap_append, List.flatMap_append, kept]
    simp only [Option.toList_some, List.flatMap_singleton, undivided.1.decomposeChar,
      List.reverse_nil, List.nil_append, List.singleton_append] at later
    exact (later.append_left _).append_left _
  | case4 starter marks c rest blocked alone mark ih =>
    rw [List.forall_mem_cons] at undivided
    have more : ∀ mark ∈ c :: marks, Undivided mark :=
      List.forall_mem_cons.2 ⟨undivided.1, whole⟩
    have later := ih more undivided.2 (List.forall_mem_cons.2 ⟨mark, marked⟩)
      (by simpa using ordered)
      (flatMap_decomposeChar fun other member => more other (List.mem_reverse.1 member))
    simpa using later

/-- Composing a text does not change what it decomposes into. -/
theorem decompose_compose (text : List Char) : decompose (compose text) = decompose text := by
  have ordered : Ordered (decompose text) := ordered_reorderAfter _ .nil
  have exchanges := exchanges_composeAfter none [] (decompose text) (by simp)
    (fun _ => undivided_of_mem_decompose) (by simp) ordered
  rw [decompose, compose, reorderAfter_of_exchanges exchanges]
  exact reorderAfter_of_ordered ordered (by simp)

theorem compose_of_decompose {first second : List Char}
    (same : decompose first = decompose second) : compose first = compose second := by
  rw [compose, compose, same]

/-- Texts are composed alike exactly if they hold the same characters once these are decomposed, but
for the order of neighbouring marks of different classes. -/
theorem compose_eq_iff {first second : List Char} : compose first = compose second ↔
    Exchanges (first.flatMap decomposeChar) (second.flatMap decomposeChar) := by
  constructor
  · intro same
    have decomposed : decompose first = decompose second := by
      rw [← decompose_compose first, same, decompose_compose]
    have ordered (text : List Char) : Exchanges (text.flatMap decomposeChar) (decompose text) :=
      exchanges_reorderAfter _ .nil
    exact (ordered first).trans (decomposed ▸ (ordered second).symm)
  · intro exchanges
    refine compose_of_decompose ?_
    rw [decompose, decompose, reorderAfter_of_exchanges exchanges]

theorem compose_compose (text : List Char) : compose (compose text) = compose text :=
  compose_of_decompose (decompose_compose text)

end Homophone.Unicode
