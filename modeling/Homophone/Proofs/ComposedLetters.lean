import Homophone.Proofs.ComposedParts
import Homophone.Proofs.LetterCase

/-! Composing letters.

Letters that have a capital or a small form decompose into such a letter and marks. Nothing composes
with them that stands in front of them, and they and what they compose to compose with marks alone.
So such a letter and the marks that follow it are composed apart from the rest of a text.

A set of characters that no entry of the tables leads into is not entered when a text is composed.
-/

set_option autoImplicit false

namespace Homophone.Unicode

/-! ## Marks -/

def markBits : Nat := Ranges.mask (combiningClasses.map fun run => (run.1, run.2.1))

theorem lt_of_ascending {α : Type} {first last : α → Nat} {run : α} {rest : List α}
    (ascending : (run :: rest).IsChain fun run other => last run < first other)
    (proper : ∀ other ∈ rest, first other ≤ last other) :
    ∀ other ∈ rest, last run < first other := by
  induction rest generalizing run with
  | nil => simp
  | cons next rest ih =>
    rw [List.forall_mem_cons] at proper
    obtain ⟨least, later⟩ := List.isChain_cons_cons.1 ascending
    refine List.forall_mem_cons.2 ⟨least, fun other member => ?_⟩
    exact Nat.lt_of_lt_of_le (Nat.lt_of_lt_of_le least proper.1)
      (Nat.le_of_lt (ih later proper.2 other member))

theorem classIn_ne_zero_iff {runs : List (Nat × Nat × Nat)}
    (ascending : runs.IsChain fun run other => run.2.1 < other.1)
    (proper : ∀ run ∈ runs, run.1 ≤ run.2.1 ∧ run.2.2 ≠ 0) {n : Nat} :
    classIn n runs ≠ 0 ↔ ∃ run ∈ runs, run.1 ≤ n ∧ n ≤ run.2.1 := by
  induction runs with
  | nil => simp [classIn]
  | cons run rest ih =>
    rw [List.forall_mem_cons] at proper
    have later := ih ascending.of_cons proper.2
    have beyond := lt_of_ascending ascending fun other member => (proper.2 other member).1
    rw [classIn, List.exists_mem_cons_iff, ← later]
    split
    -- Runs further on begin beyond this one.
    · next below =>
      constructor
      · exact fun zero => (zero rfl).elim
      · rintro (⟨first, _⟩ | found)
        · omega
        · obtain ⟨other, member, first, _⟩ := later.1 found
          have above := beyond other member
          omega
    · next first =>
      split
      · next last => exact iff_of_true proper.1.2 (.inl ⟨by omega, last⟩)
      · next last => exact (or_iff_right fun inside => last inside.2).symm

/-! ## Tables -/

def letterPoints : List Nat :=
  capitalPoints ++
    (lowerCaseRuns.flatMap fun run => run.steps.map fun k => k * run.step + run.target) ++
      ['İ', 'i', 'σ', 'ς'].map Char.toNat

def letterBits : Nat := bitSet letterPoints

/-- The numbers in pairs whose second part is a starter. -/
def openBits : Nat :=
  bitSet ((pairs.filter fun entry => !markBits.testBit entry.2.2).map (·.2.1))

def isOutsideHangul (n : Nat) : Bool :=
  n < 0x1100 || 0x1200 ≤ n && n < 0xAC00 || 0xD7A4 ≤ n

theorem letters_checked :
    ((letterPoints.all fun n => decide n.isValidChar && isOutsideHangul n) &&
    (letterPoints.all fun n => !markBits.testBit n && !openBits.testBit n) &&
    (pairs.all fun entry => !markBits.testBit entry.1 && isOutsideHangul entry.1) &&
    (pairs.all fun entry => lengthAt entry.2.2 == 1 && !singletonBits.testBit entry.2.2 &&
      !letterBits.testBit entry.2.2) &&
    (pairs.all fun entry =>
      decide (letterBits.testBit entry.1 = true → letterBits.testBit entry.2.1 = true)) &&
    (pairs.all fun entry =>
      decide (openBits.testBit entry.1 = true → openBits.testBit entry.2.1 = true)) &&
    (singletons.all fun entry =>
      decide (letterBits.testBit entry.1 = true → letterBits.testBit entry.2 = true)) &&
    (exclusions.all fun entry => decide (letterBits.testBit entry.1 = true →
      (∀ part ∈ entry.2.head?, letterBits.testBit part = true) ∧
        ∀ part ∈ entry.2.tail, markBits.testBit part = true)) &&
    (exclusions.all fun entry => entry.2.all fun part => !singletonBits.testBit part) &&
    decide (combiningClasses.IsChain fun run other => run.2.1 < other.1) &&
    (combiningClasses.all fun run => decide (run.1 ≤ run.2.1) && run.2.2 != 0) &&
    combiningClasses.all fun run =>
      decide (run.2.1 < 0xAC00 ∨ 0xE000 ≤ run.1 ∧ run.2.1 < 0x110000)) = true := by
  decide +kernel

structure LetterTables : Prop where
  valid : ∀ n ∈ letterPoints, n.isValidChar ∧ isOutsideHangul n = true
  closed : ∀ n ∈ letterPoints, markBits.testBit n = false ∧ openBits.testBit n = false
  whole : ∀ entry ∈ pairs, markBits.testBit entry.1 = false ∧ isOutsideHangul entry.1 = true
  second : ∀ entry ∈ pairs, lengthAt entry.2.2 = 1 ∧ singletonBits.testBit entry.2.2 = false ∧
    letterBits.testBit entry.2.2 = false
  letter : ∀ entry ∈ pairs, letterBits.testBit entry.1 = true → letterBits.testBit entry.2.1 = true
  opened : ∀ entry ∈ pairs, openBits.testBit entry.1 = true → openBits.testBit entry.2.1 = true
  single : ∀ entry ∈ singletons, letterBits.testBit entry.1 = true → letterBits.testBit entry.2 = true
  excluded : ∀ entry ∈ exclusions, letterBits.testBit entry.1 = true →
    (∀ part ∈ entry.2.head?, letterBits.testBit part = true) ∧
      ∀ part ∈ entry.2.tail, markBits.testBit part = true
  undivided : ∀ entry ∈ exclusions, ∀ part ∈ entry.2, singletonBits.testBit part = false
  ascending : combiningClasses.IsChain fun run other => run.2.1 < other.1
  proper : ∀ run ∈ combiningClasses, run.1 ≤ run.2.1 ∧ run.2.2 ≠ 0
  apart : ∀ run ∈ combiningClasses, run.2.1 < 0xAC00 ∨ 0xE000 ≤ run.1 ∧ run.2.1 < 0x110000

theorem letter_tables : LetterTables := by
  have checked := letters_checked
  simp only [Bool.and_eq_true, List.all_eq_true, decide_eq_true_eq, beq_iff_eq, bne_iff_ne,
    Bool.not_eq_true', and_assoc] at checked
  obtain ⟨valid, closed, whole, second, letter, opened, single, excluded, undivided, ascending,
    proper, apart⟩ := checked
  exact ⟨valid, closed, whole, second, letter, opened, single, excluded, undivided, ascending,
    proper, apart⟩

theorem exists_run_of_mark {n : Nat} (mark : markBits.testBit n = true) :
    ∃ run ∈ combiningClasses, run.1 ≤ n ∧ n ≤ run.2.1 := by
  obtain ⟨range, listed, inside⟩ := Ranges.testBit_mask.1 mark
  obtain ⟨run, member, rfl⟩ := List.mem_map.1 listed
  exact ⟨run, member, inside⟩

theorem combiningClass_ne_zero_iff {c : Char} :
    combiningClass c ≠ 0 ↔ markBits.testBit c.toNat = true := by
  rw [combiningClass, classIn_ne_zero_iff letter_tables.ascending letter_tables.proper]
  refine ⟨fun ⟨run, member, inside⟩ => ?_, exists_run_of_mark⟩
  exact Ranges.testBit_mask.2 ⟨_, List.mem_map.2 ⟨run, member, rfl⟩, inside⟩

theorem combiningClass_eq_zero {c : Char} (unmarked : markBits.testBit c.toNat = false) :
    combiningClass c = 0 := by
  by_contra combines
  rw [combiningClass_ne_zero_iff.1 combines] at unmarked
  cases unmarked

theorem combiningClass_ofNat_ne_zero {n : Nat} (mark : markBits.testBit n = true) :
    combiningClass (Char.ofNat n) ≠ 0 := by
  obtain ⟨run, listed, first, last⟩ := exists_run_of_mark mark
  have valid : n.isValidChar := by
    rcases letter_tables.apart run listed with low | ⟨high, most⟩
    · exact .inl (by omega)
    · exact .inr ⟨by omega, by omega⟩
  rwa [combiningClass_ne_zero_iff, toNat_ofNat valid]

/-! ## Letters -/

/-- A letter that has a capital or a small form. -/
def IsLetter (c : Char) : Prop := letterBits.testBit c.toNat = true

theorem IsLetter.mem {c : Char} (letter : IsLetter c) : c.toNat ∈ letterPoints :=
  testBit_bitSet.1 letter

theorem IsLetter.combiningClass_eq {c : Char} (letter : IsLetter c) : combiningClass c = 0 :=
  combiningClass_eq_zero (letter_tables.closed _ letter.mem).1

theorem isLetter_ofNat {n : Nat} (listed : letterBits.testBit n = true) :
    IsLetter (Char.ofNat n) := by
  have valid := (letter_tables.valid n (testBit_bitSet.1 listed)).1
  rwa [IsLetter, toNat_ofNat valid]

theorem decompose?_of_isOutsideHangul {n : Nat} (outside : isOutsideHangul n = true) :
    Hangul.decompose? n = none := by
  simp only [isOutsideHangul, Bool.or_eq_true, Bool.and_eq_true, decide_eq_true_eq] at outside
  have known : (n < Hangul.syllableBase || Hangul.leadCount * Hangul.vowelCount * Hangul.tailCount ≤
      n - Hangul.syllableBase) = true := by
    simp only [Bool.or_eq_true, decide_eq_true_eq]
    simp only [Hangul.syllableBase, Hangul.leadCount, Hangul.vowelCount, Hangul.tailCount]
    omega
  rw [Hangul.decompose?]
  dsimp only
  rw [known, if_pos rfl]

theorem compose?_of_isOutsideHangul {a b : Nat}
    (outside : isOutsideHangul a = true ∨ isOutsideHangul b = true) :
    Hangul.compose? a b = none := by
  simp only [isOutsideHangul, Bool.or_eq_true, Bool.and_eq_true, decide_eq_true_eq] at outside
  unfold Hangul.compose?
  rw [if_neg, if_neg] <;> simp only [Bool.and_eq_true, decide_eq_true_eq] <;>
    simp only [Hangul.leadBase, Hangul.leadCount, Hangul.vowelBase, Hangul.vowelCount,
      Hangul.syllableBase, Hangul.tailBase, Hangul.tailCount] <;>
    omega

theorem mark_of_pair {entry : Nat × Nat × Nat} (listed : entry ∈ pairs)
    (closed : openBits.testBit entry.2.1 = false) : markBits.testBit entry.2.2 = true := by
  by_contra unmarked
  have opened : openBits.testBit entry.2.1 = true :=
    testBit_bitSet.2
      (List.mem_map.2 ⟨entry, List.mem_filter.2 ⟨listed, by simpa using unmarked⟩, rfl⟩)
  rw [closed] at opened
  cases opened

theorem IsLetter.exists_decomposeWithin {c : Char} (letter : IsLetter c) (fuel : Nat) :
    ∃ first marks, decomposeWithin fuel c = first :: marks ∧ IsLetter first ∧
      ∀ mark ∈ marks, combiningClass mark ≠ 0 := by
  have tables := letter_tables
  induction fuel generalizing c with
  | zero => exact ⟨c, [], rfl, letter, by simp⟩
  | succ fuel ih =>
    rcases splitOnce_cases c with alone | block | ⟨entry, listed, same, parts⟩ |
      ⟨entry, listed, same, part⟩ | ⟨entry, listed, same, parts⟩
    · exact ⟨c, [], Undivided.decomposeWithin alone _, letter, by simp⟩
    · rw [decompose?_of_isOutsideHangul (tables.valid _ letter.mem).2] at block
      cases block
    · obtain ⟨length, own, _⟩ := tables.second entry listed
      have first := tables.letter entry listed (same ▸ letter)
      have mark := mark_of_pair listed (tables.closed _ (testBit_bitSet.1 first)).2
      obtain ⟨base, marks, inner, isLetter, marked⟩ := ih (isLetter_ofNat first)
      refine ⟨base, marks ++ [Char.ofNat entry.2.2], ?_, isLetter, ?_⟩
      · rw [decomposeWithin_of_several (by simp [parts]), parts, List.flatMap_cons,
          List.flatMap_singleton, inner, (undivided_ofNat length own).decomposeWithin,
          List.cons_append]
      · refine List.forall_mem_append.2 ⟨marked, ?_⟩
        simpa using combiningClass_ofNat_ne_zero mark
    · have first := tables.single entry listed (same ▸ letter)
      exact ⟨Char.ofNat entry.2, [], by rw [decomposeWithin, part], isLetter_ofNat first, by simp⟩
    · obtain ⟨head, tail⟩ := tables.excluded entry listed (same ▸ letter)
      have several := composition_tables.several entry listed
      have undivided : ∀ part ∈ entry.2.map Char.ofNat, Undivided part :=
        List.forall_mem_map.2 fun part member =>
          undivided_ofNat ((lengthAt_tables.2.2.1 entry listed).1 part member)
            (tables.undivided entry listed part member)
      obtain ⟨first, others, list⟩ := List.exists_cons_of_ne_nil
        (List.length_pos_iff.1 (Nat.lt_of_lt_of_le Nat.zero_lt_two several))
      rw [list] at head tail several parts undivided
      refine ⟨Char.ofNat first, others.map Char.ofNat, ?_, isLetter_ofNat (head first rfl),
        List.forall_mem_map.2 fun part member => combiningClass_ofNat_ne_zero (tail part member)⟩
      rw [decomposeWithin_of_several, parts, flatMap_decomposeWithin undivided, List.map_cons]
      intro alone
      rw [parts]
      intro same
      have length := congrArg List.length same
      rw [List.length_map, List.length_singleton] at length
      omega

/-! ## What composes with letters -/

theorem IsLetter.composePair?_eq_none {c : Char} (letter : IsLetter c) (a : Char) :
    composePair? a c = none := by
  rw [composePair?, compose?_of_isOutsideHangul (.inr (letter_tables.valid _ letter.mem).2)]
  split
  · rfl
  · rw [Option.map_eq_none_iff, List.find?_eq_none]
    intro entry listed same
    simp only [Bool.and_eq_true, beq_iff_eq] at same
    have other := (letter_tables.second entry listed).2.2
    rw [same.2, letter] at other
    cases other

/-- A character that composes with marks alone. -/
structure TakesMarks (c : Char) : Prop where
  closed : openBits.testBit c.toNat = false
  outside : isOutsideHangul c.toNat = true

theorem IsLetter.takesMarks {c : Char} (letter : IsLetter c) : TakesMarks c :=
  ⟨(letter_tables.closed _ letter.mem).2, (letter_tables.valid _ letter.mem).2⟩

theorem TakesMarks.of_composePair? {a b whole : Char} (takes : TakesMarks a)
    (made : composePair? a b = some whole) : TakesMarks whole ∧ combiningClass b ≠ 0 := by
  rw [composePair?, compose?_of_isOutsideHangul (.inl takes.outside)] at made
  split at made
  · cases made
  · obtain ⟨entry, found, rfl⟩ := Option.map_eq_some_iff.1 made
    have listed := List.mem_of_find?_eq_some found
    have parts := List.find?_some found
    simp only [Bool.and_eq_true, beq_iff_eq] at parts
    have closed : openBits.testBit entry.2.1 = false := parts.1 ▸ takes.closed
    have point : (Char.ofNat entry.1).toNat = entry.1 :=
      toNat_ofNat (composition_tables.whole entry listed).2.1
    refine ⟨⟨?_, by rw [point]; exact (letter_tables.whole entry listed).2⟩, ?_⟩
    · rw [point, Bool.eq_false_iff]
      intro opens
      rw [letter_tables.opened entry listed opens] at closed
      cases closed
    · rw [combiningClass_ne_zero_iff, ← parts.2]
      exact mark_of_pair listed closed

theorem compose_append_letter {c : Char} (letter : IsLetter c) (text rest : List Char) :
    compose (text ++ c :: rest) = compose text ++ compose (c :: rest) := by
  obtain ⟨first, marks, parts, other, _⟩ := letter.exists_decomposeWithin deepestPair
  exact compose_append_cons (fun _ => True) (fun _ _ _ _ _ => trivial) ⟨marks, parts⟩
    other.combiningClass_eq (fun a _ => other.composePair?_eq_none a) (fun _ _ _ => trivial) rest

/-- A letter is composed with the marks that follow it, apart from what comes then. -/
theorem compose_letter_append {c : Char} (letter : IsLetter c) {marks rest : List Char}
    (marked : ∀ mark ∈ marks, combiningClass mark ≠ 0 ∧ Undivided mark)
    (starts : ∀ next ∈ rest.head?, ∀ first, Begins next first → combiningClass first = 0) :
    compose (c :: marks ++ rest) = compose (c :: marks) ++ compose rest := by
  obtain ⟨base, others, parts, isLetter, combine⟩ := letter.exists_decomposeWithin deepestPair
  cases rest with
  | nil => simp [compose, decompose, reorderAfter, composeAfter]
  | cons next rest =>
    obtain ⟨first, begins⟩ := exists_begins next
    have zero := starts next rfl first begins
    refine compose_append_cons TakesMarks
      (fun a b whole takes made => (takes.of_composePair? made).1) begins zero ?_ ?_ rest
    · intro a takes
      rw [Option.eq_none_iff_forall_ne_some]
      exact fun whole made => (takes.of_composePair? made).2 zero
    · intro a member unmarked
      rw [decompose, (reorderAfter_perm [] _).mem_iff, List.nil_append, List.flatMap_cons,
        flatMap_decomposeChar fun mark listed => (marked mark listed).2,
        show decomposeChar c = base :: others from parts] at member
      rcases List.mem_append.1 member with inner | mark
      · rcases List.mem_cons.1 inner with rfl | other
        · exact isLetter.takesMarks
        · exact absurd unmarked (combine a other)
      · exact absurd unmarked (marked a mark).1

/-! ## Characters of composed texts -/

/-- What composed texts hold: marks that are not decomposed, and starters that begin with one. -/
structure Settled (c : Char) : Prop where
  undivided : combiningClass c ≠ 0 → Undivided c
  starts : combiningClass c = 0 → ∀ first, Begins c first → combiningClass first = 0

theorem Undivided.settled {c : Char} (undivided : Undivided c) : Settled c where
  undivided _ := undivided
  starts unmarked first := by
    rintro ⟨others, parts⟩
    rw [undivided.decomposeChar] at parts
    cases parts
    exact unmarked

section

open Hangul

theorem exists_syllable_of_compose? {a b : Nat} {whole : Char} (made : compose? a b = some whole) :
    ∃ index < leadCount * vowelCount * tailCount, whole = Char.ofNat (syllableBase + index) := by
  unfold compose? at made
  split at made
  · next inside =>
    simp only [Bool.and_eq_true, decide_eq_true_eq] at inside
    refine ⟨_, ?_, (Option.some.inj made).symm⟩
    simp only [leadBase, leadCount, vowelBase, vowelCount, tailCount] at *
    omega
  · split at made
    · next inside =>
      simp only [Bool.and_eq_true, decide_eq_true_eq, beq_iff_eq] at inside
      obtain ⟨⟨⟨⟨low, high⟩, opened⟩, above⟩, below⟩ := inside
      refine ⟨a + (b - tailBase) - syllableBase, ?_, ?_⟩
      · simp only [syllableBase, leadCount, vowelCount, tailCount, tailBase] at *
        omega
      · rw [Nat.add_sub_cancel' (Nat.le_trans low (Nat.le_add_right _ _))]
        exact (Option.some.inj made).symm
    · cases made

theorem combiningClass_syllable {index : Nat}
    (inside : index < leadCount * vowelCount * tailCount) :
    combiningClass (Char.ofNat (syllableBase + index)) = 0 := by
  apply combiningClass_eq_zero
  rw [toNat_syllable inside, Bool.eq_false_iff]
  intro mark
  obtain ⟨run, listed, first, last⟩ := exists_run_of_mark mark
  have apart := letter_tables.apart run listed
  simp only [syllableBase, leadCount, vowelCount, tailCount] at *
  omega

end

theorem combiningClass_of_composePair? {a b whole : Char}
    (made : composePair? a b = some whole) : combiningClass whole = 0 := by
  rw [composePair?] at made
  split at made
  · cases made
  · split at made
    · next block =>
      cases made
      obtain ⟨index, inside, rfl⟩ := exists_syllable_of_compose? block
      exact combiningClass_syllable inside
    · obtain ⟨entry, found, rfl⟩ := Option.map_eq_some_iff.1 made
      have listed := List.mem_of_find?_eq_some found
      apply combiningClass_eq_zero
      rw [toNat_ofNat (composition_tables.whole entry listed).2.1]
      exact (letter_tables.whole entry listed).1

theorem begins_of_composePair? {a b whole first : Char} (made : composePair? a b = some whole)
    (second : Undivided b) (begins : Begins whole first) : Begins a first := by
  obtain ⟨others, parts⟩ := begins
  obtain ⟨base, more, inner⟩ := exists_begins a
  rw [decomposeChar_of_composePair? made second, inner, List.cons_append] at parts
  cases parts
  exact ⟨more, inner⟩

theorem forall_mem_decompose {holds : Char → Prop}
    (once : ∀ c, holds c → ∀ part ∈ splitOnce c, holds part) {text : List Char}
    (each : ∀ c ∈ text, holds c) : ∀ c ∈ decompose text, holds c := by
  have within (fuel : Nat) {c : Char} (whole : holds c) :
      ∀ part ∈ decomposeWithin fuel c, holds part := by
    induction fuel generalizing c with
    | zero => simpa [decomposeWithin] using whole
    | succ fuel ih =>
      have parts := once c whole
      rw [decomposeWithin]
      split
      · next single alone => rwa [alone] at parts
      · exact List.forall_mem_flatMap.2 fun part listed => ih (parts part listed)
  intro c member
  rw [decompose, (reorderAfter_perm [] _).mem_iff, List.nil_append] at member
  obtain ⟨whole, listed, inside⟩ := List.mem_flatMap.1 member
  exact within deepestPair (each whole listed) c inside

/-- What the characters to be composed have in common, and keep when one is composed with them, the
composed ones have as well. -/
theorem forall_mem_composeAfter {holds : Char → Prop} {starter : Option Char}
    {marks text : List Char}
    (closed : ∀ a b whole, combiningClass a = 0 → holds a → b ∈ text →
      composePair? a b = some whole → holds whole)
    (first : ∀ a ∈ starter, combiningClass a = 0 ∧ holds a) (marked : ∀ mark ∈ marks, holds mark)
    (each : ∀ c ∈ text, holds c) : ∀ c ∈ composeAfter starter marks text, holds c := by
  induction text generalizing starter marks with
  | nil =>
    rw [composeAfter]
    exact List.forall_mem_append.2
      ⟨fun c head => (first c (Option.mem_toList.1 head)).2, by simpa using marked⟩
  | cons next rest ih =>
    rw [List.forall_mem_cons] at each
    have later : ∀ a b whole, combiningClass a = 0 → holds a → b ∈ rest →
        composePair? a b = some whole → holds whole := fun a b whole starts known listed =>
      closed a b whole starts known (List.mem_cons_of_mem next listed)
    cases joins : joined? starter marks next with
    | some whole =>
      obtain ⟨a, given, pair⟩ := exists_of_joined? joins
      obtain ⟨starts, known⟩ := first a given
      rw [composeAfter_of_some joins]
      refine ih later (fun other same => ?_) marked each.2
      cases same
      exact ⟨combiningClass_of_composePair? pair,
        closed a next whole starts known List.mem_cons_self pair⟩
    | none =>
      by_cases starts : combiningClass next = 0
      · rw [composeAfter_of_starter joins starts]
        refine List.forall_mem_append.2 ⟨List.forall_mem_append.2
          ⟨fun c head => (first c (Option.mem_toList.1 head)).2, by simpa using marked⟩, ?_⟩
        exact ih later (by simpa using ⟨starts, each.1⟩) (by simp) each.2
      · rw [composeAfter_of_mark joins starts]
        exact ih later first (List.forall_mem_cons.2 ⟨each.1, marked⟩) each.2

theorem forall_mem_compose {holds : Char → Prop} {text : List Char}
    (closed : ∀ a b whole, combiningClass a = 0 → holds a → Undivided b →
      composePair? a b = some whole → holds whole)
    (each : ∀ c ∈ decompose text, holds c) : ∀ c ∈ compose text, holds c :=
  forall_mem_composeAfter (fun a b whole starts known listed pair =>
    closed a b whole starts known (undivided_of_mem_decompose listed) pair) (by simp) (by simp) each

theorem settled_of_mem_compose {text : List Char} : ∀ c ∈ compose text, Settled c := by
  refine forall_mem_compose (fun a b whole starts known second pair => ?_) fun c listed =>
    (undivided_of_mem_decompose listed).settled
  exact {
    undivided := fun combines => absurd (combiningClass_of_composePair? pair) combines
    starts := fun _ first begins =>
      known.starts starts first (begins_of_composePair? pair second begins) }

/-! ## What no step of composing enters -/

theorem isOutsideHangul_of_mem_decompose? {n : Nat} {letters : List Char}
    (taken : Hangul.decompose? n = some letters) {c : Char} (member : c ∈ letters) :
    isOutsideHangul c.toNat = false := by
  obtain ⟨point, low, high, rfl⟩ := exists_of_mem_decompose? taken member
  rw [toNat_ofNat (.inl (by omega)), isOutsideHangul]
  simp only [Bool.or_eq_false_iff, Bool.and_eq_false_iff, decide_eq_false_iff_not]
  omega

theorem isOutsideHangul_of_compose? {a b : Nat} {whole : Char}
    (made : Hangul.compose? a b = some whole) : isOutsideHangul whole.toNat = false := by
  obtain ⟨index, inside, rfl⟩ := exists_syllable_of_compose? made
  rw [toNat_syllable inside, isOutsideHangul]
  simp only [Bool.or_eq_false_iff, Bool.and_eq_false_iff, decide_eq_false_iff_not]
  simp only [Hangul.syllableBase, Hangul.leadCount, Hangul.vowelCount, Hangul.tailCount] at *
  omega

def Avoids (bits : Nat) (text : List Char) : Prop := ∀ c ∈ text, bits.testBit c.toNat = false

/-- A set of numbers that a pair is in exactly if its first part is, and Hangul as a whole or not at
all. Other characters outside of it have no part in it. -/
structure NeverEntered (bits : Nat) : Prop where
  null : bits.testBit '\x00'.toNat = false
  hangul : ∀ m n, isOutsideHangul m = false → isOutsideHangul n = false →
    bits.testBit m = bits.testBit n
  first : ∀ entry ∈ pairs, bits.testBit entry.1 = bits.testBit entry.2.1
  second : ∀ entry ∈ pairs, bits.testBit entry.1 = false → bits.testBit entry.2.2 = false
  single : ∀ entry ∈ singletons, bits.testBit entry.1 = false → bits.testBit entry.2 = false
  excluded : ∀ entry ∈ exclusions, bits.testBit entry.1 = false →
    ∀ part ∈ entry.2, bits.testBit part = false

namespace NeverEntered

variable {bits : Nat} (never : NeverEntered bits)

include never

theorem ofNat {n : Nat} (outside : bits.testBit n = false) :
    bits.testBit (Char.ofNat n).toNat = false := by
  by_cases valid : n.isValidChar
  · rw [toNat_ofNat valid, outside]
  -- Numbers of no character stand for the first one.
  · rw [Char.ofNat, dif_neg valid]
    exact never.null

theorem splitOnce {c : Char} (outside : bits.testBit c.toNat = false) :
    Avoids bits (splitOnce c) := by
  rcases splitOnce_cases c with alone | letters | ⟨entry, listed, same, parts⟩ |
    ⟨entry, listed, same, parts⟩ | ⟨entry, listed, same, parts⟩
  · rw [alone, Avoids, List.forall_mem_singleton]
    exact outside
  · have inside : isOutsideHangul c.toNat = false := by
      refine Bool.eq_false_iff.2 fun beyond => ?_
      rw [decompose?_of_isOutsideHangul beyond] at letters
      cases letters
    intro letter member
    rw [← outside]
    exact never.hangul _ _ (isOutsideHangul_of_mem_decompose? letters member) inside
  · rw [← same] at outside
    rw [parts, Avoids, List.forall_mem_cons, List.forall_mem_singleton]
    exact ⟨never.ofNat (never.first entry listed ▸ outside),
      never.ofNat (never.second entry listed outside)⟩
  · rw [← same] at outside
    rw [parts, Avoids, List.forall_mem_singleton]
    exact never.ofNat (never.single entry listed outside)
  · rw [← same] at outside
    rw [parts]
    exact List.forall_mem_map.2 fun part member =>
      never.ofNat (never.excluded entry listed outside part member)

theorem composePair? {a b whole : Char} (outside : bits.testBit a.toNat = false)
    (made : composePair? a b = some whole) : bits.testBit whole.toNat = false := by
  rw [Unicode.composePair?] at made
  split at made
  · cases made
  · split at made
    · next block =>
      cases made
      have inside : isOutsideHangul a.toNat = false := by
        refine Bool.eq_false_iff.2 fun beyond => ?_
        rw [compose?_of_isOutsideHangul (.inl beyond)] at block
        cases block
      rw [← outside]
      exact never.hangul _ _ (isOutsideHangul_of_compose? block) inside
    · obtain ⟨entry, found, rfl⟩ := Option.map_eq_some_iff.1 made
      have parts := List.find?_some found
      simp only [Bool.and_eq_true, beq_iff_eq] at parts
      apply never.ofNat
      rw [never.first entry (List.mem_of_find?_eq_some found), parts.1, outside]

theorem compose {text : List Char} (avoids : Avoids bits text) : Avoids bits (compose text) :=
  forall_mem_compose (fun _ _ _ _ first _ made => never.composePair? first made)
    (forall_mem_decompose (fun _ => never.splitOnce) avoids)

end NeverEntered

end Homophone.Unicode
