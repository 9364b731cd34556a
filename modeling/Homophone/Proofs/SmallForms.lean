import Homophone.Proofs.ComposedLetters
import Mathlib.Data.List.TakeWhile

/-! Composed texts that are put into lower case.

What a capital becomes may compose with a mark that the capital does not compose with, so that a
composed text is not always composed in lower case. It is if that happens to none of its capitals,
each taken with the marks behind it. A text without capitals stays without them when it is composed.
-/

set_option autoImplicit false

namespace Homophone.Unicode

/-! ## What lower case replaces -/

theorem CaseRuns.image?_of_mem {runs : CaseRuns}
    (ascending : runs.IsChain fun run other => run.last < other.first)
    (proper : ∀ run ∈ runs, run.first ≤ run.last ∧ 0 < run.step) {run : CaseRun}
    (listed : run ∈ runs) {k : Nat} (within : k ∈ run.steps) :
    image? (k * run.step + run.first) runs = some (k * run.step + run.target) := by
  have reach : k * run.step + run.first ≤ run.last := by
    have steps := Nat.mul_le_of_le_div _ _ _ (Nat.le_of_lt_succ (List.mem_range.1 within))
    have first := (proper run listed).1
    omega
  induction runs with
  | nil => cases listed
  | cons next rest ih =>
    rw [List.forall_mem_cons] at proper
    rw [image?]
    rcases List.mem_cons.1 listed with rfl | later
    · have inside : run.first ≤ k * run.step + run.first := Nat.le_add_left _ _
      rw [if_neg (Nat.not_lt.2 inside), if_pos reach, CaseRun.image?]
      simp [reach]
    · have beyond :=
        lt_of_ascending ascending (fun other member => (proper.2 other member).1) run later
      rw [if_neg (by omega), if_neg (by omega)]
      exact ih ascending.of_cons proper.2 later

def movedBits : Nat := bitSet ('İ'.toNat :: capitalPoints)

theorem moved_checked :
    ((pairs.all fun entry => movedBits.testBit entry.1 == movedBits.testBit entry.2.1) &&
    (pairs.all fun entry => !movedBits.testBit entry.2.2) &&
    (singletons.all fun entry =>
      decide (movedBits.testBit entry.1 = false → movedBits.testBit entry.2 = false)) &&
    (exclusions.all fun entry => decide (movedBits.testBit entry.1 = false →
      ∀ part ∈ entry.2, movedBits.testBit part = false)) &&
    decide (lowerCaseRuns.IsChain fun run other => run.last < other.first) &&
    lowerCaseRuns.all fun run => decide (run.first ≤ run.last) && decide (0 < run.step)) =
    true := by
  decide +kernel

/-- Characters that lower case replaces are composed of such characters, and no others are. -/
structure MovedTables : Prop where
  first : ∀ entry ∈ pairs, movedBits.testBit entry.1 = movedBits.testBit entry.2.1
  second : ∀ entry ∈ pairs, movedBits.testBit entry.2.2 = false
  single : ∀ entry ∈ singletons, movedBits.testBit entry.1 = false →
    movedBits.testBit entry.2 = false
  excluded : ∀ entry ∈ exclusions, movedBits.testBit entry.1 = false →
    ∀ part ∈ entry.2, movedBits.testBit part = false
  ascending : lowerCaseRuns.IsChain fun run other => run.last < other.first
  proper : ∀ run ∈ lowerCaseRuns, run.first ≤ run.last ∧ 0 < run.step

theorem moved_tables : MovedTables := by
  have checked := moved_checked
  simp only [Bool.and_eq_true, List.all_eq_true, decide_eq_true_eq, beq_iff_eq, Bool.not_eq_true',
    and_assoc] at checked
  obtain ⟨first, second, single, excluded, ascending, proper⟩ := checked
  exact ⟨first, second, single, excluded, ascending, proper⟩

theorem lowerCaseOf_eq_iff {c : Char} :
    lowerCaseOf c = [c] ↔ movedBits.testBit c.toNat = false := by
  have moved : movedBits.testBit c.toNat = true ↔ c = 'İ' ∨ capitalBits.testBit c.toNat = true := by
    rw [movedBits, capitalBits, testBit_bitSet, testBit_bitSet, List.mem_cons, Char.toNat_inj]
  rw [← Bool.not_eq_true, moved, not_or, Bool.not_eq_true]
  constructor
  · intro small
    have undotted : c ≠ 'İ' := by
      rintro rfl
      exact absurd small (by decide)
    refine ⟨undotted, Bool.eq_false_iff.2 fun capital => ?_⟩
    obtain ⟨run, listed, member⟩ := List.mem_flatMap.1 (testBit_bitSet.1 capital)
    obtain ⟨k, within, same⟩ := List.mem_map.1 member
    -- The image is no capital, so it is another character.
    have plain := (lowerCase_tables.2.2.1 run listed k within).1
    have target : k * run.step + run.target ∈ letterPoints :=
      List.mem_append_left _ (List.mem_append_right _
        (List.mem_flatMap.2 ⟨run, listed, List.mem_map.2 ⟨k, within, rfl⟩⟩))
    rw [lowerCaseOf, if_neg undotted, CaseRuns.map, ← same,
      CaseRuns.image?_of_mem moved_tables.ascending moved_tables.proper listed within] at small
    have own : (Char.ofNat (k * run.step + run.target)).toNat = c.toNat :=
      congrArg Char.toNat (List.singleton_inj.1 small)
    rw [toNat_ofNat (letter_tables.valid _ target).1] at own
    rw [own, capital] at plain
    cases plain
  · rintro ⟨undotted, plain⟩
    rw [lowerCaseOf, if_neg undotted, CaseRuns.map, image?_eq_none plain]
    rfl

/-! ## Capitals and marks -/

theorem mem_letterPoints_of_moved {n : Nat} (moved : movedBits.testBit n = true) :
    n ∈ letterPoints := by
  rw [movedBits, testBit_bitSet, List.mem_cons] at moved
  rw [letterPoints, List.append_assoc, List.mem_append]
  rcases moved with dotted | run
  · exact .inr (List.mem_append_right _ (by simp [dotted]))
  · exact .inl run

theorem isLetter_of_lowerCaseOf {c : Char} (capital : lowerCaseOf c ≠ [c]) : IsLetter c := by
  rw [ne_eq, lowerCaseOf_eq_iff, Bool.not_eq_false] at capital
  exact testBit_bitSet.2 (mem_letterPoints_of_moved capital)

theorem lowerCaseOf_of_mark {c : Char} (combines : combiningClass c ≠ 0) : lowerCaseOf c = [c] := by
  by_contra capital
  exact combines (isLetter_of_lowerCaseOf capital).combiningClass_eq

/-- What stands for a character in lower case, between `before` and `after`. -/
def smallForm (before : List Char) (c : Char) (after : List Char) : List Char :=
  if c = 'Σ' then [lowerCaseSigma before after] else lowerCaseOf c

theorem lowerCaseAfter_cons (before : List Char) (c : Char) (rest : List Char) :
    lowerCaseAfter before (c :: rest) =
      smallForm before c rest ++ lowerCaseAfter (c :: before) rest :=
  rfl

theorem smallForm_of_small {c : Char} (small : lowerCaseOf c = [c]) (before after : List Char) :
    smallForm before c after = [c] := by
  have other : c ≠ 'Σ' := by
    rintro rfl
    exact absurd small (by decide)
  rw [smallForm, if_neg other, small]

theorem isLetter_map {c : Char} (capital : lowerCaseRuns.map c ≠ c) :
    IsLetter (lowerCaseRuns.map c) := by
  rw [CaseRuns.map] at capital ⊢
  cases found : CaseRuns.image? c.toNat lowerCaseRuns with
  | none =>
    rw [found] at capital
    exact (capital rfl).elim
  | some image =>
    obtain ⟨run, listed, k, within, _, rfl⟩ := CaseRuns.exists_run_of_image? found
    refine isLetter_ofNat (testBit_bitSet.2 (List.mem_append_left _ (List.mem_append_right _ ?_)))
    exact List.mem_flatMap.2 ⟨run, listed, List.mem_map.2 ⟨k, within, rfl⟩⟩

theorem exists_smallForm {c : Char} (capital : lowerCaseOf c ≠ [c]) (before after : List Char) :
    ∃ letter marks, smallForm before c after = letter :: marks ∧ IsLetter letter ∧
      ∀ mark ∈ marks, combiningClass mark ≠ 0 ∧ Undivided mark := by
  have written {c : Char} (listed : c ∈ ['İ', 'i', 'σ', 'ς']) : IsLetter c :=
    testBit_bitSet.2 (List.mem_append_right _ (List.mem_map_of_mem listed))
  rw [smallForm]
  split
  · refine ⟨_, [], rfl, written ?_, by simp⟩
    rw [lowerCaseSigma]
    split <;> simp
  · rw [lowerCaseOf] at capital ⊢
    split
    · exact ⟨'i', ['\u0307'], rfl, written (by simp), by simpa using by decide +kernel⟩
    · next plain =>
      rw [if_neg plain] at capital
      exact ⟨_, [], rfl, isLetter_map fun same => capital (by rw [same]), by simp⟩

def IsSmall (text : List Char) : Prop := ∀ c ∈ text, lowerCaseOf c = [c]

theorem IsSmall.lowerCase_eq {text : List Char} (small : IsSmall text) : lowerCase text = text :=
  lowerCaseAfter_of_small small []

theorem lowerCaseAfter_append_small {small : List Char} (all : IsSmall small)
    (before rest : List Char) :
    lowerCaseAfter before (small ++ rest) =
      small ++ lowerCaseAfter (small.reverse ++ before) rest := by
  induction small generalizing before with
  | nil => rfl
  | cons c others ih =>
    rw [IsSmall, List.forall_mem_cons] at all
    rw [List.cons_append, lowerCaseAfter_cons, smallForm_of_small all.1, ih all.2]
    simp

/-! ## Small forms with marks -/

/-- Every capital, with the marks behind it, is composed when it is put into lower case. -/
def SmallFormsComposed : List Char → Prop
  | [] => True
  | c :: rest =>
    let small := lowerCaseOf c ++ rest.takeWhile (combiningClass · != 0)
    (lowerCaseOf c = [c] ∨ compose small = small) ∧ SmallFormsComposed rest

instance decidableSmallFormsComposed : (text : List Char) → Decidable (SmallFormsComposed text)
  | [] => inferInstanceAs (Decidable True)
  | _ :: rest =>
    have := decidableSmallFormsComposed rest
    inferInstanceAs (Decidable ((_ ∨ _) ∧ SmallFormsComposed rest))

theorem smallFormsComposed_append_iff {small : List Char} (all : IsSmall small)
    (rest : List Char) : SmallFormsComposed (small ++ rest) ↔ SmallFormsComposed rest := by
  induction small with
  | nil => rfl
  | cons c others ih =>
    rw [IsSmall, List.forall_mem_cons] at all
    rw [List.cons_append, SmallFormsComposed, ih all.2]
    exact and_iff_right (.inl all.1)

theorem compose_sigma {c : Char} (sigma : c = 'σ' ∨ c = 'ς') (rest : List Char) :
    compose (c :: rest) = c :: compose rest := by
  have checked : (pairs.all fun entry =>
      entry.2.1 != 'σ'.toNat && entry.2.1 != 'ς'.toNat) = true := by
    decide +kernel
  simp only [List.all_eq_true, Bool.and_eq_true, bne_iff_ne] at checked
  have low : c.toNat < 0x1100 := by rcases sigma with rfl | rfl <;> decide
  have undivided : Undivided c := by rcases sigma with rfl | rfl <;> decide +kernel
  have starts : combiningClass c = 0 := by rcases sigma with rfl | rfl <;> decide +kernel
  refine compose_cons_of_inert undivided starts (fun b => ?_) rest
  rw [composePair?, compose?_of_isOutsideHangul (.inl (by simp [isOutsideHangul, low]))]
  split
  · rfl
  · rw [Option.map_eq_none_iff, List.find?_eq_none]
    intro entry listed same
    simp only [Bool.and_eq_true, beq_iff_eq] at same
    obtain ⟨medial, last⟩ := checked entry listed
    rcases sigma with rfl | rfl
    · exact medial same.1
    · exact last same.1

/-- Which of the two sigmas it is makes no difference. -/
theorem compose_smallForm_iff (before : List Char) (c : Char) (after marks : List Char) :
    compose (smallForm before c after ++ marks) = smallForm before c after ++ marks ↔
      compose (lowerCaseOf c ++ marks) = lowerCaseOf c ++ marks := by
  rw [smallForm]
  split
  · next capital =>
    have medial : lowerCaseOf 'Σ' = ['σ'] := by decide
    have either : lowerCaseSigma before after = 'σ' ∨ lowerCaseSigma before after = 'ς' := by
      rw [lowerCaseSigma]
      split
      · exact .inr rfl
      · exact .inl rfl
    rw [capital, medial, List.singleton_append, List.singleton_append, compose_sigma either,
      compose_sigma (.inl rfl), List.cons_inj_right, List.cons_inj_right]
  · rfl

/-! ## Composed texts in lower case -/

theorem IsLetter.of_begins {c first : Char} (letter : IsLetter c) (begins : Begins c first) :
    IsLetter first := by
  obtain ⟨base, marks, parts, isLetter, _⟩ := letter.exists_decomposeWithin deepestPair
  obtain ⟨others, same⟩ := begins
  rw [show decomposeChar c = base :: marks from parts] at same
  cases same
  exact isLetter

theorem starts_lowerCaseAfter {text : List Char}
    (starts : ∀ c ∈ text.head?, ∀ first, Begins c first → combiningClass first = 0)
    (before : List Char) :
    ∀ c ∈ (lowerCaseAfter before text).head?, ∀ first, Begins c first →
      combiningClass first = 0 := by
  cases text with
  | nil => simp [lowerCaseAfter]
  | cons c rest =>
    by_cases small : lowerCaseOf c = [c]
    · have alone : IsSmall [c] := by simpa [IsSmall] using small
      rw [← List.singleton_append, lowerCaseAfter_append_small alone]
      simpa using starts
    · obtain ⟨letter, marks, form, isLetter, _⟩ := exists_smallForm small before rest
      rw [lowerCaseAfter_cons, form]
      intro other head first begins
      cases head
      exact (isLetter.of_begins begins).combiningClass_eq

theorem exists_marks (text : List Char) : ∃ marks rest, text = marks ++ rest ∧
    text.takeWhile (combiningClass · != 0) = marks ∧ (∀ mark ∈ marks, combiningClass mark ≠ 0) ∧
    ∀ c ∈ rest.head?, combiningClass c = 0 := by
  refine ⟨_, _, List.takeWhile_append_dropWhile.symm, rfl, fun mark member => ?_, fun c head => ?_⟩
  · simpa using List.mem_takeWhile_imp member
  · have starts := List.head?_dropWhile_not (combiningClass · != 0) text
    rw [head] at starts
    simpa using starts

theorem compose_around_letter {letter : Char} (isLetter : IsLetter letter) (text : List Char)
    {marks rest : List Char} (marked : ∀ mark ∈ marks, combiningClass mark ≠ 0 ∧ Undivided mark)
    (starts : ∀ c ∈ rest.head?, ∀ first, Begins c first → combiningClass first = 0) :
    compose (text ++ (letter :: marks ++ rest)) =
      compose text ++ (compose (letter :: marks) ++ compose rest) := by
  rw [← compose_letter_append isLetter marked starts, List.cons_append,
    compose_append_letter isLetter]

/-- A composed text is composed in lower case exactly if its capitals are. -/
theorem compose_lowerCaseAfter_iff {text : List Char} (composed : compose text = text)
    (before : List Char) :
    compose (lowerCaseAfter before text) = lowerCaseAfter before text ↔
      SmallFormsComposed text := by
  -- By induction on the length: a capital with its marks is taken off, with what stands before it.
  induction length : text.length using Nat.strong_induction_on generalizing text before with
  | _ n ih =>
    cases found : text.find? (fun c => lowerCaseOf c != [c]) with
    | none =>
      have small : IsSmall text := by simpa [IsSmall] using found
      have all := (smallFormsComposed_append_iff small []).2 trivial
      rw [List.append_nil] at all
      rw [lowerCaseAfter_of_small small]
      exact iff_of_true composed all
    | some capital =>
      obtain ⟨isCapital, small, tail, rfl, all⟩ := List.find?_eq_some_iff_append.1 found
      rw [bne_iff_ne] at isCapital
      replace all : IsSmall small := by simpa [IsSmall] using all
      have settled : ∀ c ∈ small ++ capital :: tail, Settled c := fun c member =>
        settled_of_mem_compose c (composed.symm ▸ member)
      obtain ⟨marks, rest, rfl, first, combine, unmarked⟩ := exists_marks tail
      have marked : ∀ mark ∈ marks, combiningClass mark ≠ 0 ∧ Undivided mark := fun mark member =>
        ⟨combine mark member, (settled mark (by simp [member])).undivided (combine mark member)⟩
      have starts : ∀ c ∈ rest.head?, ∀ first, Begins c first → combiningClass first = 0 :=
        fun c head => (settled c (by simp [List.mem_of_mem_head? head])).starts (unmarked c head)
      -- What is composed stays composed when it is taken apart here.
      have apart := compose_around_letter (isLetter_of_lowerCaseOf isCapital) small marked starts
      rw [← compose_letter_append (isLetter_of_lowerCaseOf isCapital) marked starts,
        List.cons_append, composed] at apart
      obtain ⟨keptSmall, keptLater⟩ := compose_eq_of_append apart.symm
      have apartLater := compose_letter_append (isLetter_of_lowerCaseOf isCapital) marked starts
      rw [List.cons_append, keptLater, ← List.cons_append] at apartLater
      obtain ⟨keptCapital, keptRest⟩ := compose_eq_of_append apartLater.symm
      -- And the same holds in lower case.
      have smallMarks : IsSmall marks := fun mark member =>
        lowerCaseOf_of_mark (combine mark member)
      obtain ⟨letter, own, form, isLetter, ownMarked⟩ :=
        exists_smallForm isCapital (small.reverse ++ before) (marks ++ rest)
      rw [lowerCaseAfter_append_small all, lowerCaseAfter_cons,
        lowerCaseAfter_append_small smallMarks, smallFormsComposed_append_iff all,
        SmallFormsComposed, smallFormsComposed_append_iff smallMarks, first]
      rw [or_iff_right isCapital]
      generalize inside : marks.reverse ++ capital :: (small.reverse ++ before) = before'
      have known := ih rest.length (by simp [← length]; omega) keptRest before' rfl
      rw [← known, ← compose_smallForm_iff (small.reverse ++ before) capital (marks ++ rest), form]
      have apartSmall := compose_around_letter isLetter small
        (List.forall_mem_append.2 ⟨ownMarked, marked⟩)
        (starts_lowerCaseAfter starts before')
      have regrouped : small ++ (letter :: own ++ (marks ++ lowerCaseAfter before' rest)) =
          small ++ (letter :: (own ++ marks) ++ lowerCaseAfter before' rest) := by simp
      rw [regrouped, apartSmall, keptSmall, List.append_cancel_left_eq,
        show letter :: own ++ marks = letter :: (own ++ marks) from rfl]
      constructor
      · exact compose_eq_of_append
      · rintro ⟨kept, keptLower⟩
        rw [kept, keptLower]

/-! ## Composing small letters -/

theorem isSmall_iff {text : List Char} : IsSmall text ↔ Avoids movedBits text :=
  forall₂_congr fun _ _ => lowerCaseOf_eq_iff

theorem neverEntered_movedBits : NeverEntered movedBits where
  null := lowerCaseOf_eq_iff.1 (lowerCaseOf_of_plain List.mem_cons_self)
  hangul m n inside inside' := by
    have unmoved {n : Nat} (inside : isOutsideHangul n = false) : movedBits.testBit n = false := by
      refine Bool.eq_false_iff.2 fun moved => ?_
      rw [(letter_tables.valid n (mem_letterPoints_of_moved moved)).2] at inside
      cases inside
    rw [unmoved inside, unmoved inside']
  first := moved_tables.first
  second entry listed _ := moved_tables.second entry listed
  single := moved_tables.single
  excluded := moved_tables.excluded

theorem isSmall_compose {text : List Char} (small : IsSmall text) : IsSmall (compose text) :=
  isSmall_iff.2 (neverEntered_movedBits.compose (isSmall_iff.1 small))

end Homophone.Unicode
