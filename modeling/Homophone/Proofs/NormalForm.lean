import Homophone.Text.Normal

/-! What the normal form of a text may hold.

Characters are taken apart, put in order, composed and lower-cased, one table after the other. A
weight that none of these steps adds to bounds the normal form by the text; the tables themselves are
only looked at for the weight that counts apostrophes and separators.
-/

set_option autoImplicit false

namespace Homophone

namespace Text

def weigh (weight : Char → Nat) : List Char → Nat
  | [] => 0
  | c :: rest => weight c + weigh weight rest

variable (weight : Char → Nat)

@[simp] theorem weigh_nil : weigh weight [] = 0 := rfl

@[simp] theorem weigh_cons (c : Char) (rest : List Char) :
    weigh weight (c :: rest) = weight c + weigh weight rest := rfl

@[simp] theorem weigh_append (first second : List Char) :
    weigh weight (first ++ second) = weigh weight first + weigh weight second := by
  induction first with
  | nil => simp
  | cons c rest ih => simp [ih, Nat.add_assoc]

theorem weigh_perm {first second : List Char} (same : first.Perm second) :
    weigh weight first = weigh weight second := by
  induction same with
  | nil => rfl
  | cons c _ ih => simp [ih]
  | swap a b rest => simp [Nat.add_left_comm]
  | trans _ _ ih₁ ih₂ => exact ih₁.trans ih₂

theorem weigh_le_of_sublist {part text : List Char} (sublist : part.Sublist text) :
    weigh weight part ≤ weigh weight text := by
  induction sublist with
  | slnil => exact Nat.le_refl _
  | cons c _ ih => exact Nat.le_trans ih (Nat.le_add_left _ _)
  | cons_cons c _ ih => exact Nat.add_le_add_left ih _

theorem weigh_flatMap_le {parts : Char → List Char} (each : ∀ c, weigh weight (parts c) ≤ weight c)
    (text : List Char) : weigh weight (text.flatMap parts) ≤ weigh weight text := by
  induction text with
  | nil => exact Nat.le_refl _
  | cons c rest ih =>
    rw [List.flatMap_cons, weigh_append]
    exact Nat.add_le_add (each c) ih

end Text

namespace Unicode

open Text (weigh weigh_nil weigh_cons weigh_append weigh_perm weigh_flatMap_le weigh_le_of_sublist)

/-! ## Weights that no step adds to -/

structure NeverAdds (weight : Char → Nat) : Prop where
  decompose : ∀ c, weigh weight (splitOnce c) ≤ weight c
  compose : ∀ {a b whole : Char}, composePair? a b = some whole → weight whole ≤ weight a + weight b
  lowerCase : ∀ c, weigh weight (lowerCaseOf c) ≤ weight c
  sigma : ∀ before after, weight (lowerCaseSigma before after) ≤ weight 'Σ'

theorem insertMark_perm (mark : Char) (marks : List Char) :
    (insertMark mark marks).Perm (mark :: marks) := by
  induction marks with
  | nil => exact .refl _
  | cons other rest ih =>
    rw [insertMark]
    split
    · exact (ih.cons other).trans (.swap mark other rest)
    · exact .refl _

theorem reorderAfter_perm (marks text : List Char) :
    (reorderAfter marks text).Perm (marks ++ text) := by
  induction text generalizing marks with
  | nil => simp [reorderAfter]
  | cons c rest ih =>
    rw [reorderAfter]
    split
    · exact ((ih []).cons c).append_left marks
    · exact (ih _).trans (((insertMark_perm c marks).append_right rest).trans
        List.perm_middle.symm)

theorem splitOnce_cases (c : Char) :
    splitOnce c = [c] ∨
    Hangul.decompose? c.toNat = some (splitOnce c) ∨
    (∃ entry ∈ pairs, entry.1 = c.toNat ∧
      splitOnce c = [Char.ofNat entry.2.1, Char.ofNat entry.2.2]) ∨
    (∃ entry ∈ singletons, entry.1 = c.toNat ∧ splitOnce c = [Char.ofNat entry.2]) ∨
    ∃ entry ∈ exclusions, entry.1 = c.toNat ∧ splitOnce c = entry.2.map Char.ofNat := by
  rw [splitOnce]
  split
  · exact .inl rfl
  · split
    · next letters taken => exact .inr (.inl taken)
    · split
      · next key first second found =>
        exact .inr (.inr (.inl ⟨_, List.mem_of_find?_eq_some found,
          by simpa using List.find?_some found, rfl⟩))
      · split
        · next key part found =>
          exact .inr (.inr (.inr (.inl ⟨_, List.mem_of_find?_eq_some found,
            by simpa using List.find?_some found, rfl⟩)))
        · split
          · next key parts found =>
            exact .inr (.inr (.inr (.inr ⟨_, List.mem_of_find?_eq_some found,
              by simpa using List.find?_some found, rfl⟩)))
          · exact .inl rfl

section

variable {weight : Char → Nat} (never : NeverAdds weight)

include never

theorem weigh_decomposeWithin_le (fuel : Nat) (c : Char) :
    weigh weight (decomposeWithin fuel c) ≤ weight c := by
  induction fuel generalizing c with
  | zero => exact Nat.le_refl _
  | succ fuel ih =>
    have once := never.decompose c
    rw [decomposeWithin]
    split
    · next single alone => rwa [alone] at once
    · exact Nat.le_trans (weigh_flatMap_le weight ih _) once

theorem weigh_decompose_le (text : List Char) :
    weigh weight (decompose text) ≤ weigh weight text := by
  rw [decompose, weigh_perm weight (reorderAfter_perm _ _), List.nil_append]
  exact weigh_flatMap_le weight (weigh_decomposeWithin_le never deepestPair) text

theorem weigh_composeAfter_le (starter : Option Char) (marks text : List Char) :
    weigh weight (composeAfter starter marks text) ≤
      weigh weight starter.toList + weigh weight marks + weigh weight text := by
  fun_induction composeAfter starter marks text with
  | case1 starter marks =>
    rw [weigh_append, weigh_perm weight marks.reverse_perm]
    exact Nat.le_refl _
  | case2 starter marks c rest blocked whole composed ih =>
    -- The composed character stands for the starter and for the mark.
    have free : starter.bind (composePair? · c) = some whole := by
      split at composed
      · cases composed
      · exact composed
    obtain ⟨first, rfl, pair⟩ := Option.bind_eq_some_iff.1 free
    have less := never.compose pair
    simp only [Option.toList_some, weigh_cons, weigh_nil] at ih ⊢
    omega
  | case3 starter marks c rest blocked alone starts ih =>
    simp only [weigh_append, weigh_perm weight marks.reverse_perm, Option.toList_some, weigh_cons,
      weigh_nil] at ih ⊢
    omega
  | case4 starter marks c rest blocked alone mark ih =>
    simp only [weigh_cons] at ih ⊢
    omega

theorem weigh_lowerCaseAfter_le (before text : List Char) :
    weigh weight (lowerCaseAfter before text) ≤ weigh weight text := by
  induction text generalizing before with
  | nil => exact Nat.le_refl _
  | cons c rest ih =>
    rw [lowerCaseAfter, weigh_append]
    refine Nat.add_le_add ?_ (ih _)
    split
    · next capital =>
      subst capital
      exact never.sigma before rest
    · exact never.lowerCase c

/-- The normal form weighs no more than the decomposed text. -/
theorem weigh_normalize_le_decompose (text : List Char) :
    weigh weight (Text.normalize text) ≤ weigh weight (decompose text) := by
  have trimmed : (Text.normalize text).Sublist (lowerCase (compose text)) :=
    (Text.dropEndWhile_isPrefix _ _).sublist.trans (List.dropWhile_sublist _)
  have composed := weigh_composeAfter_le never none [] (decompose text)
  simp only [Option.toList_none, weigh_nil, Nat.zero_add] at composed
  calc weigh weight (Text.normalize text)
      ≤ weigh weight (lowerCase (compose text)) := weigh_le_of_sublist weight trimmed
    _ ≤ weigh weight (compose text) := weigh_lowerCaseAfter_le never [] _
    _ ≤ weigh weight (decompose text) := composed

theorem weigh_normalize_le (text : List Char) :
    weigh weight (Text.normalize text) ≤ weigh weight text :=
  Nat.le_trans (weigh_normalize_le_decompose never text) (weigh_decompose_le never text)

end

/-! ## Apostrophes and separators -/

/-- An apostrophe, or what separates words by default. -/
def isBreak (c : Char) : Bool := c = '\'' || (c = '|' || (isWhiteSpace c || c = '-'))

/-- The numbers of all breaks, and a few more, so that few comparisons tell. -/
def isBreakPoint (n : Nat) : Bool :=
  n < 0x2E || (0x7C ≤ n && n ≤ 0xA0) || n == 0x1680 || (0x2000 ≤ n && n < 0x2060) || n == 0x3000

theorem isBreakPoint_of_isWhiteSpace {c : Char} (blank : isWhiteSpace c = true) :
    isBreakPoint c.toNat = true := by
  obtain ⟨range, listed, first, last⟩ := Ranges.containsPoint_sound blank
  simp only [whiteSpace, List.mem_cons, List.not_mem_nil, or_false] at listed
  simp only [isBreakPoint, Bool.or_eq_true, Bool.and_eq_true, decide_eq_true_eq, beq_iff_eq]
  rcases listed with rfl | rfl | rfl | rfl | rfl | rfl | rfl | rfl | rfl | rfl <;>
    simp only at first last <;> omega

theorem isBreakPoint_of_isBreak {c : Char} (broken : isBreak c = true) :
    isBreakPoint c.toNat = true := by
  simp only [isBreak, Bool.or_eq_true, decide_eq_true_eq] at broken
  rcases broken with rfl | rfl | blank | rfl
  · rfl
  · rfl
  · exact isBreakPoint_of_isWhiteSpace blank
  · rfl

theorem toNat_ofNat {n : Nat} (valid : n.isValidChar) : (Char.ofNat n).toNat = n := by
  rw [Char.ofNat, dif_pos valid]
  rfl

theorem isBreak_ofNat {n : Nat} (plain : isBreakPoint n = false) :
    isBreak (Char.ofNat n) = false := by
  refine Bool.eq_false_iff.2 fun broken => ?_
  by_cases valid : n.isValidChar
  · have point := isBreakPoint_of_isBreak broken
    rw [toNat_ofNat valid, plain] at point
    cases point
  -- Numbers of no character stand for the first one.
  · rw [Char.ofNat, dif_neg valid] at broken
    revert broken
    decide

/-! ### In the tables -/

def CaseRun.steps (run : CaseRun) : List Nat :=
  List.range ((run.last - run.first) / run.step + 1)

theorem CaseRun.exists_of_image? {run : CaseRun} {n image : Nat} (found : run.image? n = some image) :
    ∃ k ∈ run.steps, n = k * run.step + run.first ∧ image = k * run.step + run.target := by
  rw [image?] at found
  split at found
  · next inside =>
    simp only [Bool.and_eq_true, decide_eq_true_eq, beq_iff_eq] at inside
    obtain ⟨⟨first, last⟩, step⟩ := inside
    have steps := Nat.div_mul_cancel (Nat.dvd_of_mod_eq_zero step)
    refine ⟨(n - run.first) / run.step, List.mem_range.2 (Nat.lt_succ_of_le ?_), ?_, ?_⟩
    · exact Nat.div_le_div_right (Nat.sub_le_sub_right last _)
    · rw [steps, Nat.sub_add_cancel first]
    · rw [steps]
      exact (Option.some.inj found).symm
  · cases found

theorem CaseRuns.exists_run_of_image? {n image : Nat} {runs : CaseRuns}
    (found : runs.image? n = some image) :
    ∃ run ∈ runs, ∃ k ∈ run.steps, n = k * run.step + run.first ∧
      image = k * run.step + run.target := by
  induction runs with
  | nil => cases found
  | cons run rest ih =>
    rw [image?] at found
    split at found
    · cases found
    · split at found
      · exact ⟨run, List.mem_cons_self, CaseRun.exists_of_image? found⟩
      · obtain ⟨other, listed, member⟩ := ih found
        exact ⟨other, List.mem_cons_of_mem run listed, member⟩

/-- No table writes a break, except that two blanks are written in another way, as blanks again. -/
theorem unbroken_tables :
    (∀ entry ∈ pairs, isBreakPoint entry.1 = false ∧ isBreakPoint entry.2.1 = false ∧
      isBreakPoint entry.2.2 = false) ∧
    (∀ entry ∈ singletons, isBreakPoint entry.2 = false ∨ whiteSpace.containsPoint entry.1 = true) ∧
    (∀ entry ∈ exclusions, ∀ part ∈ entry.2, isBreakPoint part = false) ∧
    ∀ run ∈ lowerCaseRuns, ∀ k ∈ run.steps, isBreakPoint (k * run.step + run.target) = false := by
  have checked :
      ((pairs.all fun entry =>
        !isBreakPoint entry.1 && !isBreakPoint entry.2.1 && !isBreakPoint entry.2.2) &&
      (singletons.all fun entry => !isBreakPoint entry.2 || whiteSpace.containsPoint entry.1) &&
      (exclusions.all fun entry => entry.2.all fun part => !isBreakPoint part) &&
      lowerCaseRuns.all fun run => run.steps.all fun k =>
        !isBreakPoint (k * run.step + run.target)) = true := by
    decide +kernel
  simp only [Bool.and_eq_true, Bool.or_eq_true, List.all_eq_true, Bool.not_eq_true', and_assoc]
    at checked
  exact checked

/-! ### Hangul -/

section

open Hangul

theorem isBreak_between_blanks {n : Nat} (low : 0x1100 ≤ n) (high : n < 0x1680 ∨ 0x3000 < n) :
    isBreak (Char.ofNat n) = false := by
  apply isBreak_ofNat
  simp only [isBreakPoint, Bool.or_eq_false_iff, Bool.and_eq_false_iff, decide_eq_false_iff_not,
    beq_eq_false_iff_ne]
  omega

theorem exists_of_mem_decompose? {n : Nat} {letters : List Char}
    (taken : decompose? n = some letters) {c : Char} (member : c ∈ letters) :
    ∃ point, 0x1100 ≤ point ∧ point < 0x1200 ∧ c = Char.ofNat point := by
  unfold decompose? at taken
  dsimp only at taken
  split at taken
  · cases taken
  · next inside =>
    simp only [Bool.or_eq_true, decide_eq_true_eq, not_or] at inside
    simp only [syllableBase, leadCount, vowelCount, tailCount] at inside
    rw [← Option.some.inj taken] at member
    rcases List.mem_cons.1 member with rfl | member
    · refine ⟨_, ?_, ?_, rfl⟩ <;>
        simp only [syllableBase, leadBase, vowelCount, tailCount] <;> omega
    rcases List.mem_cons.1 member with rfl | member
    · refine ⟨_, ?_, ?_, rfl⟩ <;>
        simp only [syllableBase, vowelBase, vowelCount, tailCount] <;> omega
    split at member
    · cases member
    · rw [List.mem_singleton.1 member]
      refine ⟨_, ?_, ?_, rfl⟩ <;> simp only [syllableBase, tailBase, tailCount] <;> omega

theorem isBreak_of_mem_hangul {n : Nat} {letters : List Char}
    (taken : decompose? n = some letters) : ∀ c ∈ letters, isBreak c = false := by
  intro c member
  obtain ⟨point, low, high, rfl⟩ := exists_of_mem_decompose? taken member
  exact isBreak_between_blanks low (.inl (by omega))

theorem isBreak_of_hangul {a b : Nat} {whole : Char} (made : compose? a b = some whole) :
    isBreak whole = false := by
  unfold compose? at made
  split at made
  · rw [← Option.some.inj made]
    apply isBreak_between_blanks <;> simp only [syllableBase] <;> omega
  · split at made
    · next inside =>
      simp only [Bool.and_eq_true, decide_eq_true_eq] at inside
      simp only [syllableBase, leadCount, vowelCount, tailCount, tailBase] at inside
      rw [← Option.some.inj made]
      apply isBreak_between_blanks <;> simp only [tailBase] <;> omega
    · cases made

end

/-! ### Counting them -/

def breakWeight (c : Char) : Nat := if isBreak c then 1 else 0

theorem breakWeight_of_isBreak {c : Char} (broken : isBreak c = true) : breakWeight c = 1 :=
  if_pos broken

theorem breakWeight_of_plain {c : Char} (plain : isBreak c = false) : breakWeight c = 0 :=
  if_neg (Bool.eq_false_iff.1 plain)

theorem breakWeight_le_one (c : Char) : breakWeight c ≤ 1 := by
  rw [breakWeight]
  split <;> decide

theorem weigh_breakWeight_eq_zero {text : List Char} (plain : ∀ c ∈ text, isBreak c = false) :
    weigh breakWeight text = 0 := by
  induction text with
  | nil => rfl
  | cons c rest ih =>
    rw [List.forall_mem_cons] at plain
    rw [weigh_cons, breakWeight_of_plain plain.1, ih plain.2]

theorem weigh_splitOnce_le (c : Char) : weigh breakWeight (splitOnce c) ≤ breakWeight c := by
  obtain ⟨ofPairs, ofSingletons, ofExclusions, _⟩ := unbroken_tables
  have unbroken {parts : List Char} (plain : ∀ part ∈ parts, isBreak part = false) :
      weigh breakWeight parts ≤ breakWeight c := by
    rw [weigh_breakWeight_eq_zero plain]
    exact Nat.zero_le _
  rcases splitOnce_cases c with alone | letters | ⟨entry, listed, _, parts⟩ |
    ⟨entry, listed, same, parts⟩ | ⟨entry, listed, _, parts⟩
  · rw [alone]
    exact Nat.le_refl _
  · exact unbroken (isBreak_of_mem_hangul letters)
  · obtain ⟨_, first, second⟩ := ofPairs entry listed
    rw [parts]
    exact unbroken (by simp [isBreak_ofNat first, isBreak_ofNat second])
  · rw [parts]
    rcases ofSingletons entry listed with plain | blank
    · exact unbroken (by simp [isBreak_ofNat plain])
    · rw [same] at blank
      have white : isWhiteSpace c = true := blank
      have broken : isBreak c = true := by simp [isBreak, white]
      rw [breakWeight_of_isBreak broken]
      exact breakWeight_le_one _
  · rw [parts]
    exact unbroken (List.forall_mem_map.2 fun part member =>
      isBreak_ofNat (ofExclusions entry listed part member))

theorem isBreak_of_composePair? {a b whole : Char} (made : composePair? a b = some whole) :
    isBreak whole = false := by
  rw [composePair?] at made
  split at made
  · cases made
  · split at made
    · next block =>
      cases made
      exact isBreak_of_hangul block
    · obtain ⟨entry, found, rfl⟩ := Option.map_eq_some_iff.1 made
      obtain ⟨ofPairs, _⟩ := unbroken_tables
      exact isBreak_ofNat (ofPairs entry (List.mem_of_find?_eq_some found)).1

theorem breakWeight_map_le (c : Char) : breakWeight (lowerCaseRuns.map c) ≤ breakWeight c := by
  rw [CaseRuns.map]
  cases found : CaseRuns.image? c.toNat lowerCaseRuns with
  | none => exact Nat.le_refl _
  | some image =>
    obtain ⟨run, listed, k, within, _, rfl⟩ := CaseRuns.exists_run_of_image? found
    obtain ⟨_, _, _, ofRuns⟩ := unbroken_tables
    rw [Option.map_some, Option.getD_some,
      breakWeight_of_plain (isBreak_ofNat (ofRuns run listed k within))]
    exact Nat.zero_le _

/-- No apostrophe and no separator comes into a text by normalizing it. -/
theorem neverAdds_breakWeight : NeverAdds breakWeight where
  decompose := weigh_splitOnce_le
  compose made := by
    rw [breakWeight_of_plain (isBreak_of_composePair? made)]
    exact Nat.zero_le _
  lowerCase c := by
    rw [lowerCaseOf]
    split
    · have plain : weigh breakWeight ['i', '\u0307'] = 0 := by decide
      rw [plain]
      exact Nat.zero_le _
    · exact breakWeight_map_le c
  sigma before after := by
    rw [lowerCaseSigma]
    split <;> decide

theorem weigh_breakWeight (text : List Char) : weigh breakWeight text = text.countP isBreak := by
  induction text with
  | nil => rfl
  | cons c rest ih =>
    rw [weigh_cons, List.countP_cons, ih, Nat.add_comm]
    rfl

end Unicode

end Homophone
