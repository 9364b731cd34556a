import Homophone.Proofs.SmallForms
import Homophone.Proofs.WholeLine

/-! Composing between breaks.

White space, hyphens, bars and apostrophes compose with nothing, so what stands between them is
composed apart. Neither composing nor lower case brings one of them into a text.
-/

set_option autoImplicit false

namespace Homophone.Unicode

/-! ## Breaks -/

/-- The numbers of all breaks, and a few more. -/
def breakBits : Nat :=
  Ranges.mask [(0, 0x2D), (0x7C, 0xA0), (0x1680, 0x1680), (0x2000, 0x205F), (0x3000, 0x3000)]

theorem testBit_breakBits {n : Nat} (point : isBreakPoint n = true) :
    breakBits.testBit n = true := by
  simp only [isBreakPoint, Bool.or_eq_true, Bool.and_eq_true, decide_eq_true_eq, beq_iff_eq]
    at point
  rw [breakBits, Ranges.testBit_mask]
  simp only [List.exists_mem_cons_iff, List.not_mem_nil, false_and, exists_false, or_false]
  omega

theorem disjoint_breakBits : markBits &&& breakBits = 0 ∧ letterBits &&& breakBits = 0 := by
  decide +kernel

theorem testBit_of_disjoint {a b n : Nat} (disjoint : a &&& b = 0) (inside : b.testBit n = true) :
    a.testBit n = false := by
  have both := Nat.testBit_and a b n
  rw [disjoint, Nat.zero_testBit, inside, Bool.and_true] at both
  exact both.symm

section

variable {c : Char} (broken : isBreak c = true)

include broken

theorem combiningClass_of_isBreak : combiningClass c = 0 :=
  combiningClass_eq_zero (testBit_of_disjoint disjoint_breakBits.1
    (testBit_breakBits (isBreakPoint_of_isBreak broken)))

theorem not_isLetter_of_isBreak : ¬IsLetter c := by
  rw [IsLetter, Bool.not_eq_true]
  exact testBit_of_disjoint disjoint_breakBits.2
    (testBit_breakBits (isBreakPoint_of_isBreak broken))

theorem isOutsideHangul_of_isBreak : isOutsideHangul c.toNat = true := by
  have point := isBreakPoint_of_isBreak broken
  simp only [isBreakPoint, Bool.or_eq_true, Bool.and_eq_true, decide_eq_true_eq, beq_iff_eq]
    at point
  simp only [isOutsideHangul, Bool.or_eq_true, Bool.and_eq_true, decide_eq_true_eq]
  omega

end

theorem composePair?_of_isBreak {a b : Char} (broken : isBreak a = true ∨ isBreak b = true) :
    composePair? a b = none := by
  rw [composePair?, compose?_of_isOutsideHangul
    (broken.imp isOutsideHangul_of_isBreak isOutsideHangul_of_isBreak)]
  split
  · rfl
  · rw [Option.map_eq_none_iff, List.find?_eq_none]
    intro entry listed same
    simp only [Bool.and_eq_true, beq_iff_eq] at same
    obtain ⟨_, first, second⟩ := unbroken_tables.1 entry listed
    rcases broken with before | behind
    · rw [same.1, isBreakPoint_of_isBreak before] at first
      cases first
    · rw [same.2, isBreakPoint_of_isBreak behind] at second
      cases second

/-! ## Between breaks -/

/-- Breaks in a text are not decomposed. -/
def KeepsBreaks (text : List Char) : Prop := ∀ c ∈ text, isBreak c = true → Undivided c

theorem keepsBreaks_compose (text : List Char) : KeepsBreaks (compose text) := by
  refine forall_mem_compose (fun a b whole _ _ _ made broken => ?_) fun c listed _ =>
    undivided_of_mem_decompose listed
  rw [isBreak_of_composePair? made] at broken
  cases broken

/-- No break comes into a text by putting it into lower case. -/
theorem mem_of_mem_lowerCaseAfter {before text : List Char} {c : Char} (broken : isBreak c = true)
    (member : c ∈ lowerCaseAfter before text) : c ∈ text := by
  induction text generalizing before with
  | nil => cases member
  | cons first rest ih =>
    rw [lowerCaseAfter_cons] at member
    rcases List.mem_append.1 member with here | later
    · by_cases small : lowerCaseOf first = [first]
      · rw [smallForm_of_small small, List.mem_singleton] at here
        exact here ▸ List.mem_cons_self
      · obtain ⟨letter, marks, form, isLetter, marked⟩ := exists_smallForm small before rest
        rw [form] at here
        rcases List.mem_cons.1 here with rfl | mark
        · exact absurd isLetter (not_isLetter_of_isBreak broken)
        · exact absurd (combiningClass_of_isBreak broken) (marked c mark).1
    · exact List.mem_cons_of_mem first (ih later)

theorem head?_of_lowerCaseAfter {before text : List Char} {c : Char} (broken : isBreak c = true)
    (head : c ∈ (lowerCaseAfter before text).head?) : c ∈ text.head? := by
  cases text with
  | nil => cases head
  | cons first rest =>
    rw [lowerCaseAfter_cons] at head
    by_cases small : lowerCaseOf first = [first]
    · rw [smallForm_of_small small] at head
      exact head
    · obtain ⟨letter, marks, form, isLetter, _⟩ := exists_smallForm small before rest
      rw [form] at head
      obtain rfl : letter = c := Option.some.inj head
      exact absurd isLetter (not_isLetter_of_isBreak broken)

section

variable {c : Char} (broken : isBreak c = true) (undivided : Undivided c)

include broken undivided

theorem compose_break_cons (rest : List Char) : compose (c :: rest) = c :: compose rest :=
  compose_cons_of_inert undivided (combiningClass_of_isBreak broken)
    (fun _ => composePair?_of_isBreak (.inl broken)) rest

theorem compose_append_break (text rest : List Char) :
    compose (text ++ c :: rest) = compose text ++ c :: compose rest := by
  have apart : compose (text ++ c :: rest) = compose text ++ compose (c :: rest) :=
    compose_append_cons (fun _ => True) (fun _ _ _ _ _ => trivial) undivided.begins
      (combiningClass_of_isBreak broken) (fun _ _ => composePair?_of_isBreak (.inr broken))
      (fun _ _ _ => trivial) rest
  rw [apart, compose_break_cons broken undivided]

end

theorem compose_nil : compose [] = [] := rfl

theorem compose_ne_nil {text : List Char} (nonempty : text ≠ []) : compose text ≠ [] := by
  intro nothing
  have same := congrArg List.length (decompose_compose text)
  rw [nothing] at same
  exact nonempty (eq_nil_of_length_decompose same.symm)

theorem exists_first (p : Char → Bool) (text : List Char) : (∀ c ∈ text, p c = false) ∨
    ∃ before c rest, text = before ++ c :: rest ∧ p c = true ∧
      ∀ other ∈ before, p other = false := by
  cases found : text.find? p with
  | none => exact .inl (by simpa using found)
  | some c =>
    obtain ⟨separator, before, rest, same, plain⟩ := List.find?_eq_some_iff_append.1 found
    exact .inr ⟨before, c, rest, same, separator, by simpa using plain⟩

theorem mem_of_mem_decomposeChar {c part : Char} (broken : isBreak part = true)
    (keeps : isBreak c = true → Undivided c) (member : part ∈ decomposeChar c) : part = c := by
  have weight := weigh_decomposeWithin_le neverAdds_breakWeight deepestPair c
  rw [weigh_breakWeight] at weight
  have counted : 0 < (decomposeChar c).countP isBreak := List.countP_pos_iff.2 ⟨part, member, broken⟩
  have whole : isBreak c = true := by
    by_contra plain
    rw [breakWeight_of_plain (by simpa using plain)] at weight
    exact absurd counted (Nat.not_lt.2 weight)
  rw [(keeps whole).decomposeChar] at member
  exact List.mem_singleton.1 member

theorem mem_of_mem_compose {text : List Char} (keeps : KeepsBreaks text) {c : Char}
    (broken : isBreak c = true) (member : c ∈ compose text) : c ∈ text := by
  have inside : ∀ c ∈ compose text, isBreak c = true → c ∈ decompose text := by
    refine forall_mem_compose (fun a b whole _ _ _ made broken => ?_) fun c listed _ => listed
    rw [isBreak_of_composePair? made] at broken
    cases broken
  have part := inside c member broken
  rw [decompose, (reorderAfter_perm [] _).mem_iff, List.nil_append] at part
  obtain ⟨whole, listed, among⟩ := List.mem_flatMap.1 part
  exact mem_of_mem_decomposeChar broken (keeps whole listed) among ▸ listed

/-- Breaks at the ends of a composed text have been there before. -/
theorem ends_compose {text : List Char} (keeps : KeepsBreaks text) {c : Char}
    (broken : isBreak c = true) :
    (c ∈ (compose text).head? → c ∈ text.head?) ∧
      (c ∈ (compose text).getLast? → c ∈ text.getLast?) := by
  induction length : text.length using Nat.strong_induction_on generalizing text with
  | _ n ih =>
    have unbroken {part : List Char} (inside : ∀ c ∈ part, c ∈ text)
        (plain : ∀ c ∈ part, isBreak c = false) : c ∉ compose part := by
      intro member
      have listed := mem_of_mem_compose (fun c here => keeps c (inside c here)) broken member
      rw [plain c listed] at broken
      cases broken
    rcases exists_first isBreak text with plain | ⟨before, first, rest, rfl, opens, plain⟩
    · have absent := unbroken (fun _ => id) plain
      exact ⟨fun head => absurd (List.mem_of_mem_head? head) absent,
        fun last => absurd (List.mem_of_mem_getLast? last) absent⟩
    · have later := ih rest.length (by simp [← length]; omega)
        (fun other member => keeps other (by simp [member])) rfl
      rw [compose_append_break opens (keeps first (by simp) opens)]
      constructor
      · intro head
        by_cases opening : before = []
        · subst opening
          simpa [compose_nil] using head
        · rw [List.head?_append_of_ne_nil _ (compose_ne_nil opening)] at head
          exact absurd (List.mem_of_mem_head? head)
            (unbroken (fun c here => List.mem_append_left _ here) plain)
      · intro last
        rw [List.getLast?_append_cons] at last ⊢
        by_cases closing : rest = []
        · subst closing
          exact last
        · rw [List.getLast?_cons_of_ne_nil (compose_ne_nil closing)] at last
          rw [List.getLast?_cons_of_ne_nil closing]
          exact later.2 last

end Homophone.Unicode
