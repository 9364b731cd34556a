import Homophone.Proofs.NormalForm
import Mathlib.Data.List.Chain

/-! The order of marks.

Texts come to the same order if one is made of the other by exchanging neighbouring marks of different
classes. So a text may be put in order before or after what stands in front of it is changed.
-/

set_option autoImplicit false

namespace Homophone.Unicode

/-! ## Exchanging marks -/

/-- Neighbouring marks of different classes are exchanged, any number of times. -/
inductive Exchanges : List Char → List Char → Prop
  | refl (text : List Char) : Exchanges text text
  | cons (c : Char) {first second : List Char} (rest : Exchanges first second) :
      Exchanges (c :: first) (c :: second)
  | swap {a b : Char} (rest : List Char) (left : combiningClass a ≠ 0)
      (right : combiningClass b ≠ 0) (different : combiningClass a ≠ combiningClass b) :
      Exchanges (a :: b :: rest) (b :: a :: rest)
  | trans {first second third : List Char} (left : Exchanges first second)
      (right : Exchanges second third) : Exchanges first third

namespace Exchanges

variable {first second : List Char}

theorem append_left (before : List Char) (exchanges : Exchanges first second) :
    Exchanges (before ++ first) (before ++ second) := by
  induction before with
  | nil => exact exchanges
  | cons c rest ih => exact ih.cons c

theorem append_right (exchanges : Exchanges first second) (after : List Char) :
    Exchanges (first ++ after) (second ++ after) := by
  induction exchanges with
  | refl => exact .refl _
  | cons c _ ih => exact ih.cons c
  | swap rest left right different => exact .swap _ left right different
  | trans _ _ ih₁ ih₂ => exact ih₁.trans ih₂

theorem symm (exchanges : Exchanges first second) : Exchanges second first := by
  induction exchanges with
  | refl => exact .refl _
  | cons c _ ih => exact ih.cons c
  | swap rest left right different => exact .swap rest right left different.symm
  | trans _ _ ih₁ ih₂ => exact ih₂.trans ih₁

theorem past {mark : Char} (combines : combiningClass mark ≠ 0) {marks : List Char}
    (others : ∀ other ∈ marks, combiningClass other ≠ 0 ∧
      combiningClass other ≠ combiningClass mark) :
    Exchanges (marks ++ [mark]) (mark :: marks) := by
  induction marks with
  | nil => exact .refl _
  | cons other rest ih =>
    rw [List.forall_mem_cons] at others
    exact ((ih others.2).cons other).trans (.swap rest others.1.1 combines others.1.2)

end Exchanges

theorem insertMark_comm {a b : Char} (different : combiningClass a ≠ combiningClass b)
    (marks : List Char) :
    insertMark b (insertMark a marks) = insertMark a (insertMark b marks) := by
  induction marks with
  | nil =>
    simp only [insertMark]
    split_ifs <;> first | rfl | omega
  | cons other rest ih =>
    by_cases left : combiningClass other ≤ combiningClass a <;>
      by_cases right : combiningClass other ≤ combiningClass b
    · simp only [insertMark, if_pos left, if_pos right, ih]
    · simp only [insertMark, if_pos left, if_neg right]
      split_ifs <;> first | rfl | omega
    · simp only [insertMark, if_neg left, if_pos right]
      split_ifs <;> first | rfl | omega
    · simp only [insertMark, if_neg left, if_neg right]
      split_ifs <;> first | rfl | omega

theorem reorderAfter_of_exchanges {first second : List Char} (exchanges : Exchanges first second)
    (marks : List Char) : reorderAfter marks first = reorderAfter marks second := by
  induction exchanges generalizing marks with
  | refl => rfl
  | cons c _ ih => rw [reorderAfter, reorderAfter, ih, ih]
  | swap rest left right different =>
    simp only [reorderAfter, if_neg left, if_neg right, insertMark_comm different]
  | trans _ _ ih₁ ih₂ => rw [ih₁, ih₂]

/-! ## Marks in order -/

/-- Every mark stands behind those of lower classes. -/
def Ordered (text : List Char) : Prop :=
  text.IsChain fun a b => combiningClass b = 0 ∨ combiningClass a ≤ combiningClass b

structure OrderedMarks (marks : List Char) : Prop where
  combines : ∀ mark ∈ marks, combiningClass mark ≠ 0
  sorted : marks.Pairwise fun a b => combiningClass a ≤ combiningClass b

namespace OrderedMarks

variable {marks : List Char}

theorem nil : OrderedMarks [] := ⟨by simp, .nil⟩

theorem insertMark (ordered : OrderedMarks marks) {mark : Char}
    (combines : combiningClass mark ≠ 0) : OrderedMarks (insertMark mark marks) where
  combines other member := by
    rcases List.mem_cons.1 ((insertMark_perm mark marks).mem_iff.1 member) with rfl | old
    · exact combines
    · exact ordered.combines other old
  sorted := by
    have sorted := ordered.sorted
    clear ordered
    induction marks with
    | nil => exact List.pairwise_singleton _ _
    | cons other rest ih =>
      rw [List.pairwise_cons] at sorted
      rw [Unicode.insertMark]
      split
      · next below =>
        refine List.pairwise_cons.2 ⟨fun later member => ?_, ih sorted.2⟩
        rcases List.mem_cons.1 ((insertMark_perm mark rest).mem_iff.1 member) with rfl | old
        · exact below
        · exact sorted.1 later old
      · next above =>
        refine List.pairwise_cons.2 ⟨fun later member => ?_, List.pairwise_cons.2 sorted⟩
        rcases List.mem_cons.1 member with rfl | old
        · exact Nat.le_of_not_le above
        · exact Nat.le_trans (Nat.le_of_not_le above) (sorted.1 later old)

theorem exchanges_insertMark (ordered : OrderedMarks marks) {mark : Char}
    (combines : combiningClass mark ≠ 0) :
    Exchanges (marks ++ [mark]) (Unicode.insertMark mark marks) := by
  obtain ⟨others, sorted⟩ := ordered
  induction marks with
  | nil => exact .refl _
  | cons other rest ih =>
    rw [List.pairwise_cons] at sorted
    rw [List.forall_mem_cons] at others
    rw [Unicode.insertMark]
    split
    · exact (ih others.2 sorted.2).cons other
    -- The mark goes before this one, and so before all that follow it.
    · next above =>
      refine .past combines (List.forall_mem_cons.2 ⟨⟨others.1, by omega⟩, fun later member => ?_⟩)
      have higher := sorted.1 later member
      exact ⟨others.2 later member, by omega⟩

end OrderedMarks

theorem exchanges_reorderAfter (text : List Char) {marks : List Char}
    (ordered : OrderedMarks marks) : Exchanges (marks ++ text) (reorderAfter marks text) := by
  induction text generalizing marks with
  | nil =>
    rw [List.append_nil]
    exact .refl _
  | cons c rest ih =>
    rw [reorderAfter]
    split
    · exact ((ih .nil).cons c).append_left marks
    · next combines =>
      have inserted := (ordered.exchanges_insertMark combines).append_right rest
      rw [List.append_assoc, List.singleton_append] at inserted
      exact inserted.trans (ih (ordered.insertMark combines))

/-! ## Texts in order -/

theorem Ordered.of_starter {c : Char} (starts : combiningClass c = 0) {text : List Char}
    (ordered : Ordered text) : Ordered (c :: text) := by
  cases text with
  | nil => exact .singleton c
  | cons next rest => exact .cons_cons (.inr (starts ▸ Nat.zero_le _)) ordered

theorem OrderedMarks.ordered_append {marks : List Char} (marked : OrderedMarks marks)
    {text : List Char} (ordered : Ordered text)
    (starts : ∀ c ∈ text.head?, combiningClass c = 0) : Ordered (marks ++ text) := by
  refine List.isChain_append.2 ⟨?_, ordered, fun _ _ c head => .inl (starts c head)⟩
  exact List.Pairwise.isChain (marked.sorted.imp .inr)

theorem ordered_reorderAfter (text : List Char) {marks : List Char}
    (marked : OrderedMarks marks) : Ordered (reorderAfter marks text) := by
  induction text generalizing marks with
  | nil =>
    rw [reorderAfter, ← List.append_nil marks]
    exact marked.ordered_append .nil (by simp)
  | cons c rest ih =>
    rw [reorderAfter]
    split
    · next starts =>
      exact marked.ordered_append ((ih .nil).of_starter starts) (by simpa using starts)
    · next combines => exact ih (marked.insertMark combines)

theorem Ordered.le_of_mem {marks rest : List Char} {mark : Char}
    (ordered : Ordered (marks ++ mark :: rest)) (marked : ∀ other ∈ marks, combiningClass other ≠ 0)
    (combines : combiningClass mark ≠ 0) :
    ∀ other ∈ marks, combiningClass other ≤ combiningClass mark := by
  induction marks with
  | nil => simp
  | cons first others ih =>
    rw [List.forall_mem_cons] at marked
    have later := ih (List.IsChain.of_cons ordered) marked.2
    refine List.forall_mem_cons.2 ⟨?_, later⟩
    cases others with
    | nil =>
      rcases (List.isChain_cons_cons.1 ordered).1 with starts | below
      · exact absurd starts combines
      · exact below
    | cons second others =>
      rcases (List.isChain_cons_cons.1 ordered).1 with starts | below
      · exact absurd starts (marked.2 second List.mem_cons_self)
      · exact Nat.le_trans below (later second List.mem_cons_self)

theorem insertMark_of_le {marks : List Char} {mark : Char}
    (below : ∀ other ∈ marks, combiningClass other ≤ combiningClass mark) :
    insertMark mark marks = marks ++ [mark] := by
  induction marks with
  | nil => rfl
  | cons other rest ih =>
    rw [List.forall_mem_cons] at below
    rw [insertMark, if_pos below.1, ih below.2, List.cons_append]

theorem reorderAfter_of_ordered {marks text : List Char} (ordered : Ordered (marks ++ text))
    (marked : ∀ mark ∈ marks, combiningClass mark ≠ 0) :
    reorderAfter marks text = marks ++ text := by
  induction text generalizing marks with
  | nil => rw [reorderAfter, List.append_nil]
  | cons c rest ih =>
    rw [reorderAfter]
    split
    · have tail : Ordered ([] ++ rest) := (List.isChain_append.1 ordered).2.1.of_cons
      rw [ih tail (by simp), List.nil_append]
    · next combines =>
      have below := ordered.le_of_mem marked combines
      rw [List.append_cons] at ordered ⊢
      rw [insertMark_of_le below, ih ordered]
      intro mark member
      rcases List.mem_append.1 member with old | new
      · exact marked mark old
      · exact List.mem_singleton.1 new ▸ combines

/-- A starter ends what is put in order. -/
theorem reorderAfter_append_cons {c : Char} (starts : combiningClass c = 0) (rest : List Char)
    (marks text : List Char) :
    reorderAfter marks (text ++ c :: rest) =
      reorderAfter marks text ++ c :: reorderAfter [] rest := by
  induction text generalizing marks with
  | nil => simp only [List.nil_append, reorderAfter, if_pos starts]
  | cons first text ih =>
    rw [List.cons_append, reorderAfter, reorderAfter]
    split
    · rw [ih, List.append_assoc, List.cons_append]
    · exact ih _

end Homophone.Unicode
