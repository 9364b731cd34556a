import Homophone.Proofs.Recomposition

/-! Composing a text part by part.

A character that begins with a starter, and composes with nothing in front of it, begins a part of
its own: what stands before it and what it begins are composed apart from each other. Since composing
keeps the decomposition, and so its length, the whole is left as it is exactly if its parts are.
-/

set_option autoImplicit false

namespace Homophone.Unicode

/-! ## Beginnings -/

theorem splitOnce_ne_nil (c : Char) : splitOnce c ≠ [] := by
  rcases splitOnce_cases c with alone | letters | ⟨_, _, _, parts⟩ | ⟨_, _, _, part⟩ |
    ⟨entry, listed, _, parts⟩
  · simp [alone]
  · have several := length_of_decompose? letters
    intro nothing
    rw [nothing] at several
    simp at several
  · simp [parts]
  · simp [part]
  · have several := composition_tables.several entry listed
    intro nothing
    rw [parts, List.map_eq_nil_iff] at nothing
    rw [nothing] at several
    cases several

theorem decomposeWithin_ne_nil (fuel : Nat) (c : Char) : decomposeWithin fuel c ≠ [] := by
  induction fuel generalizing c with
  | zero => exact List.cons_ne_nil _ _
  | succ fuel ih =>
    rw [decomposeWithin]
    split
    · exact List.cons_ne_nil _ _
    · obtain ⟨part, member⟩ := List.exists_mem_of_ne_nil _ (splitOnce_ne_nil c)
      intro nothing
      exact ih part (List.flatMap_eq_nil_iff.1 nothing part member)

/-- What a character decomposes into begins with another one. -/
def Begins (c first : Char) : Prop := ∃ others, decomposeChar c = first :: others

theorem exists_begins (c : Char) : ∃ first, Begins c first := by
  obtain ⟨first, others, parts⟩ := List.exists_cons_of_ne_nil (decomposeWithin_ne_nil deepestPair c)
  exact ⟨first, others, parts⟩

theorem Undivided.begins {c : Char} (undivided : Undivided c) : Begins c c :=
  ⟨[], undivided.decomposeChar⟩

variable {c first : Char}

theorem decompose_append_cons (begins : Begins c first) (starts : combiningClass first = 0)
    (text rest : List Char) :
    decompose (text ++ c :: rest) = decompose text ++ decompose (c :: rest) := by
  obtain ⟨others, parts⟩ := begins
  have split := reorderAfter_append_cons starts (others ++ rest.flatMap decomposeChar)
  rw [decompose, decompose, decompose, List.flatMap_append, List.flatMap_cons, parts,
    List.cons_append, split, reorderAfter.eq_def _ (first :: _)]
  simp only [starts, if_pos, List.nil_append]

theorem exists_decompose_cons (begins : Begins c first) (starts : combiningClass first = 0)
    (rest : List Char) : ∃ others, decompose (c :: rest) = first :: others := by
  obtain ⟨others, parts⟩ := begins
  rw [decompose, List.flatMap_cons, parts, List.cons_append, reorderAfter, if_pos starts]
  exact ⟨_, rfl⟩

/-! ## Parts -/

/-- A mark of its own or a higher class stands before the next character. -/
def isBlocked (c : Char) : List Char → Bool
  | [] => false
  | mark :: _ => combiningClass c ≤ combiningClass mark

def joined? (starter : Option Char) (marks : List Char) (c : Char) : Option Char :=
  if isBlocked c marks then none else starter.bind (composePair? · c)

section

variable {starter : Option Char} {marks : List Char}

theorem exists_of_joined? {whole : Char} (joins : joined? starter marks c = some whole) :
    ∃ a ∈ starter, composePair? a c = some whole := by
  rw [joined?] at joins
  split at joins
  · cases joins
  · exact Option.bind_eq_some_iff.1 joins

theorem joined?_eq_none (apart : ∀ a ∈ starter, composePair? a c = none) :
    joined? starter marks c = none := by
  rw [joined?, Option.bind_eq_none_iff.2 apart, ite_self]

theorem composeAfter_cons (starter : Option Char) (marks : List Char) (c : Char)
    (rest : List Char) :
    composeAfter starter marks (c :: rest) =
      match joined? starter marks c with
      | some whole => composeAfter (some whole) marks rest
      | none =>
        if combiningClass c = 0 then
          starter.toList ++ marks.reverse ++ composeAfter (some c) [] rest
        else composeAfter starter (c :: marks) rest := by
  rw [composeAfter.eq_def]
  cases marks <;> rfl

theorem composeAfter_of_some {whole : Char} (joins : joined? starter marks c = some whole)
    (rest : List Char) :
    composeAfter starter marks (c :: rest) = composeAfter (some whole) marks rest := by
  rw [composeAfter_cons, joins]

theorem composeAfter_of_starter (alone : joined? starter marks c = none)
    (starts : combiningClass c = 0) (rest : List Char) :
    composeAfter starter marks (c :: rest) =
      starter.toList ++ marks.reverse ++ composeAfter (some c) [] rest := by
  rw [composeAfter_cons, alone]
  exact if_pos starts

theorem composeAfter_of_mark (alone : joined? starter marks c = none)
    (combines : combiningClass c ≠ 0) (rest : List Char) :
    composeAfter starter marks (c :: rest) = composeAfter starter (c :: marks) rest := by
  rw [composeAfter_cons, alone]
  exact if_neg combines

end

/-- A starter that composes with none of the starters that come up ends what is composed. -/
theorem composeAfter_append_cons (plain : Char → Prop)
    (closed : ∀ a b whole, plain a → composePair? a b = some whole → plain whole)
    (starts : combiningClass first = 0) (apart : ∀ a, plain a → composePair? a first = none)
    (starter : Option Char) (marks text rest : List Char) (known : ∀ a ∈ starter, plain a)
    (others : ∀ a ∈ text, combiningClass a = 0 → plain a) :
    composeAfter starter marks (text ++ first :: rest) =
      composeAfter starter marks text ++ composeAfter (some first) [] rest := by
  induction text generalizing starter marks with
  | nil =>
    rw [List.nil_append, composeAfter_of_starter (joined?_eq_none fun a given =>
      apart a (known a given)) starts, composeAfter]
  | cons c text ih =>
    rw [List.forall_mem_cons] at others
    rw [List.cons_append]
    cases joins : joined? starter marks c with
    | some whole =>
      obtain ⟨a, given, pair⟩ := exists_of_joined? joins
      rw [composeAfter_of_some joins, composeAfter_of_some joins]
      exact ih _ _ (by simpa using closed a c whole (known a given) pair) others.2
    | none =>
      by_cases starts : combiningClass c = 0
      · rw [composeAfter_of_starter joins starts, composeAfter_of_starter joins starts,
          ih _ _ (by simpa using others.1 starts) others.2, ← List.append_assoc]
      · rw [composeAfter_of_mark joins starts, composeAfter_of_mark joins starts]
        exact ih _ _ known others.2

theorem compose_append_cons (plain : Char → Prop)
    (closed : ∀ a b whole, plain a → composePair? a b = some whole → plain whole)
    (begins : Begins c first) (starts : combiningClass first = 0)
    (apart : ∀ a, plain a → composePair? a first = none) {text : List Char}
    (others : ∀ a ∈ decompose text, combiningClass a = 0 → plain a) (rest : List Char) :
    compose (text ++ c :: rest) = compose text ++ compose (c :: rest) := by
  obtain ⟨later, parts⟩ := exists_decompose_cons begins starts rest
  rw [compose, compose, compose, decompose_append_cons begins starts, parts,
    composeAfter_append_cons plain closed starts apart none [] _ _ (by simp) others,
    composeAfter_of_starter (joined?_eq_none (by simp)) starts]
  rfl

theorem composeAfter_of_inert (alone : ∀ b, composePair? c b = none) (marks text : List Char) :
    composeAfter (some c) marks text = c :: composeAfter none marks text := by
  induction text generalizing marks with
  | nil => rfl
  | cons next rest ih =>
    have inert : joined? (some c) marks next = none := joined?_eq_none (by simpa using alone next)
    have bare : joined? none marks next = none := joined?_eq_none (by simp)
    by_cases starts : combiningClass next = 0
    · rw [composeAfter_of_starter inert starts, composeAfter_of_starter bare starts]
      rfl
    · rw [composeAfter_of_mark inert starts, composeAfter_of_mark bare starts, ih]

theorem compose_cons_of_inert (undivided : Undivided c) (starts : combiningClass c = 0)
    (alone : ∀ b, composePair? c b = none) (rest : List Char) :
    compose (c :: rest) = c :: compose rest := by
  have parts : decompose (c :: rest) = c :: decompose rest := by
    rw [decompose, List.flatMap_cons, undivided.decomposeChar, List.singleton_append, reorderAfter,
      if_pos starts]
    rfl
  rw [compose, compose, parts, composeAfter_of_starter (joined?_eq_none (by simp)) starts,
    composeAfter_of_inert alone]
  rfl

/-! ## Texts that stay as they are -/

theorem length_decompose_append (first second : List Char) :
    (decompose (first ++ second)).length =
      (decompose first).length + (decompose second).length := by
  have lengths (text : List Char) :
      (decompose text).length = (text.flatMap decomposeChar).length :=
    (reorderAfter_perm [] _).length_eq
  rw [lengths, lengths, lengths, List.flatMap_append, List.length_append]

theorem eq_nil_of_length_decompose {text : List Char} (empty : (decompose text).length = 0) :
    text = [] := by
  cases text with
  | nil => rfl
  | cons c rest =>
    obtain ⟨first, others, parts⟩ := exists_begins c
    have length := length_decompose_append [c] rest
    have nonempty : (decompose [c]).length ≠ 0 := by
      rw [decompose, (reorderAfter_perm [] _).length_eq]
      simp [parts]
    rw [List.singleton_append] at length
    omega

/-- Two parts that are composed apart stay as they are if the whole does. -/
theorem compose_eq_of_append {first second : List Char}
    (same : compose first ++ compose second = first ++ second) :
    compose first = first ∧ compose second = second := by
  -- One of the first parts begins the other, and they are equally long when decomposed.
  have length := congrArg List.length (decompose_compose first)
  have head : compose first = first := by
    rcases List.append_eq_append_iff.1 same with ⟨more, longer, _⟩ | ⟨more, shorter, _⟩
    · have sum := length_decompose_append (compose first) more
      rw [← longer, length] at sum
      rw [eq_nil_of_length_decompose (by omega : (decompose more).length = 0), List.append_nil]
        at longer
      exact longer.symm
    · have sum := length_decompose_append first more
      rw [← shorter, length] at sum
      rw [shorter, eq_nil_of_length_decompose (by omega : (decompose more).length = 0),
        List.append_nil]
  rw [head] at same
  exact ⟨head, List.append_cancel_left same⟩

end Homophone.Unicode
