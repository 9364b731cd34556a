import Homophone.Frontier
import Homophone.Proofs.FirstDistinct

/-! What a frontier holds after each operation.

A well-formed frontier holds distinct candidates within its cap, and looks them up truly. Every
operation keeps that, and leaves the first distinct texts, up to the cap, of those it generates.
-/

set_option autoImplicit false

namespace Homophone.Frontier

structure WellFormed (frontier : Frontier) : Prop where
  nodup : frontier.toList.Nodup
  length_le : frontier.toList.length ≤ frontier.cap
  contains_seen : ∀ text, frontier.seen.contains text = true ↔ text ∈ frontier.toList

theorem size_eq (frontier : Frontier) : frontier.size = frontier.toList.length :=
  Array.length_toList.symm

theorem isFull_iff {frontier : Frontier} :
    frontier.isFull = true ↔ frontier.cap ≤ frontier.toList.length := by
  rw [isFull, size_eq, decide_eq_true_iff]

/-! ## Adding candidates -/

theorem wellFormed_new (cap : Nat) : (new cap).WellFormed where
  nodup := List.nodup_nil
  length_le := Nat.zero_le cap
  contains_seen text := by simp [new, toList]

theorem push_of_accepts {frontier : Frontier} {candidate : String}
    (accepted : frontier.accepts candidate = true) :
    (frontier.push candidate).toList = frontier.toList ++ [candidate] ∧
      (frontier.push candidate).seen = frontier.seen.insert candidate := by
  rw [push, if_pos accepted]
  exact ⟨Array.toList_push, rfl⟩

theorem push_of_not_accepts {frontier : Frontier} {candidate : String}
    (refused : ¬frontier.accepts candidate = true) : frontier.push candidate = frontier :=
  if_neg refused

theorem WellFormed.accepts_iff {frontier : Frontier} (formed : frontier.WellFormed)
    {candidate : String} :
    frontier.accepts candidate = true ↔
      frontier.toList.length < frontier.cap ∧ candidate ∉ frontier.toList := by
  have known := formed.contains_seen candidate
  rw [accepts, Bool.and_eq_true, Bool.not_eq_true', Bool.not_eq_true', Bool.eq_false_iff,
    Bool.eq_false_iff, ne_eq, ne_eq, isFull_iff, known, Nat.not_le]

@[simp] theorem cap_push (frontier : Frontier) (candidate : String) :
    (frontier.push candidate).cap = frontier.cap := by
  rw [push]
  split <;> rfl

theorem WellFormed.push {frontier : Frontier} (formed : frontier.WellFormed) (candidate : String) :
    (frontier.push candidate).WellFormed := by
  by_cases accepted : frontier.accepts candidate = true
  · obtain ⟨room, fresh⟩ := formed.accepts_iff.1 accepted
    obtain ⟨items, seen⟩ := push_of_accepts accepted
    constructor
    · rw [items, List.nodup_append]
      refine ⟨formed.nodup, by simp, ?_⟩
      rintro text member _ last rfl
      exact fresh (List.mem_singleton.1 last ▸ member)
    · rw [items, cap_push, List.length_append]
      exact room
    · intro text
      rw [items, seen, Std.TreeSet.contains_insert, Bool.or_eq_true, formed.contains_seen,
        beq_iff_eq, Std.LawfulEqCmp.compare_eq_iff_eq, List.mem_append, List.mem_singleton, or_comm,
        eq_comm]
  · rw [push_of_not_accepts accepted]
    exact formed

@[simp] theorem cap_pushAll (frontier : Frontier) (candidates : List String) :
    (frontier.pushAll candidates).cap = frontier.cap := by
  induction candidates generalizing frontier with
  | nil => rfl
  | cons candidate rest ih =>
    rw [pushAll]
    split
    · rfl
    · rw [ih, cap_push]

theorem WellFormed.pushAll {frontier : Frontier} (formed : frontier.WellFormed)
    (candidates : List String) : (frontier.pushAll candidates).WellFormed := by
  induction candidates generalizing frontier with
  | nil => exact formed
  | cons candidate rest ih =>
    rw [Frontier.pushAll]
    split
    · exact formed
    · exact ih (formed.push candidate)

theorem WellFormed.firstDistinct_append_of_full {frontier : Frontier}
    (formed : frontier.WellFormed) (full : frontier.isFull = true) (texts : List String) :
    firstDistinct frontier.cap (frontier.toList ++ texts) = frontier.toList := by
  have enough : frontier.cap ≤ frontier.toList.eraseDups.length := by
    rw [eraseDups_of_nodup formed.nodup]
    exact isFull_iff.1 full
  rw [firstDistinct_of_isPrefix (List.prefix_append _ texts) enough,
    firstDistinct_of_nodup formed.nodup, List.take_of_length_le formed.length_le]

theorem toList_pushAll {frontier : Frontier} (formed : frontier.WellFormed)
    (candidates : List String) :
    (frontier.pushAll candidates).toList =
      firstDistinct frontier.cap (frontier.toList ++ candidates) := by
  induction candidates generalizing frontier with
  | nil =>
    rw [List.append_nil, firstDistinct_of_nodup formed.nodup,
      List.take_of_length_le formed.length_le]
    rfl
  | cons candidate rest ih =>
    rw [pushAll]
    split
    · next full => exact (formed.firstDistinct_append_of_full full _).symm
    · next room =>
      rw [ih (formed.push candidate), cap_push, List.append_cons frontier.toList]
      by_cases accepted : frontier.accepts candidate = true
      · rw [(push_of_accepts accepted).1]
      -- There is room, so a candidate that is refused is there already.
      · have present : candidate ∈ frontier.toList := by
          rw [isFull_iff, Nat.not_le] at room
          exact Classical.byContradiction fun fresh =>
            accepted (formed.accepts_iff.2 ⟨room, fresh⟩)
        rw [push_of_not_accepts accepted]
        refine firstDistinct_congr _ (eraseDups_append_congr ?_ rfl)
        exact (eraseDups_append_of_subset (by simpa using present)).symm

theorem toList_ofList (cap : Nat) (candidates : List String) :
    (ofList cap candidates).toList = firstDistinct cap candidates :=
  toList_pushAll (wellFormed_new cap) candidates

theorem seed_eq_ofList (cap : Nat) : seed cap = ofList cap [""] := by
  rw [seed, ofList, pushAll]
  split
  · next full => exact push_of_not_accepts (by simp [accepts, full])
  · rfl

@[simp] theorem cap_seed (cap : Nat) : (seed cap).cap = cap :=
  cap_push (new cap) ""

theorem toList_seed (cap : Nat) : (seed cap).toList = firstDistinct cap [""] := by
  rw [seed_eq_ofList, toList_ofList]

/-! ## Merging -/

theorem WellFormed.union {frontier : Frontier} (formed : frontier.WellFormed) (other : Frontier) :
    (frontier.union other).WellFormed :=
  formed.pushAll other.toList

theorem toList_union {frontier : Frontier} (formed : frontier.WellFormed) (other : Frontier) :
    (frontier.union other).toList =
      firstDistinct frontier.cap (frontier.toList ++ other.toList) :=
  toList_pushAll formed other.toList

@[simp] theorem cap_union (frontier other : Frontier) : (frontier.union other).cap = frontier.cap :=
  cap_pushAll frontier other.toList

/-- `after` is `before` with `texts` put into it. -/
structure Adds (before after : Frontier) (texts : List String) : Prop where
  cap_eq : after.cap = before.cap
  wellFormed : after.WellFormed
  toList_eq : after.toList = firstDistinct before.cap (before.toList ++ texts)

theorem WellFormed.adds_nil {frontier : Frontier} (formed : frontier.WellFormed) :
    frontier.Adds frontier [] where
  cap_eq := rfl
  wellFormed := formed
  toList_eq := toList_pushAll formed []

theorem WellFormed.adds_of_full {frontier : Frontier} (formed : frontier.WellFormed)
    (full : frontier.isFull = true) (texts : List String) : frontier.Adds frontier texts where
  cap_eq := rfl
  wellFormed := formed
  toList_eq := (formed.firstDistinct_append_of_full full texts).symm

/-- What another frontier leaves out beyond its cap is not missed. -/
theorem WellFormed.adds_union {frontier other : Frontier} (formed : frontier.WellFormed)
    {texts : List String} (kept : other.toList = firstDistinct frontier.cap texts) :
    frontier.Adds (frontier.union other) texts where
  cap_eq := cap_union frontier other
  wellFormed := formed.union other
  toList_eq := by rw [toList_union formed, kept, firstDistinct_append_right]

theorem Adds.trans {first second third : Frontier} {texts more : List String}
    (left : first.Adds second texts) (right : second.Adds third more) :
    first.Adds third (texts ++ more) where
  cap_eq := right.cap_eq.trans left.cap_eq
  wellFormed := right.wellFormed
  toList_eq := by
    rw [right.toList_eq, left.toList_eq, left.cap_eq, firstDistinct_append_left,
      List.append_assoc]

theorem WellFormed.adds_foldl {α : Type} {step : Frontier → α → Frontier} {texts : α → List String}
    {cap : Nat}
    (each : ∀ (frontier : Frontier) (x : α), frontier.WellFormed → frontier.cap = cap →
      frontier.Adds (step frontier x) (texts x))
    (xs : List α) {frontier : Frontier} (formed : frontier.WellFormed)
    (same : frontier.cap = cap) :
    frontier.Adds (xs.foldl step frontier) (xs.flatMap texts) := by
  induction xs generalizing frontier with
  | nil => exact formed.adds_nil
  | cons x rest ih =>
    have added := each frontier x formed same
    exact added.trans (ih added.wellFormed (added.cap_eq.trans same))

/-! ## Continuing candidates -/

@[simp] theorem cap_expand (frontier : Frontier) (alternatives : List String) :
    (frontier.expand alternatives).cap = frontier.cap :=
  cap_pushAll _ _

theorem toList_expand (frontier : Frontier) (alternatives : List String) :
    (frontier.expand alternatives).toList =
      firstDistinct frontier.cap (products frontier.toList alternatives) :=
  toList_ofList _ _

@[simp] theorem cap_append (frontier : Frontier) (suffix : String) :
    (frontier.append suffix).cap = frontier.cap := by
  rw [append]
  split <;> rfl

theorem toList_append (frontier : Frontier) (suffix : String) :
    (frontier.append suffix).toList = frontier.toList.map (· ++ suffix) := by
  rw [append]
  split
  · next empty =>
    rw [String.isEmpty_iff] at empty
    simp [empty]
  · exact Array.toList_map

end Homophone.Frontier
