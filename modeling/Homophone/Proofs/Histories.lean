import Homophone.Proofs.Choices
import Mathlib.Data.List.Forall2

/-! What becomes of a frontier over many operations.

A frontier lists its candidates and keeps a second copy of them for looking them up. Every operation
keeps the two in step, so a push never goes by candidates that are not there any more.

Two frontiers with different caps that start alike and go through the same operations never drift
apart: after every operation the smaller one holds the head of what the larger one holds. An
operation only loses candidates behind those that the smaller cap has room for.
-/

set_option autoImplicit false

namespace Homophone.Frontier

inductive Operation where
  | push (candidate : String)
  | expand (alternatives : List String)
  | append (suffix : String)
  | union (other : Frontier)

namespace Operation

def run (frontier : Frontier) : Operation → Frontier
  | push candidate => frontier.push candidate
  | expand alternatives => frontier.expand alternatives
  | append suffix => frontier.append suffix
  | union other => frontier.union other

end Operation

def runAll (frontier : Frontier) (operations : List Operation) : Frontier :=
  operations.foldl Operation.run frontier

/-- The frontiers that come about by operations, those that are merged in included. -/
inductive Built : Frontier → Prop where
  | new (cap : Nat) : Built (.new cap)
  | seed (cap : Nat) : Built (.seed cap)
  | push {frontier : Frontier} (candidate : String) : Built frontier →
      Built (frontier.push candidate)
  | expand {frontier : Frontier} (alternatives : List String) : Built frontier →
      Built (frontier.expand alternatives)
  | append {frontier : Frontier} (suffix : String) : Built frontier →
      Built (frontier.append suffix)
  | union {frontier other : Frontier} : Built frontier → Built other →
      Built (frontier.union other)

/-! ## Well-formed frontiers -/

theorem wellFormed_seed (cap : Nat) : (seed cap).WellFormed :=
  (wellFormed_new cap).push ""

theorem wellFormed_expand (frontier : Frontier) (alternatives : List String) :
    (frontier.expand alternatives).WellFormed :=
  (wellFormed_new frontier.cap).pushAll _

/-- The candidates that are looked up are rewritten together with those that are listed. -/
theorem WellFormed.append {frontier : Frontier} (formed : frontier.WellFormed) (suffix : String) :
    (frontier.append suffix).WellFormed where
  nodup := by
    rw [toList_append]
    refine List.pairwise_map.2 (formed.nodup.imp ?_)
    exact fun different same => different ((String.append_left_inj suffix).1 same)
  length_le := by
    rw [toList_append, cap_append, List.length_map]
    exact formed.length_le
  contains_seen text := by
    rw [Frontier.append]
    split
    · exact formed.contains_seen text
    · rw [Std.TreeSet.contains_ofList, List.contains_iff_mem]
      rfl

/-- What one operation keeps. Nothing is asked of a frontier that is merged in. -/
theorem WellFormed.run {frontier : Frontier} (formed : frontier.WellFormed)
    (operation : Operation) : (operation.run frontier).WellFormed := by
  cases operation with
  | push candidate => exact formed.push candidate
  | expand alternatives => exact wellFormed_expand frontier alternatives
  | append suffix => exact formed.append suffix
  | union other => exact formed.union other

theorem WellFormed.runAll {frontier : Frontier} (formed : frontier.WellFormed)
    (operations : List Operation) : (frontier.runAll operations).WellFormed := by
  induction operations generalizing frontier with
  | nil => exact formed
  | cons operation rest ih => exact ih (formed.run operation)

theorem Built.wellFormed {frontier : Frontier} (built : Built frontier) : frontier.WellFormed := by
  induction built with
  | new cap => exact wellFormed_new cap
  | seed cap => exact wellFormed_seed cap
  | push candidate _ formed => exact formed.run (.push candidate)
  | expand alternatives _ formed => exact formed.run (.expand alternatives)
  | append suffix _ formed => exact formed.run (.append suffix)
  | @union _ other _ _ formed _ => exact formed.run (.union other)

@[simp] theorem cap_run (frontier : Frontier) (operation : Operation) :
    (operation.run frontier).cap = frontier.cap := by
  cases operation with
  | push candidate => exact cap_push frontier candidate
  | expand alternatives => exact cap_expand frontier alternatives
  | append suffix => exact cap_append frontier suffix
  | union other => exact cap_union frontier other

theorem cap_runAll (frontier : Frontier) (operations : List Operation) :
    (frontier.runAll operations).cap = frontier.cap := by
  induction operations generalizing frontier with
  | nil => rfl
  | cons operation rest ih => exact (ih (operation.run frontier)).trans (cap_run frontier operation)

/-! ## Pushes -/

/-- A frontier that has begun empty, or with the empty text, and gone through any operations holds
distinct candidates within its cap, and looks up just these. So `accepts`, the answer to a push, is
yes exactly if the candidate is not there and there is room; the push then puts it at the end, and
one that is refused changes nothing. After an append, what counts are the rewritten candidates. -/
theorem runAll_looks_up_items {cap : Nat} {start : Frontier}
    (begun : start = new cap ∨ start = seed cap) (operations : List Operation) :
    let frontier := start.runAll operations
    frontier.cap = cap ∧ frontier.toList.Nodup ∧ frontier.toList.length ≤ cap ∧
      (∀ text, frontier.seen.contains text = true ↔ text ∈ frontier.toList) ∧
      (∀ candidate,
        (frontier.accepts candidate = true ↔
          candidate ∉ frontier.toList ∧ frontier.toList.length < cap) ∧
        (frontier.accepts candidate = true →
          (frontier.push candidate).toList = frontier.toList ++ [candidate]) ∧
        (frontier.accepts candidate = false → frontier.push candidate = frontier)) ∧
      ∀ suffix candidate,
        (frontier.append suffix).accepts candidate = true ↔
          (∀ text ∈ frontier.toList, text ++ suffix ≠ candidate) ∧
            frontier.toList.length < cap := by
  intro frontier
  obtain ⟨capped, formed⟩ : frontier.cap = cap ∧ frontier.WellFormed := by
    rcases begun with rfl | rfl
    · exact ⟨cap_runAll (new cap) operations, (wellFormed_new cap).runAll operations⟩
    · exact ⟨(cap_runAll (seed cap) operations).trans (cap_seed cap),
        (wellFormed_seed cap).runAll operations⟩
  refine ⟨capped, formed.nodup, capped ▸ formed.length_le, formed.contains_seen, ?_, ?_⟩
  · intro candidate
    refine ⟨?_, fun accepted => (push_of_accepts accepted).1, fun refused => ?_⟩
    · rw [formed.accepts_iff, capped, and_comm]
    · exact push_of_not_accepts (Bool.eq_false_iff.1 refused)
  · intro suffix candidate
    rw [(formed.append suffix).accepts_iff, cap_append, capped, toList_append, List.length_map,
      List.mem_map, and_comm]
    simp only [not_exists, not_and, ne_eq]

theorem runAll_looks_up_items_rewritten :
    let operations := [Operation.expand ["ab", "a"], .union (ofList 1 ["a"]), .append "b"]
    (seed 3 = new 3 ∨ seed 3 = seed 3) ∧
      ((seed 3).runAll operations).toList = ["abb", "ab"] ∧
      ((seed 3).runAll operations).accepts "ab" = false ∧
      ((seed 3).runAll operations).accepts "a" = true ∧
      (((seed 3).runAll operations).push "a").toList = ["abb", "ab", "a"] := by
  intro operations
  have begun : seed 3 = new 3 ∨ seed 3 = seed 3 := .inr rfl
  have items : ((seed 3).runAll operations).toList = ["abb", "ab"] := by decide +kernel
  obtain ⟨_, _, _, _, pushes, _⟩ := runAll_looks_up_items begun operations
  obtain ⟨decides, _, _⟩ := pushes "ab"
  obtain ⟨decides', added, _⟩ := pushes "a"
  rw [items] at decides decides' added
  have accepted : ((seed 3).runAll operations).accepts "a" = true :=
    decides'.2 ⟨by decide, by decide⟩
  refine ⟨begun, items, ?_, accepted, added accepted⟩
  rw [Bool.eq_false_iff, ne_eq, decides]
  exact fun fresh => fresh.1 (by decide)

/-! ## Two caps -/

theorem push_eq_pushAll {frontier : Frontier} (candidate : String) :
    frontier.push candidate = frontier.pushAll [candidate] := by
  rw [pushAll]
  split
  · next full => exact push_of_not_accepts (by simp [accepts, full])
  · rfl

/-- `small` holds the head of what `large` holds, and has the smaller cap. -/
structure HeadOf (small large : Frontier) : Prop where
  cap_le : small.cap ≤ large.cap
  formed : small.WellFormed
  formed' : large.WellFormed
  toList_eq : small.toList = large.toList.take small.cap

namespace HeadOf

variable {small large : Frontier}

theorem eq_firstDistinct (head : small.HeadOf large) :
    small.toList = firstDistinct small.cap large.toList := by
  rw [firstDistinct_of_nodup head.formed'.nodup, head.toList_eq]

theorem of_new {few many : Nat} (ordered : few ≤ many) : (new few).HeadOf (new many) where
  cap_le := ordered
  formed := wellFormed_new few
  formed' := wellFormed_new many
  toList_eq := List.take_nil.symm

/-- What goes into both frontiers may be cut down to what the smaller one has room for. -/
theorem pushAll (head : small.HeadOf large) {texts more : List String}
    (alike : firstDistinct small.cap texts = firstDistinct small.cap more) :
    (small.pushAll texts).HeadOf (large.pushAll more) where
  cap_le := by
    rw [cap_pushAll, cap_pushAll]
    exact head.cap_le
  formed := head.formed.pushAll texts
  formed' := head.formed'.pushAll more
  toList_eq := by
    rw [cap_pushAll, toList_pushAll head.formed, toList_pushAll head.formed', take_firstDistinct,
      Nat.min_eq_left head.cap_le]
    refine firstDistinct_append_congr ?_ alike
    rw [head.eq_firstDistinct, firstDistinct_firstDistinct (Nat.le_refl _)]

theorem push (head : small.HeadOf large) (candidate : String) :
    (small.push candidate).HeadOf (large.push candidate) := by
  rw [push_eq_pushAll, push_eq_pushAll]
  exact head.pushAll rfl

theorem of_seed {few many : Nat} (ordered : few ≤ many) : (seed few).HeadOf (seed many) :=
  (of_new ordered).push ""

/-- Every candidate that the smaller frontier lacks leads to something new, so those that it has are
enough to fill it again. -/
theorem expand (head : small.HeadOf large) (alternatives : List String) :
    (small.expand alternatives).HeadOf (large.expand alternatives) where
  cap_le := by
    rw [cap_expand, cap_expand]
    exact head.cap_le
  formed := wellFormed_expand small alternatives
  formed' := wellFormed_expand large alternatives
  toList_eq := by
    rw [cap_expand, toList_expand, toList_expand, take_firstDistinct, Nat.min_eq_left head.cap_le,
      head.eq_firstDistinct, firstDistinct_products_left]

theorem append (head : small.HeadOf large) (suffix : String) :
    (small.append suffix).HeadOf (large.append suffix) where
  cap_le := by
    rw [cap_append, cap_append]
    exact head.cap_le
  formed := head.formed.append suffix
  formed' := head.formed'.append suffix
  toList_eq := by
    rw [cap_append, toList_append, toList_append, ← List.map_take, head.toList_eq]

end HeadOf

/-- Operations that are the same for two frontiers, the first with room for `few` candidates. What
is merged in may differ, if the first has the head of what the second has. -/
inductive Operation.Alike (few : Nat) : Operation → Operation → Prop where
  | push (candidate : String) : Alike few (.push candidate) (.push candidate)
  | expand (alternatives : List String) : Alike few (.expand alternatives) (.expand alternatives)
  | append (suffix : String) : Alike few (.append suffix) (.append suffix)
  | union (other : Frontier) : Alike few (.union other) (.union other)
  | unionHead {head whole : Frontier} : Built head → Built whole →
      head.toList = whole.toList.take few → Alike few (.union head) (.union whole)

theorem HeadOf.run {small large : Frontier} {operation operation' : Operation}
    (head : small.HeadOf large) (alike : operation.Alike small.cap operation') :
    (operation.run small).HeadOf (operation'.run large) := by
  cases alike with
  | push candidate => exact head.push candidate
  | expand alternatives => exact head.expand alternatives
  | append suffix => exact head.append suffix
  | union other => exact head.pushAll rfl
  | @unionHead first whole _ built same =>
    refine head.pushAll ?_
    rw [same, ← firstDistinct_of_nodup built.wellFormed.nodup,
      firstDistinct_firstDistinct (Nat.le_refl _)]

theorem HeadOf.runAll {few : Nat} {operations operations' : List Operation}
    (alike : List.Forall₂ (Operation.Alike few) operations operations') {small large : Frontier}
    (head : small.HeadOf large) (cap : small.cap = few) :
    (small.runAll operations).HeadOf (large.runAll operations') := by
  induction alike generalizing small large with
  | nil => exact head
  | cons same _ ih => exact ih (head.run (cap ▸ same)) ((cap_run small _).trans cap)

/-- Two frontiers that begin alike with caps `few ≤ many`, both empty or both with the empty text,
and go through the same operations: after each of these the first holds the first `few` candidates
of the second. -/
theorem toList_runAll_of_smaller_cap {few many : Nat} (ordered : few ≤ many)
    {start : Nat → Frontier} (begun : start = new ∨ start = seed)
    {operations operations' : List Operation}
    (alike : List.Forall₂ (Operation.Alike few) operations operations') (count : Nat) :
    ((start few).runAll (operations.take count)).toList =
      ((start many).runAll (operations'.take count)).toList.take few := by
  have passed := List.forall₂_take count alike
  rcases begun with rfl | rfl
  · have head := HeadOf.runAll passed (.of_new ordered) rfl
    rw [head.toList_eq, cap_runAll]
    rfl
  · have head := HeadOf.runAll passed (.of_seed ordered) (cap_seed few)
    rw [head.toList_eq, cap_runAll, cap_seed]

theorem toList_runAll_of_smaller_cap_merged :
    let head := (seed 2).expand ["ax", "b", "d"]
    let whole := (seed 5).expand ["ax", "b", "d"]
    let operations := [Operation.expand ["a", "ab"], .expand ["", "b"], .union head, .append "x"]
    let operations' := [Operation.expand ["a", "ab"], .expand ["", "b"], .union whole, .append "x"]
    2 ≤ 5 ∧ List.Forall₂ (Operation.Alike 2) operations operations' ∧
      ((seed 5).runAll (operations'.take 4)).toList = ["ax", "abx", "abbx", "axx", "bx"] ∧
      ((seed 2).runAll (operations.take 4)).toList = ["ax", "abx"] := by
  intro head whole operations operations'
  have built : Built head := (Built.seed 2).expand _
  have built' : Built whole := (Built.seed 5).expand _
  have same : head.toList = whole.toList.take 2 := by decide +kernel
  have alike : List.Forall₂ (Operation.Alike 2) operations operations' :=
    .cons (.expand _) (.cons (.expand _) (.cons (.unionHead built built' same)
      (.cons (.append _) .nil)))
  have all : ((seed 5).runAll (operations'.take 4)).toList =
      ["ax", "abx", "abbx", "axx", "bx"] := by decide +kernel
  have ordered : 2 ≤ 5 := by decide
  refine ⟨ordered, alike, all, ?_⟩
  rw [toList_runAll_of_smaller_cap ordered (.inr rfl) alike 4, all]
  rfl

end Homophone.Frontier
