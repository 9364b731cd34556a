import Homophone.Language
import Mathlib.Data.List.Infix

/-! The first distinct members of a list: what a bounded set keeps of the things put into it.

A list may be cut down to its first `n` distinct members before it is continued or mapped, and the
first `n` distinct members of the outcome stay what they were.
-/

set_option autoImplicit false

namespace Homophone

section Duplicates

variable {α β : Type} [DecidableEq α] [DecidableEq β]

theorem eraseDups_filter (p : α → Bool) (xs : List α) :
    (xs.filter p).eraseDups = xs.eraseDups.filter p := by
  match xs with
  | [] => rfl
  | x :: rest =>
    have shorter := List.length_filter_le (fun y => !y == x) rest
    have ih := eraseDups_filter p (rest.filter fun y => !y == x)
    rw [List.eraseDups_cons]
    by_cases kept : p x = true
    · rw [List.filter_cons_of_pos kept, List.filter_cons_of_pos kept, List.eraseDups_cons, ← ih,
        List.filter_filter, List.filter_filter]
      simp only [Bool.and_comm]
    · rw [List.filter_cons_of_neg kept, List.filter_cons_of_neg kept, ← ih, List.filter_filter]
      congr 1
      apply List.filter_congr
      intro y _
      by_cases same : y = x <;> simp_all
termination_by xs.length

theorem nodup_eraseDups (xs : List α) : xs.eraseDups.Nodup := by
  match xs with
  | [] => exact List.nodup_nil
  | x :: rest =>
    have shorter := List.length_filter_le (fun y => !y == x) rest
    rw [List.eraseDups_cons]
    exact List.nodup_cons.2 ⟨by simp, nodup_eraseDups _⟩
termination_by xs.length

theorem eraseDups_of_nodup {xs : List α} (distinct : xs.Nodup) : xs.eraseDups = xs := by
  induction xs with
  | nil => rfl
  | cons x rest ih =>
    obtain ⟨fresh, distinct⟩ := List.nodup_cons.1 distinct
    have others : rest.filter (fun y => !y == x) = rest := by
      apply List.filter_eq_self.2
      intro y member
      simp only [Bool.not_eq_true', beq_eq_false_iff_ne]
      exact fun same => fresh (same ▸ member)
    rw [List.eraseDups_cons, others, ih distinct]

theorem eraseDups_eraseDups (xs : List α) : xs.eraseDups.eraseDups = xs.eraseDups :=
  eraseDups_of_nodup (nodup_eraseDups xs)

theorem eraseDups_isPrefix {xs ys : List α} (start : xs <+: ys) :
    xs.eraseDups <+: ys.eraseDups := by
  obtain ⟨rest, rfl⟩ := start
  rw [List.eraseDups_append]
  exact List.prefix_append _ _

/-- Only the distinct members of two lists matter for the distinct members of both. -/
theorem eraseDups_append_congr {xs xs' ys ys' : List α} (first : xs.eraseDups = xs'.eraseDups)
    (second : ys.eraseDups = ys'.eraseDups) : (xs ++ ys).eraseDups = (xs' ++ ys').eraseDups := by
  have members : ∀ y, xs.elem y = xs'.elem y := by
    intro y
    rw [Bool.eq_iff_iff, List.elem_iff, List.elem_iff, ← List.mem_eraseDups, first,
      List.mem_eraseDups]
  rw [List.eraseDups_append, List.eraseDups_append, first, List.removeAll, List.removeAll,
    eraseDups_filter, eraseDups_filter, second]
  simp only [members]

theorem eraseDups_append_of_subset {xs ys : List α} (known : ys ⊆ xs) :
    (xs ++ ys).eraseDups = xs.eraseDups := by
  have nothing : ys.removeAll xs = [] := by
    apply List.filter_eq_nil_iff.2
    intro y member
    simpa using known member
  rw [List.eraseDups_append, nothing, List.eraseDups_nil, List.append_nil]

theorem removeAll_append_left (xs ys zs : List α) :
    (xs ++ ys).removeAll zs = xs.removeAll zs ++ ys.removeAll zs := by
  simp only [List.removeAll, List.filter_append]

theorem removeAll_self (xs : List α) : xs.removeAll xs = [] := by
  simp [List.removeAll]

theorem removeAll_flatMap_filter (f : α → List β) (x : α) (xs : List α) :
    ((xs.filter fun y => !y == x).flatMap f).removeAll (f x) =
      (xs.flatMap f).removeAll (f x) := by
  induction xs with
  | nil => rfl
  | cons y rest ih =>
    by_cases same : y = x
    · subst y
      rw [List.filter_cons_of_neg (by simp), ih, List.flatMap_cons, removeAll_append_left,
        removeAll_self, List.nil_append]
    · rw [List.filter_cons_of_pos (by simpa using same), List.flatMap_cons, List.flatMap_cons,
        removeAll_append_left, removeAll_append_left, ih]

/-- What a member leads to counts once, however often the member occurs. -/
theorem eraseDups_flatMap (f : α → List β) (xs : List α) :
    (xs.eraseDups.flatMap f).eraseDups = (xs.flatMap f).eraseDups := by
  match xs with
  | [] => rfl
  | x :: rest =>
    have shorter := List.length_filter_le (fun y => !y == x) rest
    have ih := eraseDups_flatMap f (rest.filter fun y => !y == x)
    rw [List.eraseDups_cons, List.flatMap_cons, List.flatMap_cons,
      eraseDups_append_congr rfl ih, List.eraseDups_append, List.eraseDups_append,
      removeAll_flatMap_filter]
termination_by xs.length

theorem eraseDups_map {f : α → β} (injective : ∀ x y, f x = f y → x = y) (xs : List α) :
    (xs.map f).eraseDups = xs.eraseDups.map f := by
  match xs with
  | [] => rfl
  | x :: rest =>
    have shorter := List.length_filter_le (fun y => !y == x) rest
    have ih := eraseDups_map injective (rest.filter fun y => !y == x)
    have others : (rest.map f).filter (fun z => !z == f x) =
        (rest.filter fun y => !y == x).map f := by
      rw [List.filter_map]
      congr 1
      apply List.filter_congr
      intro y _
      have same : (f y == f x) = (y == x) := by
        rw [Bool.eq_iff_iff, beq_iff_eq, beq_iff_eq]
        exact ⟨injective y x, congrArg f⟩
      rw [Function.comp_apply, same]
    rw [List.map_cons, List.eraseDups_cons, List.eraseDups_cons, List.map_cons, others, ih]
termination_by xs.length

theorem perm_eraseDups {xs ys : List α} (same : xs.Perm ys) : xs.eraseDups.Perm ys.eraseDups := by
  rw [List.perm_ext_iff_of_nodup (nodup_eraseDups xs) (nodup_eraseDups ys)]
  intro x
  rw [List.mem_eraseDups, List.mem_eraseDups, same.mem_iff]

theorem length_le_length_eraseDups {xs ys : List α} (distinct : xs.Nodup) (members : xs ⊆ ys) :
    xs.length ≤ ys.eraseDups.length :=
  distinct.length_le_of_subset fun _ member => List.mem_eraseDups.2 (members member)

end Duplicates

/-- The first `n` distinct members of a list, each where it first occurs. -/
def firstDistinct {α : Type} [DecidableEq α] (n : Nat) (xs : List α) : List α := xs.eraseDups.take n

section FirstDistinct

variable {α β : Type} [DecidableEq α] [DecidableEq β]

theorem length_firstDistinct (n : Nat) (xs : List α) :
    (firstDistinct n xs).length = min n xs.eraseDups.length :=
  List.length_take

theorem length_firstDistinct_le (n : Nat) (xs : List α) : (firstDistinct n xs).length ≤ n :=
  List.length_take_le n _

theorem nodup_firstDistinct (n : Nat) (xs : List α) : (firstDistinct n xs).Nodup :=
  (nodup_eraseDups xs).sublist (List.take_sublist n _)

theorem firstDistinct_of_nodup {n : Nat} {xs : List α} (distinct : xs.Nodup) :
    firstDistinct n xs = xs.take n := by
  rw [firstDistinct, eraseDups_of_nodup distinct]

theorem firstDistinct_of_length_le {n : Nat} {xs : List α} (few : xs.eraseDups.length ≤ n) :
    firstDistinct n xs = xs.eraseDups :=
  List.take_of_length_le few

theorem firstDistinct_congr {xs ys : List α} (n : Nat) (same : xs.eraseDups = ys.eraseDups) :
    firstDistinct n xs = firstDistinct n ys := by
  rw [firstDistinct, firstDistinct, same]

theorem take_firstDistinct (n m : Nat) (xs : List α) :
    (firstDistinct m xs).take n = firstDistinct (min n m) xs := by
  rw [firstDistinct, firstDistinct, List.take_take]

theorem firstDistinct_firstDistinct {n m : Nat} (fewer : n ≤ m) (xs : List α) :
    firstDistinct n (firstDistinct m xs) = firstDistinct n xs := by
  rw [firstDistinct_of_nodup (nodup_firstDistinct m xs), take_firstDistinct, Nat.min_eq_left fewer]

theorem firstDistinct_isPrefix {n m : Nat} {xs ys : List α} (fewer : n ≤ m) (start : xs <+: ys) :
    firstDistinct n xs <+: firstDistinct m ys :=
  ((eraseDups_isPrefix start).take n).trans (List.take_prefix_take_left fewer)

theorem firstDistinct_of_isPrefix {n : Nat} {xs ys : List α} (start : xs <+: ys)
    (enough : n ≤ xs.eraseDups.length) : firstDistinct n ys = firstDistinct n xs := by
  obtain ⟨rest, same⟩ := eraseDups_isPrefix start
  rw [firstDistinct, firstDistinct, ← same, List.take_append_of_le_length enough]

theorem firstDistinct_append_left (n : Nat) (xs ys : List α) :
    firstDistinct n (firstDistinct n xs ++ ys) = firstDistinct n (xs ++ ys) := by
  by_cases few : xs.eraseDups.length ≤ n
  · rw [firstDistinct_of_length_le few]
    exact firstDistinct_congr n (eraseDups_append_congr (eraseDups_eraseDups xs) rfl)
  · have enough : n ≤ (firstDistinct n xs).eraseDups.length := by
      rw [eraseDups_of_nodup (nodup_firstDistinct n xs), length_firstDistinct]
      omega
    rw [firstDistinct_of_isPrefix (List.prefix_append _ ys) enough,
      firstDistinct_firstDistinct (Nat.le_refl n),
      firstDistinct_of_isPrefix (List.prefix_append xs ys) (by omega)]

theorem firstDistinct_append_right (n : Nat) (xs ys : List α) :
    firstDistinct n (xs ++ firstDistinct n ys) = firstDistinct n (xs ++ ys) := by
  have distinct : firstDistinct n (xs ++ ys.eraseDups) = firstDistinct n (xs ++ ys) :=
    firstDistinct_congr n (eraseDups_append_congr rfl (eraseDups_eraseDups ys))
  by_cases few : ys.eraseDups.length ≤ n
  · rw [firstDistinct_of_length_le few, distinct]
  -- The first `n` distinct members of `ys` alone are enough, wherever `xs` has some of them.
  · have enough : n ≤ (xs ++ firstDistinct n ys).eraseDups.length := by
      have kept := length_le_length_eraseDups (nodup_firstDistinct n ys)
        (List.subset_append_right xs (firstDistinct n ys))
      rw [length_firstDistinct] at kept
      omega
    have start : xs ++ firstDistinct n ys <+: xs ++ ys.eraseDups :=
      (List.prefix_append_right_inj xs).2 (List.take_prefix n ys.eraseDups)
    rw [← firstDistinct_of_isPrefix start enough, distinct]

theorem firstDistinct_append_congr {n : Nat} {xs xs' ys ys' : List α}
    (first : firstDistinct n xs = firstDistinct n xs')
    (second : firstDistinct n ys = firstDistinct n ys') :
    firstDistinct n (xs ++ ys) = firstDistinct n (xs' ++ ys') := by
  rw [← firstDistinct_append_left, ← firstDistinct_append_right, first, second,
    firstDistinct_append_right, firstDistinct_append_left]

omit [DecidableEq α] in
/-- Each part of a list may be replaced by one with the same first `n` distinct members. -/
theorem firstDistinct_flatMap_congr {n : Nat} {f g : α → List β} {xs : List α}
    (same : ∀ x ∈ xs, firstDistinct n (f x) = firstDistinct n (g x)) :
    firstDistinct n (xs.flatMap f) = firstDistinct n (xs.flatMap g) := by
  induction xs with
  | nil => rfl
  | cons x rest ih =>
    rw [List.flatMap_cons, List.flatMap_cons]
    exact firstDistinct_append_congr (same x List.mem_cons_self)
      (ih fun y member => same y (List.mem_cons_of_mem x member))

omit [DecidableEq β] in
theorem flatMap_firstDistinct_isPrefix (n : Nat) (f : α → List β) (xs : List α) :
    (firstDistinct n xs).flatMap f <+: xs.eraseDups.flatMap f :=
  (List.take_prefix n xs.eraseDups).flatMap f

/-- The first `m` distinct members are enough if they lead to `n` distinct things, or if there are
no others. -/
theorem firstDistinct_flatMap_of_enough {n m : Nat} {f : α → List β} {xs : List α}
    (enough : n ≤ ((firstDistinct m xs).flatMap f).eraseDups.length ∨ xs.eraseDups.length ≤ m) :
    firstDistinct n ((firstDistinct m xs).flatMap f) = firstDistinct n (xs.flatMap f) := by
  have distinct : firstDistinct n (xs.eraseDups.flatMap f) = firstDistinct n (xs.flatMap f) :=
    firstDistinct_congr n (eraseDups_flatMap f xs)
  rcases enough with many | few
  · rw [← firstDistinct_of_isPrefix (flatMap_firstDistinct_isPrefix m f xs) many, distinct]
  · rw [firstDistinct_of_length_le few, distinct]

omit [DecidableEq α] in
/-- Before two steps, the outcome of the first may be cut down as a whole or each part of it by
itself, if what is left of the whole is enough. -/
theorem firstDistinct_flatMap_flatMap {γ : Type} [DecidableEq γ] {n m : Nat} {f : α → List β}
    {g : β → List γ} {xs : List α}
    (enough : n ≤ ((firstDistinct m (xs.flatMap f)).flatMap g).eraseDups.length ∨
      (xs.flatMap f).eraseDups.length ≤ m) :
    firstDistinct n ((firstDistinct m (xs.flatMap f)).flatMap g) =
      firstDistinct n (xs.flatMap fun x => (firstDistinct m (f x)).flatMap g) := by
  have cut : firstDistinct m (xs.flatMap f) =
      firstDistinct m (xs.flatMap fun x => firstDistinct m (f x)) :=
    firstDistinct_flatMap_congr fun x _ => (firstDistinct_firstDistinct (Nat.le_refl m) (f x)).symm
  have fewer : (xs.flatMap fun x => firstDistinct m (f x)).eraseDups.length ≤
      (xs.flatMap f).eraseDups.length := by
    refine length_le_length_eraseDups (nodup_eraseDups _) fun y member => ?_
    obtain ⟨x, source, kept⟩ := List.mem_flatMap.1 (List.mem_eraseDups.1 member)
    exact List.mem_flatMap.2 ⟨x, source, List.mem_eraseDups.1 (List.mem_of_mem_take kept)⟩
  rw [cut] at enough ⊢
  rw [← List.flatMap_assoc]
  exact firstDistinct_flatMap_of_enough (enough.imp_right (Nat.le_trans fewer))

/-- If every member leads to something that no other member leads to in the same way, then `n`
distinct members lead to `n` distinct things. -/
theorem firstDistinct_flatMap_source {f : α → List β} (n : Nat) (pick : α → β)
    (picked : ∀ x, pick x ∈ f x) (injective : ∀ x y, pick x = pick y → x = y) (xs : List α) :
    firstDistinct n ((firstDistinct n xs).flatMap f) = firstDistinct n (xs.flatMap f) := by
  apply firstDistinct_flatMap_of_enough
  by_cases few : xs.eraseDups.length ≤ n
  · exact .inr few
  · left
    have separate : ((firstDistinct n xs).map pick).Nodup := by
      refine List.pairwise_map.2 ((nodup_firstDistinct n xs).imp ?_)
      exact fun different same => different (injective _ _ same)
    have reached : (firstDistinct n xs).map pick ⊆ (firstDistinct n xs).flatMap f := by
      intro y member
      obtain ⟨x, source, rfl⟩ := List.mem_map.1 member
      exact List.mem_flatMap.2 ⟨x, source, picked x⟩
    have kept := length_le_length_eraseDups separate reached
    rw [List.length_map, length_firstDistinct] at kept
    omega

theorem firstDistinct_map {f : α → β} (injective : ∀ x y, f x = f y → x = y) (n : Nat)
    (xs : List α) : firstDistinct n (xs.map f) = (firstDistinct n xs).map f := by
  rw [firstDistinct, eraseDups_map injective, firstDistinct, List.map_take]

end FirstDistinct

/-! ## Sets of languages -/

namespace LanguageSet

theorem members_insertAll (set : LanguageSet) (languages : List Language) :
    (set.insertAll languages).members = (set.members ++ languages).eraseDups := by
  induction languages generalizing set with
  | nil =>
    rw [List.append_nil, eraseDups_of_nodup set.nodup]
    rfl
  | cons first rest ih =>
    change ((set.insert first).insertAll rest).members = _
    rw [ih, members_insert]
    split
    · next known =>
      have nothing : (set.members ++ [first]).eraseDups = set.members.eraseDups :=
        eraseDups_append_of_subset (List.cons_subset.2 ⟨known, List.nil_subset _⟩)
      rw [List.append_cons]
      exact eraseDups_append_congr nothing.symm rfl
    · rw [List.append_assoc, List.singleton_append]

theorem members_ofList (languages : List Language) :
    (ofList languages).members = languages.eraseDups :=
  members_insertAll empty languages

end LanguageSet

end Homophone
