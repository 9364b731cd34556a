import Homophone.Proofs.Frontier

/-! The ways to choose one text of each of several lists, put together.

The first list varies slowest. Continuing a frontier over one list after another cuts down at every
step, and still leaves the first of all the ways.
-/

set_option autoImplicit false

namespace Homophone

open Frontier (products)

/-- Every choice of one text from each list, put together. -/
def choices : List (List String) → List String
  | [] => [""]
  | first :: rest => products first (choices rest)

/-! ## Products -/

@[simp] theorem products_nil_right (xs : List String) : products xs [] = [] := by
  simp [products]

@[simp] theorem products_one_left (ys : List String) : products [""] ys = ys := by
  simp [products]

@[simp] theorem products_one_right (xs : List String) : products xs [""] = xs := by
  simp [products]

theorem products_singleton_right (xs : List String) (y : String) :
    products xs [y] = xs.map (· ++ y) := by
  simp [products, List.map_eq_flatMap]

theorem products_cons_left (x : String) (xs ys : List String) :
    products (x :: xs) ys = ys.map (x ++ ·) ++ products xs ys := rfl

theorem products_append_left (xs xs' ys : List String) :
    products (xs ++ xs') ys = products xs ys ++ products xs' ys :=
  List.flatMap_append

theorem products_map_left (x : String) (ys zs : List String) :
    products (ys.map (x ++ ·)) zs = (products ys zs).map (x ++ ·) := by
  simp only [products, List.flatMap_map, List.map_flatMap, List.map_map]
  congr 1
  funext y
  congr 1
  funext z
  exact String.append_assoc

theorem products_assoc (xs ys zs : List String) :
    products (products xs ys) zs = products xs (products ys zs) := by
  induction xs with
  | nil => rfl
  | cons x rest ih =>
    rw [products_cons_left, products_cons_left, products_append_left, products_map_left, ih]

theorem firstDistinct_products_left (n : Nat) (xs ys : List String) :
    firstDistinct n (products (firstDistinct n xs) ys) = firstDistinct n (products xs ys) := by
  cases ys with
  | nil => rw [products_nil_right, products_nil_right]
  | cons y rest =>
    refine firstDistinct_flatMap_source n (· ++ y) ?_ ?_ xs
    · exact fun x => List.mem_cons_self
    · exact fun x x' same => String.append_left_inj y |>.1 same

theorem firstDistinct_products_right (n : Nat) (xs ys : List String) :
    firstDistinct n (products xs (firstDistinct n ys)) = firstDistinct n (products xs ys) := by
  refine firstDistinct_flatMap_congr fun x _ => ?_
  have injective : ∀ y y', x ++ y = x ++ y' → y = y' := fun y y' => (String.append_right_inj x).1
  rw [firstDistinct_map injective, firstDistinct_map injective,
    firstDistinct_firstDistinct (Nat.le_refl n)]

/-! ## Choices -/

theorem firstDistinct_choices_congr {α : Type} {n : Nat} {f g : α → List String} {xs : List α}
    (same : ∀ x ∈ xs, firstDistinct n (f x) = firstDistinct n (g x)) :
    firstDistinct n (choices (xs.map f)) = firstDistinct n (choices (xs.map g)) := by
  induction xs with
  | nil => rfl
  | cons x rest ih =>
    have others := ih fun y member => same y (List.mem_cons_of_mem x member)
    rw [List.map_cons, List.map_cons, choices, choices, ← firstDistinct_products_left,
      ← firstDistinct_products_right, same x List.mem_cons_self, others,
      firstDistinct_products_right, firstDistinct_products_left]

/-! ## Continuing frontiers -/

namespace Frontier

/-- `after` is `before` with its candidates continued by `alternatives`, if `before` holds the first
of some texts. -/
structure Extends (before after : Frontier) (alternatives : List String) : Prop where
  cap_eq : after.cap = before.cap
  toList_eq : ∀ texts, before.toList = firstDistinct before.cap texts →
    after.toList = firstDistinct before.cap (products texts alternatives)

theorem extends_expand (frontier : Frontier) (alternatives : List String) :
    frontier.Extends (frontier.expand alternatives) alternatives where
  cap_eq := cap_expand frontier alternatives
  toList_eq texts held := by rw [toList_expand, held, firstDistinct_products_left]

theorem extends_append (frontier : Frontier) (suffix : String) :
    frontier.Extends (frontier.append suffix) [suffix] where
  cap_eq := cap_append frontier suffix
  toList_eq texts held := by
    have injective : ∀ x y, x ++ suffix = y ++ suffix → x = y :=
      fun x y => (String.append_left_inj suffix).1
    rw [toList_append, held, ← firstDistinct_map injective, products_singleton_right]

/-- If every step of a loop continues the candidates by its alternatives, the loop continues them by
every choice of these. -/
theorem extends_foldl {α : Type} {step : Frontier → α → Frontier} {alternatives : α → List String}
    (each : ∀ (frontier : Frontier) (x : α), frontier.Extends (step frontier x) (alternatives x))
    (xs : List α) (frontier : Frontier) :
    frontier.Extends (xs.foldl step frontier) (choices (xs.map alternatives)) := by
  induction xs generalizing frontier with
  | nil =>
    refine ⟨rfl, fun texts held => ?_⟩
    rw [List.map_nil, choices, products_one_right]
    exact held
  | cons x rest ih =>
    have first := each frontier x
    have others := ih (step frontier x)
    refine ⟨others.cap_eq.trans first.cap_eq, fun texts held => ?_⟩
    have reached := first.toList_eq texts held
    rw [← first.cap_eq] at reached
    rw [List.foldl_cons, others.toList_eq _ reached, first.cap_eq, List.map_cons, choices,
      products_assoc]

theorem toList_foldl_seed {α : Type} {step : Frontier → α → Frontier}
    {alternatives : α → List String}
    (each : ∀ (frontier : Frontier) (x : α), frontier.Extends (step frontier x) (alternatives x))
    (xs : List α) (cap : Nat) :
    (xs.foldl step (seed cap)).toList = firstDistinct cap (choices (xs.map alternatives)) := by
  have held : (seed cap).toList = firstDistinct (seed cap).cap [""] := by
    rw [toList_seed, cap_seed]
  have reached := (extends_foldl each xs (seed cap)).toList_eq [""] held
  rw [cap_seed, products_one_left] at reached
  exact reached

end Frontier

end Homophone
