import Homophone.Text.Trim

/-! Cutting a text at separators, into words and into lines. -/

set_option autoImplicit false

namespace Homophone.Text

/-- The stretches between the characters that satisfy `p`: always one more than there are such
characters, some of them perhaps empty. -/
def pieces (p : Char → Bool) : List Char → List (List Char)
  | [] => [[]]
  | c :: rest =>
    if p c then [] :: pieces p rest
    else match pieces p rest with
      | [] => [[c]]
      | first :: others => (c :: first) :: others

/-- The stretches that are free of separators and as long as they can be. -/
def runs (p : Char → Bool) (text : List Char) : List (List Char) :=
  (pieces p text).filter (!·.isEmpty)

def words (text : List Char) : List (List Char) := runs Unicode.isWhiteSpace text

def join (separator : List Char) : List (List Char) → List Char
  | [] => []
  | [single] => single
  | first :: rest => first ++ separator ++ join separator rest

def chomp (line : List Char) : List Char :=
  match line.reverse with
  | '\r' :: rest => rest.reverse
  | _ => line

/-- Lines end at a line feed, with or without a carriage return before it. The last line may lack
its line feed; a carriage return without one stays. -/
def lines : List Char → List (List Char)
  | text => go (pieces (· == '\n') text)
where
  go : List (List Char) → List (List Char)
    | [] => []
    | [last] => if last.isEmpty then [] else [last]
    | line :: rest => chomp line :: go rest

@[simp] theorem pieces_ne_nil (p : Char → Bool) (text : List Char) : pieces p text ≠ [] := by
  cases text with
  | nil => simp [pieces]
  | cons c rest =>
    rw [pieces]
    split
    · simp
    · split <;> simp

theorem length_pieces (p : Char → Bool) (text : List Char) :
    (pieces p text).length = text.countP p + 1 := by
  induction text with
  | nil => rfl
  | cons c rest ih =>
    rw [pieces]
    split
    · next separator => simp [ih, separator]
    · next ordinary =>
      cases cut : pieces p rest with
      | nil => exact absurd cut (pieces_ne_nil p rest)
      | cons first others =>
        rw [cut] at ih
        simpa [ordinary] using ih

/-- A separator ends the pieces before it and begins those behind it. -/
theorem pieces_append_cons {p : Char → Bool} {c : Char} (separator : p c = true)
    (before after : List Char) :
    pieces p (before ++ c :: after) = pieces p before ++ pieces p after := by
  induction before with
  | nil => simp [pieces, separator]
  | cons first rest ih =>
    rw [List.cons_append, pieces, pieces, ih]
    split
    · rfl
    · cases cut : pieces p rest with
      | nil => exact absurd cut (pieces_ne_nil p rest)
      | cons piece others => rfl

theorem pieces_of_forall {p : Char → Bool} {text : List Char}
    (ordinary : ∀ c ∈ text, p c = false) : pieces p text = [text] := by
  induction text with
  | nil => rfl
  | cons c rest ih =>
    rw [pieces, ordinary c List.mem_cons_self,
      ih fun other member => ordinary other (List.mem_cons_of_mem c member)]
    rfl

theorem isInfix_of_pieces_eq_cons {p : Char → Bool} {text first : List Char}
    {others : List (List Char)} (cut : pieces p text = first :: others) :
    first <+: text ∧ ∀ piece ∈ others, piece <:+: text := by
  induction text generalizing first others with
  | nil =>
    cases cut
    exact ⟨List.prefix_rfl, by simp⟩
  | cons c rest ih =>
    cases later : pieces p rest with
    | nil => exact absurd later (pieces_ne_nil p rest)
    | cons next behind =>
      obtain ⟨starts, inside⟩ := ih later
      rw [pieces, later] at cut
      -- A separator opens a new first piece; any other character lengthens the one there is.
      split at cut
      · cases cut
        refine ⟨List.nil_prefix, fun piece listed => ?_⟩
        rcases List.mem_cons.1 listed with rfl | listed
        · exact starts.isInfix.trans (List.suffix_cons c rest).isInfix
        · exact (inside piece listed).trans (List.suffix_cons c rest).isInfix
      · cases cut
        exact ⟨List.cons_prefix_cons.2 ⟨rfl, starts⟩, fun piece listed =>
          (inside piece listed).trans (List.suffix_cons c rest).isInfix⟩

theorem isInfix_of_mem_pieces {p : Char → Bool} {text piece : List Char}
    (member : piece ∈ pieces p text) : piece <:+: text := by
  cases cut : pieces p text with
  | nil => exact absurd cut (pieces_ne_nil p text)
  | cons first others =>
    obtain ⟨starts, inside⟩ := isInfix_of_pieces_eq_cons cut
    rw [cut] at member
    rcases List.mem_cons.1 member with rfl | listed
    · exact starts.isInfix
    · exact inside piece listed

theorem length_pieces_le_of_sublist {p : Char → Bool} {text part : List Char}
    (sublist : part.Sublist text) : (pieces p part).length ≤ (pieces p text).length := by
  rw [length_pieces, length_pieces]
  exact Nat.succ_le_succ sublist.countP_le

theorem ordinary_of_mem_pieces {p : Char → Bool} {text piece : List Char}
    (member : piece ∈ pieces p text) {c : Char} (inside : c ∈ piece) : p c = false := by
  induction text generalizing piece with
  | nil => simp_all [pieces]
  | cons first rest ih =>
    rw [pieces] at member
    split at member
    · rcases List.mem_cons.1 member with rfl | later
      · cases inside
      · exact ih later inside
    · next ordinary =>
      cases cut : pieces p rest with
      | nil => exact absurd cut (pieces_ne_nil p rest)
      | cons piece' others =>
        rw [cut] at member ih
        rcases List.mem_cons.1 member with rfl | later
        · rcases List.mem_cons.1 inside with rfl | behind
          · simpa using ordinary
          · exact ih List.mem_cons_self behind
        · exact ih (List.mem_cons_of_mem _ later) inside

theorem pieces_intercalate {p : Char → Bool} {c : Char} (separator : p c = true)
    {texts : List (List Char)} (nonempty : texts ≠ []) :
    pieces p ([c].intercalate texts) = texts.flatMap (pieces p) := by
  induction texts with
  | nil => exact absurd rfl nonempty
  | cons first rest ih =>
    cases rest with
    | nil => simp [List.intercalate]
    | cons second others =>
      have parts : [c].intercalate (first :: second :: others) =
          first ++ c :: [c].intercalate (second :: others) := by simp [List.intercalate]
      rw [parts, pieces_append_cons separator, ih (List.cons_ne_nil _ _), ← List.flatMap_cons]

theorem pieces_intercalate_of_free {c : Char} {texts : List (List Char)} (nonempty : texts ≠ [])
    (free : ∀ text ∈ texts, c ∉ text) : pieces (· == c) ([c].intercalate texts) = texts := by
  have whole : ∀ text ∈ texts, pieces (· == c) text = [text] := fun text member =>
    pieces_of_forall fun other inside =>
      beq_eq_false_iff_ne.2 fun same => free text member (same ▸ inside)
  rw [pieces_intercalate (p := (· == c)) (beq_self_eq_true c) nonempty, List.flatMap_def,
    List.map_congr_left whole, ← List.flatMap_def, List.flatMap_singleton']

theorem mem_join {separator : List Char} {texts : List (List Char)} {c : Char}
    (member : c ∈ join separator texts) : c ∈ separator ∨ ∃ text ∈ texts, c ∈ text := by
  fun_induction join separator texts with
  | case1 => cases member
  | case2 single => exact .inr ⟨single, List.mem_singleton_self single, member⟩
  | case3 first rest several ih =>
    rw [List.mem_append, List.mem_append] at member
    rcases member with (inside | between) | later
    · exact .inr ⟨first, List.mem_cons_self, inside⟩
    · exact .inl between
    · rcases ih later with between | ⟨text, known, inside⟩
      · exact .inl between
      · exact .inr ⟨text, List.mem_cons_of_mem first known, inside⟩

end Homophone.Text
