import Homophone.Regex.Basic
import Mathlib.Data.Finset.Card
import Mathlib.Data.Finset.Range

/-! What a regular expression matches, and that a search finds it.

A search goes through sets of places. A repetition is followed round by round, only from the places
that were new in the last round, and stops when a round brings no new place or the rounds are used
up. There are no more rounds with a new place than there are places.
-/

set_option autoImplicit false

namespace Homophone.Regex

def Times (step : Nat → Nat → Prop) : Nat → Nat → Nat → Prop
  | 0, start, stop => stop = start
  | count + 1, start, stop => ∃ middle, step start middle ∧ Times step count middle stop

/-- What an expression matches: the stretches of a text that begin at `start` and end at `stop`,
counted in characters. -/
def Spans (text : Array Char) : Regex → Nat → Nat → Prop
  | empty, start, stop => stop = start
  | char set, start, stop => stop = start + 1 ∧ ∃ c, text[start]? = some c ∧ set.contains c = true
  | look condition, start, stop =>
    stop = start ∧ condition.holds (charBefore text start) text[start]? = true
  | sequence left right, start, stop =>
    ∃ middle, left.Spans text start middle ∧ right.Spans text middle stop
  | either left right, start, stop => left.Spans text start stop ∨ right.Spans text start stop
  | repeated regex least most, start, stop =>
    -- Rounds beyond the least number, up to the greatest.
    ∃ more, (∀ bound, most = some bound → more ≤ bound - least) ∧
      Times (regex.Spans text) (least + more) start stop
  | group _ regex, start, stop => regex.Spans text start stop

/-! ## Steps -/

section

variable {step : Nat → Nat → Prop}

theorem times_add {count more start stop : Nat} :
    Times step (count + more) start stop ↔
      ∃ middle, Times step count start middle ∧ Times step more middle stop := by
  induction count generalizing start with
  | zero => simp [Times]
  | succ count ih =>
    rw [Nat.succ_add]
    simp only [Times, ih]
    constructor
    · rintro ⟨first, begun, middle, left, right⟩
      exact ⟨middle, ⟨first, begun, left⟩, right⟩
    · rintro ⟨middle, ⟨first, begun, left⟩, right⟩
      exact ⟨first, begun, middle, left, right⟩

theorem Times.le_of_step {limit : Nat} (keeps : ∀ start stop, start ≤ limit → step start stop →
      stop ≤ limit) {count start stop : Nat} (inside : start ≤ limit)
    (reached : Times step count start stop) : stop ≤ limit := by
  induction count generalizing start with
  | zero => exact reached ▸ inside
  | succ count ih =>
    obtain ⟨middle, begun, rest⟩ := reached
    exact ih (keeps start middle inside begun) rest

theorem Times.le {count start stop : Nat} (grows : ∀ start stop, step start stop → start ≤ stop)
    (reached : Times step count start stop) : start ≤ stop := by
  induction count generalizing start with
  | zero => exact Nat.le_of_eq reached.symm
  | succ count ih =>
    obtain ⟨middle, begun, rest⟩ := reached
    exact Nat.le_trans (grows start middle begun) (ih rest)

end

/-! ## Where matches lie -/

theorem Spans.le {text : Array Char} {regex : Regex} {start stop : Nat}
    (matched : regex.Spans text start stop) : start ≤ stop := by
  induction regex generalizing start stop with
  | empty => exact Nat.le_of_eq matched.symm
  | char set =>
    obtain ⟨rfl, _⟩ := matched
    exact Nat.le_succ start
  | look condition =>
    obtain ⟨rfl, _⟩ := matched
    exact Nat.le_refl stop
  | sequence left right ihLeft ihRight =>
    obtain ⟨middle, first, second⟩ := matched
    exact Nat.le_trans (ihLeft first) (ihRight second)
  | either left right ihLeft ihRight => exact matched.elim ihLeft ihRight
  | repeated regex least most ih =>
    obtain ⟨more, _, reached⟩ := matched
    exact reached.le fun _ _ => ih
  | group number regex ih => exact ih matched

theorem Spans.le_size {text : Array Char} {regex : Regex} {start stop : Nat}
    (inside : start ≤ text.size) (matched : regex.Spans text start stop) : stop ≤ text.size := by
  induction regex generalizing start stop with
  | empty => exact matched ▸ inside
  | char set =>
    obtain ⟨rfl, c, here, _⟩ := matched
    exact (Array.getElem?_eq_some_iff.1 here).1
  | look condition =>
    obtain ⟨rfl, _⟩ := matched
    exact inside
  | sequence left right ihLeft ihRight =>
    obtain ⟨middle, first, second⟩ := matched
    exact ihRight (ihLeft inside first) second
  | either left right ihLeft ihRight => exact matched.elim (ihLeft inside) (ihRight inside)
  | repeated regex least most ih =>
    obtain ⟨more, _, reached⟩ := matched
    exact reached.le_of_step (fun _ _ => ih) inside
  | group number regex ih => exact ih inside matched

/-! ## Sets of places -/

theorem mem_fresh (seen : Std.TreeSet Nat) (places : List Nat) (place : Nat) :
    (place ∈ (fresh seen places).1 ↔ place ∈ places ∧ seen.contains place = false) ∧
      ((fresh seen places).2.contains place = true ↔
        seen.contains place = true ∨ place ∈ places) := by
  induction places generalizing seen with
  | nil => simp [fresh]
  | cons first rest ih =>
    rw [fresh]
    split
    · next known =>
      obtain ⟨new, all⟩ := ih seen
      rw [new, all, List.mem_cons]
      grind
    · next unknown =>
      obtain ⟨new, all⟩ := ih (seen.insert first)
      simp only [List.mem_cons, new, all, Std.TreeSet.contains_insert, Bool.or_eq_true,
        Bool.or_eq_false_iff, beq_iff_eq, Std.LawfulEqCmp.compare_eq_iff_eq]
      grind

theorem mem_union {first second : List Nat} {place : Nat} :
    place ∈ union first second ↔ place ∈ first ∨ place ∈ second := by
  rw [union, List.mem_append, (mem_fresh _ _ _).1, Std.TreeSet.contains_ofList,
    List.contains_eq_mem, decide_eq_false_iff_not]
  by_cases known : place ∈ first <;> simp [known]

/-- `advance` takes the places up to `limit` where `step` may start to those where it may stop. -/
structure Follows (limit : Nat) (step : Nat → Nat → Prop) (advance : List Nat → List Nat) :
    Prop where
  mem_iff : ∀ places, (∀ place ∈ places, place ≤ limit) →
    ∀ stop, stop ∈ advance places ↔ ∃ start ∈ places, step start stop
  le_limit : ∀ start stop, start ≤ limit → step start stop → stop ≤ limit

section

variable {limit : Nat} {step : Nat → Nat → Prop} {advance : List Nat → List Nat}

theorem Follows.advance_le (follows : Follows limit step advance) {places : List Nat}
    (inside : ∀ place ∈ places, place ≤ limit) : ∀ place ∈ advance places, place ≤ limit := by
  intro place member
  obtain ⟨start, source, reached⟩ := (follows.mem_iff places inside place).1 member
  exact follows.le_limit start place (inside start source) reached

/-! ## A fixed number of rounds -/

theorem iterate_of_fixed {places : List Nat} (fixed : advance places = places) (count : Nat) :
    iterate advance count places = places := by
  cases count with
  | zero => rfl
  | succ count => rw [iterate, if_pos fixed]

theorem mem_iterate (follows : Follows limit step advance) (count : Nat) {places : List Nat}
    (inside : ∀ place ∈ places, place ≤ limit) {stop : Nat} :
    stop ∈ iterate advance count places ↔ ∃ start ∈ places, Times step count start stop := by
  induction count generalizing places with
  | zero =>
    rw [iterate]
    exact ⟨fun member => ⟨stop, member, rfl⟩, fun ⟨start, member, same⟩ => same ▸ member⟩
  | succ count ih =>
    -- An unchanged set stays so, and the remaining rounds may as well be made.
    have onward : iterate advance (count + 1) places = iterate advance count (advance places) := by
      rw [iterate]
      split
      · next fixed => rw [fixed, iterate_of_fixed fixed]
      · rfl
    rw [onward, ih (follows.advance_le inside)]
    constructor
    · rintro ⟨middle, member, rest⟩
      obtain ⟨start, source, begun⟩ := (follows.mem_iff places inside middle).1 member
      exact ⟨start, source, middle, begun, rest⟩
    · rintro ⟨start, source, middle, begun, rest⟩
      exact ⟨middle, (follows.mem_iff places inside middle).2 ⟨start, source, begun⟩, rest⟩

/-! ## Rounds until nothing is new -/

def unseen (limit : Nat) (seen : Std.TreeSet Nat) : Nat :=
  ((Finset.range (limit + 1)).filter fun place => seen.contains place = false).card

/-- The state of a search: what was seen before the last round has been followed. -/
structure Searched (limit : Nat) (step : Nat → Nat → Prop) (seen : Std.TreeSet Nat)
    (latest : List Nat) : Prop where
  inside : ∀ place, seen.contains place = true → place ≤ limit
  latest_seen : ∀ place ∈ latest, seen.contains place = true
  closed : ∀ start, seen.contains start = true → start ∉ latest →
    ∀ stop, step start stop → seen.contains stop = true

variable {seen : Std.TreeSet Nat} {latest : List Nat}

theorem Searched.latest_le (searched : Searched limit step seen latest) :
    ∀ place ∈ latest, place ≤ limit :=
  fun place member => searched.inside place (searched.latest_seen place member)

theorem Searched.round (follows : Follows limit step advance)
    (searched : Searched limit step seen latest) :
    Searched limit step (fresh seen (advance latest)).2 (fresh seen (advance latest)).1 where
  inside place known := by
    rcases ((mem_fresh _ _ _).2.1 known) with before | reached
    · exact searched.inside place before
    · exact follows.advance_le searched.latest_le place reached
  latest_seen place member := (mem_fresh _ _ _).2.2 (.inr ((mem_fresh _ _ _).1.1 member).1)
  closed start known old stop reached := by
    -- What is not new was seen before, so it was followed before the last round or in it.
    have before : seen.contains start = true := by
      rcases (mem_fresh _ _ _).2.1 known with before | reached
      · exact before
      · exact Bool.not_eq_false _ ▸ fun missing => old ((mem_fresh _ _ _).1.2 ⟨reached, missing⟩)
    apply (mem_fresh _ _ _).2.2
    by_cases last : start ∈ latest
    · exact .inr ((follows.mem_iff latest searched.latest_le stop).2 ⟨start, last, reached⟩)
    · exact .inl (searched.closed start before last stop reached)

theorem unseen_round_lt (follows : Follows limit step advance)
    (searched : Searched limit step seen latest) (more : (fresh seen (advance latest)).1 ≠ []) :
    unseen limit (fresh seen (advance latest)).2 < unseen limit seen := by
  obtain ⟨place, member⟩ := List.exists_mem_of_ne_nil _ more
  obtain ⟨reached, missing⟩ := (mem_fresh _ _ _).1.1 member
  have inside := follows.advance_le searched.latest_le place reached
  apply Finset.card_lt_card
  rw [Finset.ssubset_iff_of_subset]
  · refine ⟨place, by simpa [missing] using Nat.lt_succ_of_le inside, ?_⟩
    rw [Finset.mem_filter, (mem_fresh _ _ _).2.2 (.inr reached)]
    simp
  · intro other left
    rw [Finset.mem_filter, Bool.eq_false_iff, ne_eq, (mem_fresh _ _ _).2, not_or] at left
    rw [Finset.mem_filter, Bool.eq_false_iff]
    exact ⟨left.1, left.2.1⟩

theorem spread_succ (count : Nat) :
    spread advance (count + 1) seen latest =
      if (fresh seen (advance latest)).1 = [] then []
      else (fresh seen (advance latest)).1 ++
        spread advance count (fresh seen (advance latest)).2
          (fresh seen (advance latest)).1 := by
  rw [spread]
  split
  · next nothing => rw [nothing, if_pos rfl]
  · next new known more found => rw [found, if_neg more]

theorem times_of_mem_spread (follows : Follows limit step advance) (count : Nat)
    (searched : Searched limit step seen latest) {stop : Nat}
    (found : stop ∈ spread advance count seen latest) :
    ∃ start ∈ latest, ∃ rounds, rounds ≤ count ∧ Times step rounds start stop := by
  induction count generalizing seen latest with
  | zero => cases found
  | succ count ih =>
    -- The places of the round come from the latest ones in one step.
    have first : ∀ place ∈ (fresh seen (advance latest)).1, ∃ start ∈ latest, step start place :=
      fun place member =>
        (follows.mem_iff latest searched.latest_le place).1 ((mem_fresh _ _ _).1.1 member).1
    rw [spread_succ] at found
    split at found
    · cases found
    · rcases List.mem_append.1 found with new | later
      · obtain ⟨start, source, reached⟩ := first stop new
        exact ⟨start, source, 1, Nat.succ_le_succ (Nat.zero_le count), stop, reached, rfl⟩
      · obtain ⟨middle, new, rounds, few, rest⟩ := ih (searched.round follows) later
        obtain ⟨start, source, begun⟩ := first middle new
        exact ⟨start, source, rounds + 1, Nat.succ_le_succ few, middle, begun, rest⟩

/-- Whatever is reached in as many rounds as are made is seen or found, and whatever is reached at
all, if there are as many rounds as places to be seen. -/
theorem mem_spread_of_times (follows : Follows limit step advance) {count rounds : Nat}
    (searched : Searched limit step seen latest) {start stop : Nat}
    (enough : rounds ≤ count ∨ unseen limit seen ≤ count) (known : seen.contains start = true)
    (reached : Times step rounds start stop) :
    seen.contains stop = true ∨ stop ∈ spread advance count seen latest := by
  induction rounds generalizing start count seen latest with
  | zero => exact .inl (reached ▸ known)
  | succ rounds ih =>
    obtain ⟨middle, begun, rest⟩ := reached
    have inside := follows.le_limit start middle (searched.inside start known) begun
    by_cases before : seen.contains middle = true
    · exact ih searched (enough.imp_left Nat.le_of_succ_le) before rest
    -- A place that was not seen is new in this round, so there is a round to be made.
    · have last : start ∈ latest := Classical.byContradiction fun old =>
        before (searched.closed start known old middle begun)
      have new : middle ∈ (fresh seen (advance latest)).1 :=
        (mem_fresh _ _ _).1.2
          ⟨(follows.mem_iff latest searched.latest_le middle).2 ⟨start, last, begun⟩,
            Bool.eq_false_iff.2 before⟩
      have more := List.ne_nil_of_mem new
      have fewer := unseen_round_lt follows searched more
      cases count with
      | zero => omega
      | succ count =>
        rw [spread_succ, if_neg more, List.mem_append]
        have round := searched.round follows
        have onward : rounds ≤ count ∨ unseen limit (fresh seen (advance latest)).2 ≤ count := by
          omega
        rcases ih round onward (round.latest_seen middle new) rest with seen' | later
        · rcases (mem_fresh _ _ _).2.1 seen' with before | reached
          · exact .inl before
          · by_cases old : seen.contains stop = true
            · exact .inl old
            · exact .inr (.inl ((mem_fresh _ _ _).1.2 ⟨reached, Bool.eq_false_iff.2 old⟩))
        · exact .inr (.inr later)

end

/-! ## Searching -/

theorem unseen_le (limit : Nat) (seen : Std.TreeSet Nat) : unseen limit seen ≤ limit + 1 := by
  rw [unseen]
  exact (Finset.card_filter_le _ _).trans (Finset.card_range _).le

def furtherRounds (size least : Nat) : Option Nat → Nat
  | none => size + 1
  | some most => min (most - least) (size + 1)

theorem furtherRounds_le {size least bound : Nat} {most : Option Nat}
    (bounded : most = some bound) : furtherRounds size least most ≤ bound - least := by
  rw [bounded]
  exact Nat.min_le_left _ _

theorem le_furtherRounds {size least more : Nat} {most : Option Nat}
    (few : ∀ bound, most = some bound → more ≤ bound - least) :
    more ≤ furtherRounds size least most ∨ size + 1 ≤ furtherRounds size least most := by
  cases most with
  | none => exact .inr (Nat.le_refl _)
  | some bound =>
    have few := few bound rfl
    rw [furtherRounds]
    omega

theorem mem_repeated {limit : Nat} {step : Nat → Nat → Prop} {advance : List Nat → List Nat}
    (follows : Follows limit step advance) (least : Nat) (most : Option Nat) {starts : List Nat}
    (inside : ∀ place ∈ starts, place ≤ limit) (stop : Nat) :
    stop ∈ iterate advance least starts ++
        spread advance (furtherRounds limit least most) (.ofList (iterate advance least starts))
          (iterate advance least starts) ↔
      ∃ start ∈ starts, ∃ more, (∀ bound, most = some bound → more ≤ bound - least) ∧
        Times step (least + more) start stop := by
  have least_iff := @mem_iterate limit step advance follows least starts inside
  generalize iterate advance least starts = reached at least_iff ⊢
  have seen_iff : ∀ place, (Std.TreeSet.ofList reached).contains place = true ↔ place ∈ reached :=
    fun place => by rw [Std.TreeSet.contains_ofList, List.contains_iff_mem]
  have searched : Searched limit step (.ofList reached) reached := by
    refine ⟨fun place known => ?_, fun place => (seen_iff place).2, fun start known old => ?_⟩
    · obtain ⟨start, source, times⟩ := least_iff.1 ((seen_iff place).1 known)
      exact times.le_of_step follows.le_limit (inside start source)
    · exact absurd ((seen_iff start).1 known) old
  rw [List.mem_append]
  constructor
  · rintro (early | late)
    · obtain ⟨start, source, times⟩ := least_iff.1 early
      exact ⟨start, source, 0, fun _ _ => Nat.zero_le _, times⟩
    · obtain ⟨middle, early, more, few, rest⟩ := times_of_mem_spread follows _ searched late
      obtain ⟨start, source, times⟩ := least_iff.1 early
      refine ⟨start, source, more, fun bound bounded => ?_, times_add.2 ⟨middle, times, rest⟩⟩
      exact Nat.le_trans few (furtherRounds_le bounded)
  · rintro ⟨start, source, more, few, times⟩
    obtain ⟨middle, first, rest⟩ := times_add.1 times
    have early := least_iff.2 ⟨start, source, first⟩
    have enough := (le_furtherRounds few).imp_right
      (Nat.le_trans (unseen_le limit (.ofList reached)))
    have found := mem_spread_of_times follows searched enough ((seen_iff middle).2 early) rest
    exact found.imp_left (seen_iff stop).1

theorem follows_ends (text : Array Char) (regex : Regex) :
    Follows text.size (regex.Spans text) (regex.ends text) := by
  refine ⟨?_, fun _ _ => Spans.le_size⟩
  induction regex with
  | empty => simp [ends, Spans]
  | char set =>
    intro starts inside stop
    simp only [ends, Spans, List.mem_map, List.mem_filter, Option.any_eq_true]
    constructor
    · rintro ⟨start, ⟨source, c, here, member⟩, rfl⟩
      exact ⟨start, source, rfl, c, here, member⟩
    · rintro ⟨start, source, rfl, c, here, member⟩
      exact ⟨start, ⟨source, c, here, member⟩, rfl⟩
  | look condition =>
    intro starts inside stop
    simp only [ends, Spans, List.mem_filter]
    constructor
    · rintro ⟨source, holds⟩
      exact ⟨stop, source, rfl, holds⟩
    · rintro ⟨start, source, rfl, holds⟩
      exact ⟨source, holds⟩
  | sequence left right ihLeft ihRight =>
    intro starts inside stop
    have follows : Follows text.size (left.Spans text) (left.ends text) :=
      ⟨ihLeft, fun _ _ => Spans.le_size⟩
    rw [ends, ihRight _ (follows.advance_le inside)]
    simp only [ihLeft starts inside, Spans]
    constructor
    · rintro ⟨middle, ⟨start, source, first⟩, second⟩
      exact ⟨start, source, middle, first, second⟩
    · rintro ⟨start, source, middle, first, second⟩
      exact ⟨middle, ⟨start, source, first⟩, second⟩
  | either left right ihLeft ihRight =>
    intro starts inside stop
    rw [ends, mem_union, ihLeft starts inside, ihRight starts inside]
    simp only [Spans, and_or_left, exists_or]
  | repeated regex least most ih =>
    intro starts inside stop
    have follows : Follows text.size (regex.Spans text) (regex.ends text) :=
      ⟨ih, fun _ _ => Spans.le_size⟩
    have found := mem_repeated follows least most inside stop
    cases most <;> exact found
  | group number regex ih => exact ih

/-- A search finds a match exactly if there is one. -/
theorem occursIn_iff {regex : Regex} {text : List Char} :
    regex.occursIn text = true ↔
      ∃ start ≤ text.length, ∃ stop, regex.Spans text.toArray start stop := by
  have inside : ∀ place ∈ List.range (text.length + 1), place ≤ text.toArray.size := by
    intro place member
    rw [List.size_toArray]
    exact Nat.le_of_lt_succ (List.mem_range.1 member)
  have found := (follows_ends text.toArray regex).mem_iff _ inside
  rw [occursIn, Bool.not_eq_true', List.isEmpty_eq_false_iff_exists_mem]
  simp only [found, List.mem_range, Nat.lt_succ_iff]
  constructor
  · rintro ⟨stop, start, source, matched⟩
    exact ⟨start, source, stop, matched⟩
  · rintro ⟨start, source, stop, matched⟩
    exact ⟨stop, start, source, matched⟩

/-! ## Anchors -/

/-- With the end of the text demanded behind it, an expression is found exactly if it has a match
that ends there. -/
theorem occursIn_textEnd_iff {regex : Regex} {number : Option Nat} {text : List Char} :
    (sequence (group number regex) (look .textEnd)).occursIn text = true ↔
      ∃ start, regex.Spans text.toArray start text.length := by
  rw [occursIn_iff]
  constructor
  · rintro ⟨start, source, stop, middle, matched, rfl, last⟩
    have inside := Spans.le_size (by simpa using source) matched
    have beyond : text.length ≤ stop := by simpa [Look.holds] using last
    exact ⟨start, Nat.le_antisymm (by simpa using inside) beyond ▸ matched⟩
  · rintro ⟨start, matched⟩
    exact ⟨start, Spans.le matched, text.length, text.length, matched, rfl, by
      simp [Look.holds]⟩

theorem occursIn_textStart_iff {regex : Regex} {number : Option Nat} {text : List Char} :
    (sequence (look .textStart) (group number regex)).occursIn text = true ↔
      ∃ stop, regex.Spans text.toArray 0 stop := by
  rw [occursIn_iff]
  constructor
  · rintro ⟨start, source, stop, middle, ⟨rfl, first⟩, matched⟩
    cases middle with
    | zero => exact ⟨stop, matched⟩
    | succ place =>
      have inside : place < text.length := source
      simp [Look.holds, charBefore, inside] at first
  · rintro ⟨stop, matched⟩
    exact ⟨0, Nat.zero_le _, stop, 0, ⟨rfl, rfl⟩, matched⟩

end Homophone.Regex
