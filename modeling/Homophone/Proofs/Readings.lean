import Homophone.Regex.Reader

/-! Readers put together from smaller ones, and what they make of a text that goes on.

A reader is run on a text alone and on the text with a closing parenthesis behind it. It must not
notice the parenthesis before it has read the text: where it succeeds alone, it succeeds with the
same outcome and leaves the parenthesis, or an open comment swallows it; where it fails alone, it
fails or reads past the parenthesis. With nothing behind the text, this says that the fuel does not
matter.
-/

set_option autoImplicit false

namespace Homophone.Regex.Reader

/-- A reader of one thing, which gives it back together with the text that is left. -/
abbrev Reading (α : Type) := List Char → Option (α × List Char)

namespace Reading

variable {α β : Type}

def done (x : α) : Reading α := fun text => some (x, text)

def fail : Reading α := fun _ => none

def of (outcome : Option α) : Reading α := fun text => outcome.map fun x => (x, text)

def andThen (first : Reading α) (second : α → Reading β) : Reading β := fun text =>
  (first text).bind fun (x, left) => second x left

def blanks (verbose : Bool) : Reading Unit := fun text => some ((), skip verbose text)

theorem blanks_andThen (verbose : Bool) (later : Unit → Reading β) (text : List Char) :
    (blanks verbose).andThen later text = later () (skip verbose text) := rfl

def byNext (each : Char → Reading α) : Reading α
  | [] => none
  | c :: rest => each c rest

theorem byNext_andThen (each : Char → Reading α) (later : α → Reading β) :
    (byNext fun c => (each c).andThen later) = (byNext each).andThen later := by
  funext text
  cases text <;> rfl

def ifNext (p : Char → Bool) (behind : Char → Reading α) (otherwise : Reading α) : Reading α
  | [] => otherwise []
  | c :: rest => if p c then behind c rest else otherwise (c :: rest)

theorem head_ne {c d : Char} {rest : List Char} (other : ∀ more, c :: rest = d :: more → False) :
    c ≠ d :=
  fun same => other rest (congrArg (· :: rest) same)

theorem ifNext_self (c : Char) (behind : Char → Reading α) (otherwise : Reading α)
    (rest : List Char) : ifNext (· == c) behind otherwise (c :: rest) = behind c rest :=
  if_pos (beq_self_eq_true c)

theorem ifNext_of_ne {c : Char} (behind : Char → Reading α) (otherwise : Reading α)
    {text : List Char} (other : ∀ rest, text = c :: rest → False) :
    ifNext (· == c) behind otherwise text = otherwise text := by
  cases text with
  | nil => rfl
  | cons d rest =>
    exact if_neg fun same => head_ne other (beq_iff_eq.1 same)

def ifText (p : List Char → Bool) (holds otherwise : Reading α) : Reading α := fun text =>
  if p text then holds text else otherwise text

/-- A reader whose fuel is the number of characters, and one more. -/
def sized (read : Nat → Reading α) : Reading α := fun text => read (text.length + 1) text

/-! ## What is left -/

/-- What is left is an end of the text. -/
def Shrinks (read : Reading α) : Prop :=
  ∀ ⦃text x left⦄, read text = some (x, left) → left <:+ text

theorem shrinks_done (x : α) : Shrinks (done x) := by
  intro text y left found
  cases found
  exact List.suffix_refl text

theorem shrinks_fail : Shrinks (fail : Reading α) := fun _ _ _ found => nomatch found

theorem Shrinks.andThen {first : Reading α} {second : α → Reading β} (before : Shrinks first)
    (after : ∀ x, Shrinks (second x)) : Shrinks (first.andThen second) := by
  intro text y left found
  obtain ⟨⟨x, middle⟩, read, later⟩ := Option.bind_eq_some_iff.1 found
  exact (after x later).trans (before read)

theorem skipComments_isSuffix (comment : Bool) (text : List Char) :
    skipComments comment text <:+ text := by
  induction text generalizing comment with
  | nil => exact List.suffix_refl []
  | cons c rest ih =>
    have later : ∀ comment, skipComments comment rest <:+ c :: rest :=
      fun comment => (ih comment).trans (List.suffix_cons c rest)
    cases comment with
    | true => exact later _
    | false =>
      rw [skipComments]
      split
      · exact later false
      · split
        · exact later true
        · exact List.suffix_refl _

theorem skip_isSuffix (verbose : Bool) (text : List Char) : skip verbose text <:+ text := by
  rw [skip]
  split
  · exact skipComments_isSuffix false text
  · exact List.suffix_refl text

theorem shrinks_blanks (verbose : Bool) : Shrinks (blanks verbose) := by
  intro text x left found
  cases found
  exact skip_isSuffix verbose text

theorem shrinks_byNext {each : Char → Reading α} (shrinks : ∀ c, Shrinks (each c)) :
    Shrinks (byNext each) := by
  intro text x left found
  cases text with
  | nil => cases found
  | cons c rest => exact (shrinks c found).trans (List.suffix_cons c rest)

theorem shrinks_ifNext {p : Char → Bool} {behind : Char → Reading α} {otherwise : Reading α}
    (shrinks : ∀ c, Shrinks (behind c)) (shrinks' : Shrinks otherwise) :
    Shrinks (ifNext p behind otherwise) := by
  intro text x left found
  cases text with
  | nil => exact shrinks' found
  | cons c rest =>
    rw [ifNext] at found
    split at found
    · exact (shrinks c found).trans (List.suffix_cons c rest)
    · exact shrinks' found

theorem ifText_of_not_starts {word text : List Char} (holds otherwise : Reading α)
    (other : ∀ rest, text = word ++ rest → False) :
    ifText word.isPrefixOf holds otherwise text = otherwise text :=
  if_neg fun here =>
    have ⟨rest, same⟩ := List.isPrefixOf_iff_prefix.1 here
    other rest same.symm

theorem shrinks_ifText {p : List Char → Bool} {holds otherwise : Reading α}
    (shrinks : Shrinks holds) (shrinks' : Shrinks otherwise) :
    Shrinks (ifText p holds otherwise) := by
  intro text x left found
  rw [ifText] at found
  split at found
  · exact shrinks found
  · exact shrinks' found

/-! ## Texts that go on -/

/-- What may stand behind a text: nothing, or the parenthesis that closes a group around it, and
perhaps an anchor. -/
inductive Closing : List Char → Prop where
  | nothing : Closing []
  | group : Closing [')']
  | anchored : Closing [')', '$']

/-- How reading a text and reading it with `tail` behind it may end: alike, apart from `tail` being
left or swallowed by a comment, or in a failure without `tail` and not all of it left with it. -/
inductive Agrees (tail : List Char) : Option (α × List Char) → Option (α × List Char) → Prop where
  | same (x : α) (left : List Char) : Agrees tail (some (x, left)) (some (x, left ++ tail))
  | swallowed (x : α) : Agrees tail (some (x, [])) (some (x, []))
  | lost {within : Option (α × List Char)} :
      (∀ x left, within = some (x, left) → left.length < tail.length) → Agrees tail none within

theorem Agrees.none {tail : List Char} : Agrees tail (none : Option (α × List Char)) none :=
  .lost fun _ _ found => nomatch found

/-- Two readers, the first for texts of less than `n` characters and the second for such texts with
`tail` behind them, that agree. -/
structure Local (tail : List Char) (n : Nat) (alone within : Reading α) : Prop where
  shrinks : Shrinks alone
  shrinks' : Shrinks within
  empty : 0 < n → alone [] = within []
  agrees : ∀ text, text.length < n → Agrees tail (alone text) (within (text ++ tail))

namespace Local

variable {tail : List Char} {n : Nat}

theorem done (x : α) : Local tail n (done x) (done x) where
  shrinks := shrinks_done x
  shrinks' := shrinks_done x
  empty _ := rfl
  agrees text _ := .same x text

theorem fail : Local tail n (fail : Reading α) fail where
  shrinks := shrinks_fail
  shrinks' := shrinks_fail
  empty _ := rfl
  agrees _ _ := .none

theorem of (outcome : Option α) : Local tail n (of outcome) (of outcome) := by
  cases outcome with
  | none => exact fail
  | some x => exact done x

theorem mono {m : Nat} {alone within : Reading α} (fewer : n ≤ m)
    (agree : Local tail m alone within) : Local tail n alone within where
  shrinks := agree.shrinks
  shrinks' := agree.shrinks'
  empty positive := agree.empty (Nat.lt_of_lt_of_le positive fewer)
  agrees text short := agree.agrees text (Nat.lt_of_lt_of_le short fewer)

theorem andThen {first first' : Reading α} {second second' : α → Reading β}
    (before : Local tail n first first') (after : ∀ x, Local tail n (second x) (second' x)) :
    Local tail n (first.andThen second) (first'.andThen second') where
  shrinks := before.shrinks.andThen fun x => (after x).shrinks
  shrinks' := before.shrinks'.andThen fun x => (after x).shrinks'
  empty positive := by
    rw [Reading.andThen, Reading.andThen, before.empty positive]
    cases read : first' [] with
    | none => rfl
    | some found =>
      obtain ⟨x, left⟩ := found
      cases List.suffix_nil.1 (before.shrinks' read)
      exact (after x).empty positive
  agrees text short := by
    have agree := before.agrees text short
    simp only [Reading.andThen]
    cases read : first text with
    | none =>
      rw [read] at agree
      cases agree with
      | lost beyond =>
        refine .lost fun y left found => ?_
        obtain ⟨⟨x, middle⟩, read', later⟩ := Option.bind_eq_some_iff.1 found
        exact Nat.lt_of_le_of_lt ((after x).shrinks' later).length_le (beyond x middle read')
    | some found =>
      obtain ⟨x, left⟩ := found
      have shorter : left.length < n :=
        Nat.lt_of_le_of_lt (before.shrinks read).length_le short
      rw [read] at agree
      generalize first' (text ++ tail) = within at agree
      cases agree with
      | same => exact (after x).agrees left shorter
      -- The parenthesis is gone, and so the rest is the same.
      | swallowed =>
        have nothing := (after x).empty (Nat.lt_of_le_of_lt (Nat.zero_le _) short)
        simp only [Option.bind_some, nothing]
        cases later : second' x [] with
        | none => exact .none
        | some found =>
          obtain ⟨y, left⟩ := found
          cases List.suffix_nil.1 ((after x).shrinks' later)
          exact .swallowed y

theorem byNext (closing : Closing tail) {each each' : Char → Reading α}
    (agree : ∀ c, Local tail n (each c) (each' c)) :
    Local tail (n + 1) (byNext each) (byNext each') where
  shrinks := shrinks_byNext fun c => (agree c).shrinks
  shrinks' := shrinks_byNext fun c => (agree c).shrinks'
  empty _ := rfl
  agrees text short := by
    cases text with
    | nil =>
      refine .lost fun x left found => ?_
      cases closing with
      | nothing => cases found
      | group => exact Nat.lt_succ_of_le ((agree ')').shrinks' found).length_le
      | anchored => exact Nat.lt_succ_of_le ((agree ')').shrinks' found).length_le
    | cons c rest => exact (agree c).agrees rest (Nat.lt_of_succ_lt_succ short)

/-- A reader that looks for other characters than a closing parenthesis takes what comes behind a
text for its end. -/
theorem ifNext (closing : Closing tail) {p : Char → Bool} {behind behind' : Char → Reading α}
    {otherwise otherwise' : Reading α} (other : p ')' = false)
    (agree : ∀ c, Local tail n (behind c) (behind' c))
    (agree' : Local tail (n + 1) otherwise otherwise') :
    Local tail (n + 1) (ifNext p behind otherwise) (ifNext p behind' otherwise') where
  shrinks := shrinks_ifNext (fun c => (agree c).shrinks) agree'.shrinks
  shrinks' := shrinks_ifNext (fun c => (agree c).shrinks') agree'.shrinks'
  empty := agree'.empty
  agrees text short := by
    cases text with
    | nil =>
      have passed : Reading.ifNext p behind' otherwise' tail = otherwise' tail := by
        cases closing <;> simp [Reading.ifNext, other]
      rw [List.nil_append, passed]
      exact agree'.agrees [] short
    | cons c rest =>
      rw [List.cons_append, Reading.ifNext, Reading.ifNext]
      split
      · exact (agree c).agrees rest (Nat.lt_of_succ_lt_succ short)
      · exact agree'.agrees (c :: rest) short

theorem ifText {p : List Char → Bool} {holds holds' otherwise otherwise' : Reading α}
    (same : ∀ text, p (text ++ tail) = p text) (agree : Local tail n holds holds')
    (agree' : Local tail n otherwise otherwise') :
    Local tail n (ifText p holds otherwise) (ifText p holds' otherwise') where
  shrinks := shrinks_ifText agree.shrinks agree'.shrinks
  shrinks' := shrinks_ifText agree.shrinks' agree'.shrinks'
  empty positive := by
    rw [Reading.ifText, Reading.ifText, agree.empty positive, agree'.empty positive]
  agrees text short := by
    rw [Reading.ifText, Reading.ifText, same]
    split
    · exact agree.agrees text short
    · exact agree'.agrees text short

theorem ite {p : Prop} [Decidable p] {alone within alone' within' : Reading α}
    (agree : p → Local tail n alone within) (agree' : ¬p → Local tail n alone' within') :
    Local tail n (if p then alone else alone') (if p then within else within') := by
  split
  · next holds => exact agree holds
  · next fails => exact agree' fails

/-- One step for readers with fuel, and so any number of steps. -/
theorem of_step {ι : Type} {read : Nat → ι → Reading α} (start : ∀ i, Shrinks (read 0 i))
    (step : ∀ n fuel fuel', n ≤ fuel → n ≤ fuel' →
      (∀ i, Local tail n (read fuel i) (read fuel' i)) →
      ∀ i, Local tail (n + 1) (read (fuel + 1) i) (read (fuel' + 1) i))
    {n fuel fuel' : Nat} (enough : n ≤ fuel) (enough' : n ≤ fuel') (i : ι) :
    Local tail n (read fuel i) (read fuel' i) := by
  have shrinks : ∀ fuel i, Local tail 0 (read fuel i) (read fuel i) := by
    intro fuel
    induction fuel with
    | zero => exact fun i => ⟨start i, start i, nofun, nofun⟩
    | succ fuel ih =>
      exact fun i => (step 0 fuel fuel (Nat.zero_le _) (Nat.zero_le _) ih i).mono (Nat.zero_le 1)
  induction n generalizing fuel fuel' i with
  | zero => exact ⟨(shrinks fuel i).shrinks, (shrinks fuel' i).shrinks, nofun, nofun⟩
  | succ n ih =>
    cases fuel with
    | zero => cases enough
    | succ fuel =>
      cases fuel' with
      | zero => cases enough'
      | succ fuel' =>
        have enough := Nat.le_of_succ_le_succ enough
        have enough' := Nat.le_of_succ_le_succ enough'
        exact step n fuel fuel' enough enough' (ih enough enough') i

theorem of_round {read : Nat → Reading α} (start : Shrinks (read 0))
    (step : ∀ n fuel fuel', Local tail n (read fuel) (read fuel') →
      Local tail (n + 1) (read (fuel + 1)) (read (fuel' + 1)))
    {n fuel fuel' : Nat} (enough : n ≤ fuel) (enough' : n ≤ fuel') :
    Local tail n (read fuel) (read fuel') :=
  @of_step α tail Unit (fun fuel _ => read fuel) (fun _ => start)
    (fun n fuel fuel' _ _ ih _ => step n fuel fuel' (ih ())) n fuel fuel' enough enough' ()

theorem sized {read : Nat → Reading α}
    (agree : ∀ n fuel fuel', n ≤ fuel → n ≤ fuel' → Local tail n (read fuel) (read fuel')) :
    Local tail n (sized read) (sized read) where
  shrinks text _ _ found := (agree 0 _ 0 (Nat.zero_le _) (Nat.le_refl 0)).shrinks found
  shrinks' text _ _ found := (agree 0 _ 0 (Nat.zero_le _) (Nat.le_refl 0)).shrinks found
  empty _ := rfl
  agrees text _ := by
    have more : text.length + 1 ≤ (text ++ tail).length + 1 := by
      rw [List.length_append]
      omega
    exact (agree _ _ _ (Nat.le_refl _) more).agrees text (Nat.lt_succ_self _)

end Local

/-! ## Blanks and comments -/

/-- What is skipped does not depend on what comes behind the next character; where there is none,
a comment may be open. -/
theorem skipComments_append (comment : Bool) (text : List Char) :
    (∃ c rest, skipComments comment text = c :: rest ∧
        ∀ more, skipComments comment (text ++ more) = c :: (rest ++ more)) ∨
      skipComments comment text = [] ∧
        ∃ still, ∀ more, skipComments comment (text ++ more) = skipComments still more := by
  induction text generalizing comment with
  | nil => exact .inr ⟨by rw [skipComments], comment, fun _ => rfl⟩
  | cons c rest ih =>
    cases comment with
    | true => simpa only [List.cons_append, skipComments] using ih _
    | false =>
      simp only [List.cons_append, skipComments]
      split
      · exact ih false
      · split
        · exact ih true
        · exact .inl ⟨c, rest, rfl, fun _ => rfl⟩

/-- No beginning of a text without a parenthesis reaches into what closes the group. -/
theorem Closing.isPrefixOf_append {tail word : List Char} (closing : Closing tail)
    (absent : ')' ∉ word) (text : List Char) :
    word.isPrefixOf (text ++ tail) = word.isPrefixOf text := by
  induction word generalizing text with
  | nil => rw [List.isPrefixOf_nil_left, List.isPrefixOf_nil_left]
  | cons c word ih =>
    cases text with
    | nil =>
      have other : c ≠ ')' := fun same => absent (same ▸ List.mem_cons_self)
      cases closing <;> simp [List.isPrefixOf, other]
    | cons d text =>
      rw [List.cons_append, List.isPrefixOf_cons_cons, List.isPrefixOf_cons_cons,
        ih (fun member => absent (List.mem_cons_of_mem c member))]

theorem Closing.skipComments_eq {tail : List Char} (closing : Closing tail) :
    skipComments false tail = tail ∧ skipComments true tail = [] := by
  cases closing <;> exact ⟨by decide, by decide⟩

theorem Closing.skip_append {tail : List Char} (closing : Closing tail) (verbose : Bool)
    (text : List Char) :
    (∃ c rest, skip verbose text = c :: rest ∧
        ∀ more, skip verbose (text ++ more) = c :: (rest ++ more)) ∨
      skip verbose text = [] ∧
        (skip verbose (text ++ tail) = tail ∨ skip verbose (text ++ tail) = []) := by
  cases verbose with
  | false =>
    cases text with
    | nil => exact .inr ⟨rfl, .inl rfl⟩
    | cons c rest => exact .inl ⟨c, rest, rfl, fun _ => rfl⟩
  | true =>
    refine (skipComments_append false text).imp id fun ⟨here, still, more⟩ => ⟨here, ?_⟩
    cases still with
    | false => exact .inl ((more tail).trans closing.skipComments_eq.1)
    | true => exact .inr ((more tail).trans closing.skipComments_eq.2)

theorem Local.blanks {tail : List Char} (closing : Closing tail) (n : Nat) (verbose : Bool) :
    Local tail n (blanks verbose) (blanks verbose) where
  shrinks := shrinks_blanks verbose
  shrinks' := shrinks_blanks verbose
  empty _ := rfl
  agrees text _ := by
    rw [Reading.blanks, Reading.blanks]
    rcases closing.skip_append verbose text with ⟨c, rest, here, more⟩ | ⟨here, more | more⟩
    · rw [here, more]
      exact .same () (c :: rest)
    · rw [here, more]
      exact .same () []
    · rw [here, more]
      exact .swallowed ()

/-- A loop over the characters that satisfy `p`, with blanks between them. -/
theorem Local.whileNext {tail : List Char} (closing : Closing tail) {p : Char → Bool}
    (other : p ')' = false) {verbose : Bool} {item : Char → α} {read : Nat → Reading (List α)}
    (start : read 0 = Reading.done [])
    (round : ∀ fuel, read (fuel + 1) =
      Reading.ifNext p (fun c => (Reading.blanks verbose).andThen fun _ =>
        (read fuel).andThen fun items => Reading.done (item c :: items)) (Reading.done []))
    {n fuel fuel' : Nat} (enough : n ≤ fuel) (enough' : n ≤ fuel') :
    Local tail n (read fuel) (read fuel') := by
  refine Local.of_round (start ▸ shrinks_done []) (fun n fuel fuel' ih => ?_) enough enough'
  rw [round, round]
  exact Local.ifNext closing other (fun c => (Local.blanks closing n verbose).andThen fun _ =>
    ih.andThen fun items => Local.done (item c :: items)) (Local.done [])

end Reading

end Homophone.Regex.Reader
