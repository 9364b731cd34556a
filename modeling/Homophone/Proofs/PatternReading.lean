import Homophone.Proofs.ClassReading

/-! Patterns with a closing parenthesis behind the text.

A pattern that is read to its end leaves what closes a group around it, unless it ends in a comment.
-/

set_option autoImplicit false

namespace Homophone.Regex.Reader.Reading

variable {tail : List Char} {n : Nat}

/-! ## Flags -/

def flags (sofar : FlagChange × Bool) : Reading (FlagChange × Char) := fun text =>
  (readFlags sofar.1 sofar.2 text).map fun (change, closer, left) => ((change, closer), left)

theorem readFlags_isSuffix {seen change : FlagChange} {on : Bool} {closer : Char}
    {text left : List Char} (found : readFlags seen on text = some (change, closer, left)) :
    left <:+ text := by
  fun_induction readFlags seen on text with
  | case2 =>
    cases found
    exact List.suffix_cons _ _
  | case5 seen rest colon parenthesis other ih => exact (ih found).trans (List.suffix_cons _ _)
  | case7 seen on c rest closes hyphen ih =>
    obtain ⟨flag, letter, found⟩ := Option.bind_eq_some_iff.1 found
    split at found
    · cases found
    · exact (ih flag found).trans (List.suffix_cons _ _)
  | _ => cases found

theorem shrinks_flags (sofar : FlagChange × Bool) : Shrinks (flags sofar) := by
  intro text found left read
  obtain ⟨whole, read', same⟩ := Option.map_eq_some_iff.1 read
  cases same
  exact readFlags_isSuffix read'

def flag (seen : FlagChange) (on : Bool) (c : Char) : Reading (FlagChange × Char) :=
  (of (flagOf? c)).andThen fun flag =>
    if (seen.state? flag).isSome then fail else flags (seen ++ [(flag, on)], on)

def isFlagCloser (c : Char) : Bool := c = ':' || c = ')'

theorem flags_letter (seen : FlagChange) (on : Bool) {c : Char} (rest : List Char)
    (plain : ¬isFlagCloser c = true) (other : c ≠ '-') :
    flags (seen, on) (c :: rest) = flag seen on c rest := by
  rw [isFlagCloser] at plain
  rw [flags, readFlags.eq_def]
  dsimp only
  rw [if_neg plain, if_neg other]
  dsimp only [flag, andThen, of, bind]
  cases flagOf? c with
  | none => rfl
  | some flag =>
    dsimp only [Option.map_some, Option.bind_some]
    split <;> rfl

theorem flags_hyphen (seen : FlagChange) (on : Bool) (rest : List Char) :
    flags (seen, on) ('-' :: rest) =
      (if on then byNext fun c => if isFlagCloser c || c = '-' then fail else flag seen false c
        else fail) rest := by
  cases on with
  | false => rfl
  | true =>
    cases rest with
    | nil => rfl
    | cons c rest =>
      rw [if_pos rfl, byNext]
      split
      · next closes =>
        have cases : (c = ':' ∨ c = ')') ∨ c = '-' := by simpa [isFlagCloser] using closes
        rcases cases with (rfl | rfl) | rfl <;> rfl
      · next plain =>
        have cases : isFlagCloser c = false ∧ c ≠ '-' := by simpa using plain
        rw [← flags_letter seen false rest (Bool.eq_false_iff.1 cases.1) cases.2, flags, flags]
        dsimp only
        rw [readFlags, if_neg (by decide), if_pos rfl, if_pos rfl]
        · rintro more same
          cases same
          exact absurd cases.1 (by decide)
        · rintro more same
          cases same
          exact absurd cases.1 (by decide)

theorem flags_eq (seen : FlagChange) (on : Bool) :
    flags (seen, on) = byNext fun c =>
      if isFlagCloser c then done (seen, c)
      else if c = '-' then
        if on then byNext fun d => if isFlagCloser d || d = '-' then fail else flag seen false d
        else fail
      else flag seen on c := by
  funext text
  cases text with
  | nil => rfl
  | cons c rest =>
    rw [byNext]
    split
    · next closes =>
      rw [isFlagCloser] at closes
      rw [flags, readFlags.eq_def]
      dsimp only
      rw [if_pos closes]
      rfl
    · next plain =>
      split
      · next hyphen =>
        subst hyphen
        exact flags_hyphen seen on rest
      · next other => exact flags_letter seen on rest plain other

theorem local_flags (closing : Closing tail) (sofar : FlagChange × Bool) :
    Local tail n (flags sofar) (flags sofar) := by
  induction n generalizing sofar with
  | zero => exact ⟨shrinks_flags sofar, shrinks_flags sofar, nofun, nofun⟩
  | succ n ih =>
    have letter : ∀ seen on c, Local tail n (flag seen on c) (flag seen on c) :=
      fun seen on c => (Local.of _).andThen fun flag =>
        Local.ite (fun _ => Local.fail) fun _ => ih _
    obtain ⟨seen, on⟩ := sofar
    rw [flags_eq]
    refine Local.byNext closing fun c => Local.ite (fun _ => Local.done _) fun _ =>
      Local.ite (fun _ => Local.ite (fun _ => ?_) fun _ => Local.fail) fun _ => letter _ _ _
    exact (Local.byNext closing fun d =>
      Local.ite (fun _ => Local.fail) fun _ => letter _ _ _).mono (Nat.le_succ n)

/-! ## Groups -/

theorem readName_isSuffix {text left : List Char} {name : String}
    (found : readName text = some (name, left)) : left <:+ text := by
  rw [readName] at found
  split at found
  · next behind =>
    split at found
    · cases found
      exact (List.suffix_cons _ _).trans (behind ▸ List.dropWhile_suffix _)
    · cases found
  · cases found

theorem readName_append (closing : Closing tail) (text : List Char) :
    readName (text ++ tail) = (readName text).map fun (name, left) => (name, left ++ tail) := by
  have absent : '>' ∉ tail := by cases closing <;> decide
  rw [readName, readName]
  rcases cut_append absent text with ⟨here, more⟩ | ⟨after, here, more, name⟩
  · rw [here, more]
    cases (text ++ tail).takeWhile (· ≠ '>') <;> cases text.takeWhile (· ≠ '>') <;> rfl
  · rw [here, more, name]
    cases text.takeWhile (· ≠ '>') with
    | nil => rfl
    | cons first others =>
      by_cases valid : (isNameStart first && others.all isNameChar) = true
      · simp only [valid, if_true, Option.map_some]
      · simp only [valid, Bool.false_eq_true, if_false, Option.map_none]

theorem local_readName (closing : Closing tail) : Local tail n readName readName where
  shrinks _ _ _ := readName_isSuffix
  shrinks' _ _ _ := readName_isSuffix
  empty _ := rfl
  agrees text _ := by
    rw [readName_append closing]
    cases readName text with
    | none => exact .none
    | some found => exact .same found.1 found.2

abbrev Captures := List String × Nat

def groupHead (verbose : Bool) (captures : Captures) : Reading (GroupHead × Captures) := fun text =>
  (readGroupHead ⟨text, verbose, captures.1, captures.2⟩ text).map fun (head, state) =>
    ((head, state.names, state.captured), state.rest)

def namedGroup (captures : Captures) : Reading (GroupHead × Captures) :=
  andThen readName fun name =>
    if captures.1.contains name then fail
    else done (.group (some (captures.2 + 1)) [], name :: captures.1, captures.2 + 1)

def groupKind (captures : Captures) : Reading (GroupHead × Captures) :=
  ifText ['='].isPrefixOf fail <| ifText ['!'].isPrefixOf fail <|
    ifText ['<', '='].isPrefixOf fail <| ifText ['<', '!'].isPrefixOf fail <|
      ifText ['P', '<'].isPrefixOf (byNext fun _ => byNext fun _ => namedGroup captures) <|
        ifText ['<'].isPrefixOf (byNext fun _ => namedGroup captures) <|
          (flags ([], true)).andThen fun (change, closer) =>
            if closer = ':' then done (.group none change, captures)
            else if change.isEmpty then fail
            else done (.flags change, captures)

theorem groupKind_angle (captures : Captures) {rest : List Char}
    (equal : ∀ more, rest = '=' :: more → False) (bang : ∀ more, rest = '!' :: more → False) :
    groupKind captures ('<' :: rest) = namedGroup captures rest := by
  rw [groupKind, ifText_of_not_starts _ _ (by simp), ifText_of_not_starts _ _ (by simp),
    ifText_of_not_starts _ _ fun more same => equal more (List.cons.inj same).2,
    ifText_of_not_starts _ _ fun more same => bang more (List.cons.inj same).2,
    ifText_of_not_starts _ _ (by simp)]
  rfl

theorem groupHead_eq (verbose : Bool) (captures : Captures) :
    groupHead verbose captures =
      (blanks verbose).andThen fun _ => ifNext (· == '?') (fun _ => groupKind captures)
        (done (.group (some (captures.2 + 1)) [], captures.1, captures.2 + 1)) := by
  obtain ⟨names, captured⟩ := captures
  have named : ∀ rest, namedGroup (names, captured) rest = (readName rest).bind fun found =>
      if names.contains found.1 then none
      else some ((.group (some (captured + 1)) [], found.1 :: names, captured + 1), found.2) := by
    intro rest
    dsimp only [namedGroup, andThen]
    congr 1
    funext found
    split <;> rfl
  funext text
  rw [groupHead, readGroupHead, blanks_andThen]
  dsimp only
  split
  · next skipped => rw [skipped]; rfl
  · next skipped => rw [skipped]; rfl
  · next skipped => rw [skipped]; rfl
  · next skipped => rw [skipped]; rfl
  · next rest skipped =>
    rw [skipped, ifNext_self]
    change _ = namedGroup (names, captured) rest
    rw [named]
    cases readName rest with
    | none => rfl
    | some found =>
      dsimp only [Option.bind_some, bind]
      split <;> rfl
  · next rest equal bang skipped =>
    rw [skipped, ifNext_self, groupKind_angle _ equal bang, named]
    cases readName rest with
    | none => rfl
    | some found =>
      dsimp only [Option.bind_some, bind]
      split <;> rfl
  · next rest equal bang behind ahead p angle skipped =>
    rw [skipped, ifNext_self, groupKind, ifText_of_not_starts _ _ equal,
      ifText_of_not_starts _ _ bang, ifText_of_not_starts _ _ behind,
      ifText_of_not_starts _ _ ahead, ifText_of_not_starts _ _ p, ifText_of_not_starts _ _ angle]
    dsimp only [andThen, flags, bind]
    cases readFlags [] true rest with
    | none => rfl
    | some found =>
      dsimp only [Option.map_some, Option.bind_some]
      split
      · rfl
      · split <;> rfl
  · next other =>
    rw [ifNext_of_ne _ _ other]
    rfl

theorem local_groupHead (closing : Closing tail) (verbose : Bool) (captures : Captures) :
    Local tail n (groupHead verbose captures) (groupHead verbose captures) := by
  have named : Local tail n (namedGroup captures) (namedGroup captures) :=
    (local_readName closing).andThen fun name =>
      Local.ite (fun _ => Local.fail) fun _ => Local.done _
  have named' : Local tail (n + 1) (byNext fun _ => namedGroup captures)
      (byNext fun _ => namedGroup captures) := Local.byNext closing fun _ => named
  rw [groupHead_eq]
  refine (Local.blanks closing n verbose).andThen fun _ => (Local.ifNext closing (by decide)
    (fun _ => ?_) (Local.done _)).mono (Nat.le_succ n)
  refine Local.ifText (closing.isPrefixOf_append (by decide)) Local.fail <|
    Local.ifText (closing.isPrefixOf_append (by decide)) Local.fail <|
      Local.ifText (closing.isPrefixOf_append (by decide)) Local.fail <|
        Local.ifText (closing.isPrefixOf_append (by decide)) Local.fail <|
          Local.ifText (closing.isPrefixOf_append (by decide))
            ((Local.byNext closing fun _ => named').mono (Nat.le_add_right n 2)) <|
            Local.ifText (closing.isPrefixOf_append (by decide)) (named'.mono (Nat.le_succ n)) ?_
  exact (local_flags closing _).andThen fun found => Local.ite (fun _ => Local.done _) fun _ =>
    Local.ite (fun _ => Local.fail) fun _ => Local.done _

/-! ## Patterns -/

def primitiveFrom (verbose : Bool) (c : Char) : Reading Primitive :=
  match c with
  | '\\' => byNext (escapeFrom verbose)
  | '.' => done .dot
  | '^' => done (.assertion .lineStart)
  | '$' => done (.assertion .lineEnd)
  | c => done (.literal ⟨c, false⟩)

theorem local_primitiveFrom (closing : Closing tail) (verbose : Bool) (c : Char) :
    Local tail n (primitiveFrom verbose c) (primitiveFrom verbose c) := by
  unfold primitiveFrom
  split
  · exact (Local.byNext closing fun c => local_escapeFrom closing verbose c).mono (Nat.le_succ n)
  all_goals exact Local.done _

theorem viable_primitive (verbose : Bool) (text : List Char) :
    Viable verbose (readPrimitive verbose text) (byNext (primitiveFrom verbose) text) := by
  rw [readPrimitive.eq_def]
  split
  · exact .same none
  · next rest => exact viable_escape verbose rest
  · exact .same _
  · exact .same _
  · exact .same _
  · next c rest backslash dot caret dollar =>
    rw [byNext, primitiveFrom.eq_5 _ _ backslash dot caret dollar]
    exact .same _

def lazyMark : Reading Unit := ifNext (· == '?') (fun _ => done ()) (done ())

theorem lazyMark_eq (text : List Char) : lazyMark text = some ((), dropLazy text) := by
  by_cases mark : ∃ rest, text = '?' :: rest
  · obtain ⟨rest, rfl⟩ := mark
    rfl
  · rw [lazyMark, ifNext_of_ne _ _ fun rest same => mark ⟨rest, same⟩, dropLazy.eq_2]
    · rfl
    · exact fun rest same => mark ⟨rest, same⟩

/-- What a reader of a pattern has seen: its mode, the groups so far, and the branches and items of
the group it is in, backwards. -/
structure PatternSoFar where
  verbose : Bool
  captures : Captures
  branches : List Node
  items : List Node

/-- What a reader of items gives back, without its mode. -/
def withCaptures (found : Node × State) : (Node × Captures) × List Char :=
  ((found.1, found.2.names, found.2.captured), found.2.rest)

def pattern (fuel : Nat) (sofar : PatternSoFar) : Reading (Node × Captures) := fun text =>
  (readItems fuel ⟨text, sofar.verbose, sofar.captures.1, sofar.captures.2⟩ sofar.branches
    sofar.items).map withCaptures

def PatternSoFar.push (sofar : PatternSoFar) (item : Node) : PatternSoFar :=
  { sofar with items := item :: sofar.items }

def repetition (fuel : Nat) (sofar : PatternSoFar) (least : Nat) (most : Option Nat) :
    Reading (Node × Captures) :=
  lazyMark.andThen fun _ => (of (repeatLast? least most sofar.items)).andThen fun items =>
    pattern fuel { sofar with items }

def inParentheses (fuel : Nat) (sofar : PatternSoFar) : Reading (Node × Captures) :=
  (groupHead sofar.verbose sofar.captures).andThen fun (head, captures) =>
    match head with
    | .flags change =>
      let verbose := (change.state? .verbose).getD sofar.verbose
      pattern fuel { sofar.push (.flags change) with verbose, captures }
    | .group number change =>
      let verbose := (change.state? .verbose).getD sofar.verbose
      (pattern fuel ⟨verbose, captures, [], []⟩).andThen fun (inner, captures) => byNext fun c =>
        if c = ')' then pattern fuel { sofar.push (.group number change inner) with captures }
        else fail

def patternFrom (fuel : Nat) (sofar : PatternSoFar) (c : Char) : Reading (Node × Captures) :=
  match c with
  | '|' =>
    pattern fuel
      { sofar with branches := Node.ofItems sofar.items.reverse :: sofar.branches, items := [] }
  | '(' => inParentheses fuel sofar
  | '[' => andThen (readClass sofar.verbose fuel) fun node => pattern fuel (sofar.push node)
  | '?' => repetition fuel sofar 0 (some 1)
  | '*' => repetition fuel sofar 0 none
  | '+' => repetition fuel sofar 1 none
  | '\x7b' =>
    andThen (readCounts sofar.verbose) fun (least, most) => (blanks sofar.verbose).andThen fun _ =>
      repetition fuel sofar least most
  | c => (primitiveFrom sofar.verbose c).andThen fun primitive =>
      pattern fuel (sofar.push (.primitive primitive))

theorem pattern_of_closes {fuel : Nat} {sofar : PatternSoFar} {text : List Char}
    (closes : closesInBrace sofar.verbose text = true) : pattern fuel sofar text = none := by
  obtain ⟨rest, left, rfl, skipped⟩ := exists_of_closesInBrace closes
  cases fuel with
  | zero => rfl
  | succ fuel =>
    simp only [pattern, readItems, skip_brace, readCounts_of_closes skipped]
    rfl

theorem repetition_eq (fuel : Nat) (sofar : PatternSoFar) (least : Nat) (most : Option Nat)
    (text : List Char) :
    repetition fuel sofar least most text =
      ((repeatLast? least most sofar.items).bind fun items =>
        readItems fuel ⟨dropLazy text, sofar.verbose, sofar.captures.1, sofar.captures.2⟩
          sofar.branches items).map withCaptures := by
  rw [repetition, andThen, lazyMark_eq]
  cases repeatLast? least most sofar.items <;> rfl

theorem inParentheses_eq (fuel : Nat) (sofar : PatternSoFar) (text : List Char) (state : State)
    (same : state = ⟨state.rest, sofar.verbose, sofar.captures.1, sofar.captures.2⟩) :
    inParentheses fuel sofar text =
      ((readGroupHead state text).bind fun (head, inside) =>
        match head with
        | .flags change =>
          readItems fuel { inside with verbose := (change.state? .verbose).getD sofar.verbose }
            sofar.branches (.flags change :: sofar.items)
        | .group number change =>
          (readItems fuel { inside with verbose := (change.state? .verbose).getD sofar.verbose }
            [] []).bind fun (inner, after) =>
            match after.rest with
            | ')' :: rest =>
              readItems fuel { after with rest, verbose := sofar.verbose } sofar.branches
                (.group number change inner :: sofar.items)
            | _ => none).map withCaptures := by
  have head : groupHead sofar.verbose sofar.captures text =
      (readGroupHead state text).map fun (head, state) =>
        ((head, state.names, state.captured), state.rest) := by
    rw [same]
    rfl
  rw [inParentheses, andThen, head]
  cases readGroupHead state text with
  | none => rfl
  | some found =>
    obtain ⟨head, inside⟩ := found
    cases head with
    | flags change => rfl
    | group number change =>
      dsimp only [Option.map_some, Option.bind_some, andThen, pattern]
      cases readItems fuel _ [] [] with
      | none => rfl
      | some found =>
        obtain ⟨inner, ⟨rest, verbose, names, captured⟩⟩ := found
        dsimp only [Option.map_some, Option.bind_some]
        split
        · next rest => rfl
        · next other =>
          cases rest with
          | nil => rfl
          | cons c rest => exact congrFun (if_neg (head_ne other)) rest

theorem pattern_succ (fuel : Nat) (sofar : PatternSoFar) :
    pattern (fuel + 1) sofar =
      (blanks sofar.verbose).andThen fun _ =>
        ifNext (· != ')') (patternFrom fuel sofar)
          (done (close sofar.branches sofar.items, sofar.captures)) := by
  funext text
  rw [pattern, readItems, blanks_andThen]
  dsimp only
  split
  · next skipped => rw [skipped]; rfl
  · next rest skipped => rw [skipped]; rfl
  · next rest skipped => rw [skipped]; rfl
  · next rest skipped =>
    rw [skipped]
    exact (inParentheses_eq fuel sofar rest _ rfl).symm
  · next rest skipped =>
    rw [skipped]
    change _ = patternFrom fuel sofar '[' rest
    rw [patternFrom, andThen]
    cases readClass sofar.verbose fuel rest <;> rfl
  · next rest skipped =>
    rw [skipped]
    exact (repetition_eq fuel sofar 0 (some 1) rest).symm
  · next rest skipped =>
    rw [skipped]
    exact (repetition_eq fuel sofar 0 none rest).symm
  · next rest skipped =>
    rw [skipped]
    exact (repetition_eq fuel sofar 1 none rest).symm
  · next rest skipped =>
    rw [skipped]
    change _ = patternFrom fuel sofar '\x7b' rest
    rw [patternFrom, andThen]
    cases readCounts sofar.verbose rest with
    | none => rfl
    | some found => exact (repetition_eq fuel sofar _ _ _).symm
  · next empty closer bar opening bracket mark star plus brace =>
    generalize skip sofar.verbose text = text at *
    cases text with
    | nil => exact absurd rfl empty
    | cons c rest =>
      rw [ifNext, if_pos (bne_iff_ne.2 (head_ne closer)), patternFrom.eq_8 _ _ _ (head_ne bar)
        (head_ne opening) (head_ne bracket) (head_ne mark) (head_ne star) (head_ne plus)
        (head_ne brace)]
      refine Eq.trans ?_ ((viable_primitive sofar.verbose (c :: rest)).bind_eq ?_)
      · cases readPrimitive sofar.verbose (c :: rest) <;> rfl
      · exact fun left closes => pattern_of_closes closes

theorem local_pattern (closing : Closing tail) {fuel fuel' : Nat} (enough : n ≤ fuel)
    (enough' : n ≤ fuel') (sofar : PatternSoFar) :
    Local tail n (pattern fuel sofar) (pattern fuel' sofar) := by
  refine Local.of_step (fun _ => shrinks_fail)
    (fun n fuel fuel' enough enough' ih sofar => ?_) enough enough' sofar
  have repeated : ∀ least most,
      Local tail n (repetition fuel sofar least most) (repetition fuel' sofar least most) :=
    fun least most => ((Local.ifNext closing (by decide) (fun _ => Local.done _)
      (Local.done _)).mono (Nat.le_succ n)).andThen fun _ => (Local.of _).andThen fun items => ih _
  rw [pattern_succ, pattern_succ]
  refine (Local.blanks closing _ _).andThen fun _ =>
    Local.ifNext closing (by decide) (fun c => ?_) (Local.done _)
  unfold patternFrom
  split
  · exact ih _
  · refine (local_groupHead closing _ _).andThen fun ⟨head, captures⟩ => ?_
    cases head with
    | flags change => exact ih _
    | group number change =>
      exact (ih _).andThen fun inner => (Local.byNext closing fun c =>
        Local.ite (fun _ => ih _) fun _ => Local.fail).mono (Nat.le_succ n)
  · exact (local_readClass closing _ enough enough').andThen fun node => ih _
  · exact repeated _ _
  · exact repeated _ _
  · exact repeated _ _
  · exact (local_readCounts closing _).andThen fun counts =>
      (Local.blanks closing n _).andThen fun _ => repeated _ _
  · exact (local_primitiveFrom closing _ _).andThen fun primitive => ih _

theorem shrinks_pattern (fuel : Nat) (sofar : PatternSoFar) : Shrinks (pattern fuel sofar) :=
  (local_pattern .nothing (Nat.zero_le fuel) (Nat.zero_le fuel) sofar).shrinks

end Homophone.Regex.Reader.Reading
