import Homophone.Proofs.EscapeReading
import Mathlib.Data.List.TakeWhile

/-! Classes with a closing parenthesis behind the text. -/

set_option autoImplicit false

namespace Homophone.Regex.Reader.Reading

variable {tail : List Char} {n : Nat}

/-! ## Members -/

def memberFrom (verbose : Bool) (c : Char) : Reading Primitive :=
  if c = '\\' then byNext (escapeFrom verbose) else done (.literal ⟨c, false⟩)

theorem local_memberFrom (closing : Closing tail) (verbose : Bool) (c : Char) :
    Local tail n (memberFrom verbose c) (memberFrom verbose c) :=
  Local.ite (fun _ => (Local.byNext closing fun c => local_escapeFrom closing verbose c).mono
    (Nat.le_succ n)) fun _ => Local.done _

theorem viable_member (verbose : Bool) (text : List Char) :
    Viable verbose (readClassPrimitive verbose text) (byNext (memberFrom verbose) text) := by
  rw [readClassPrimitive.eq_def]
  split
  · exact .same none
  · next rest => exact viable_escape verbose rest
  · next c rest other =>
    rw [byNext, memberFrom, if_neg other]
    exact .same _

def isBound (c : Char) : Bool := c ≠ ']' && c ≠ '-'

def opensRange (verbose : Bool) : List Char → Bool
  | '-' :: rest => (peekSecond verbose ('-' :: rest)).all isBound
  | _ => false

theorem peekPast_append (closing : Closing tail) (hashSeen : Bool) (text : List Char) :
    peekPast hashSeen (text ++ tail) = (peekPast hashSeen text <|> tail.head?) := by
  induction text generalizing hashSeen with
  | nil => cases closing <;> cases hashSeen <;> decide
  | cons c rest ih =>
    rw [List.cons_append, peekPast, peekPast]
    split
    · exact ih hashSeen
    · split
      · exact ih true
      · rfl

def rangeEnd (verbose : Bool) (first : Primitive) : Reading ClassNode :=
  byNext fun _ => (blanks verbose).andThen fun _ =>
    (byNext (memberFrom verbose)).andThen fun last =>
      (of (boundOf? first)).andThen fun first => (of (boundOf? last)).andThen fun last =>
        of (if first.char ≤ last.char then some (.range first last) else none)

/-- A member of a class, or a range, by its first character. At the end of the text, where the class
is not closed, the member is left to itself. -/
def itemFrom (verbose : Bool) (c : Char) : Reading ClassNode :=
  (memberFrom verbose c).andThen fun first => (blanks verbose).andThen fun _ =>
    ifText (opensRange verbose) (rangeEnd verbose first) (of (itemOf? first))

theorem isBound_of_peekPast {text : List Char} (nothing : peekPast false text = none) :
    text.head?.all isBound = true := by
  cases text with
  | nil => rfl
  | cons c rest =>
    rw [peekPast] at nothing
    have seen : c = ']' ∨ c = '-' → False := by
      have white : Unicode.isWhiteSpace ']' = false ∧ Unicode.isWhiteSpace '-' = false := by
        decide
      rintro (rfl | rfl) <;> simp [white] at nothing
    simpa [isBound] using seen

theorem opensRange_append (closing : Closing tail) (verbose : Bool) (text : List Char) :
    opensRange verbose (text ++ tail) = opensRange verbose text := by
  cases text with
  | nil => cases closing <;> rfl
  | cons c rest =>
    by_cases hyphen : c = '-'
    · subst hyphen
      rw [List.cons_append, opensRange, opensRange, peekSecond, peekSecond]
      cases verbose with
      | false => cases rest with
        | nil => cases closing <;> rfl
        | cons d rest => rfl
      | true =>
        rw [if_pos rfl, if_pos rfl, peekPast_append closing]
        cases peeked : peekPast false rest with
        | none =>
          have bound := isBound_of_peekPast peeked
          cases closing with
          | nothing => rw [List.append_nil]; rfl
          | group => exact bound.symm
          | anchored => exact bound.symm
        | some d => rfl
    · simp [opensRange, hyphen]

theorem local_itemFrom (closing : Closing tail) (verbose : Bool) (c : Char) :
    Local tail n (itemFrom verbose c) (itemFrom verbose c) := by
  refine (local_memberFrom closing verbose c).andThen fun first =>
    (Local.blanks closing n verbose).andThen fun _ =>
      Local.ifText (opensRange_append closing verbose) ?_ (Local.of _)
  refine (Local.byNext closing fun _ => (Local.blanks closing n verbose).andThen fun _ =>
    ((Local.byNext closing fun c => local_memberFrom closing verbose c).mono
      (Nat.le_succ n)).andThen fun last => ?_).mono (Nat.le_succ n)
  exact (Local.of _).andThen fun first => (Local.of _).andThen fun last => Local.of _

theorem rangeEnd_hyphen (verbose : Bool) (first : Primitive) (after : List Char) :
    rangeEnd verbose first ('-' :: after) =
      (readClassPrimitive verbose (skip verbose after)).bind fun (last, left) =>
        (boundOf? first).bind fun first => (boundOf? last).bind fun last =>
          if first.char ≤ last.char then some (.range first last, left) else none := by
  rw [(viable_member verbose _).bind_eq fun rest _ => by cases boundOf? first <;> rfl]
  simp only [rangeEnd, byNext, andThen, blanks, Option.bind_some, of]
  congr 1
  funext found
  obtain ⟨last, left⟩ := found
  dsimp only
  cases boundOf? first with
  | none => rfl
  | some first =>
    cases boundOf? last with
    | none => rfl
    | some last =>
      dsimp only [Option.map_some, Option.bind_some]
      split <;> rfl

/-- Where a class cannot end with its text, what follows a member does not depend on whether the
member at the end of the text is read. -/
theorem readRange_bind {β : Type} (verbose : Bool) (text : List Char)
    {next : ClassNode × List Char → Option β} (unclosed : ∀ item, next (item, []) = none) :
    (readRange verbose text).bind next = (byNext (itemFrom verbose) text).bind next := by
  have items : byNext (itemFrom verbose) = (byNext (memberFrom verbose)).andThen _ :=
    byNext_andThen _ _
  rw [readRange, items, andThen]
  simp only [bind, Option.bind_assoc]
  rw [(viable_member verbose text).bind_eq fun rest closes => ?_]
  · congr 1
    funext found
    obtain ⟨first, rest⟩ := found
    simp only [andThen, blanks, Option.bind_some]
    split
    · next skipped =>
      rw [skipped]
      cases item : itemOf? first with
      | none => simp [ifText, opensRange, of]
      | some item' => simpa [ifText, opensRange, of, item] using (unclosed item').symm
    · next after skipped =>
      rw [skipped, ifText, rangeEnd_hyphen, opensRange]
      split
      · next peeked =>
        rw [peeked]
        cases itemOf? first <;> rfl
      · next peeked =>
        rw [peeked]
        cases itemOf? first <;> rfl
      · next bracket hyphen =>
        have bound : (peekSecond verbose ('-' :: after)).all isBound = true := by
          generalize peekSecond verbose ('-' :: after) = peeked at bracket hyphen
          cases peeked with
          | none => rfl
          | some c =>
            have plain : c ≠ ']' ∧ c ≠ '-' :=
              ⟨fun same => bracket (same ▸ rfl), fun same => hyphen (same ▸ rfl)⟩
            simpa [isBound] using plain
        rw [if_pos bound]
    · next hyphen empty other =>
      have plain : opensRange verbose (skip verbose rest) = false := by
        rw [opensRange.eq_2 verbose _ other]
      rw [ifText, plain, if_neg Bool.false_ne_true]
      cases itemOf? first <;> rfl
  · obtain ⟨rest, left, rfl, skipped⟩ := exists_of_closesInBrace closes
    rw [skip_brace]
    rfl

/-! ## Names -/

theorem cut_append {c : Char} (absent : c ∉ tail) (text : List Char) :
    (text.dropWhile (· ≠ c) = [] ∧ (text ++ tail).dropWhile (· ≠ c) = []) ∨
      ∃ after, text.dropWhile (· ≠ c) = c :: after ∧
        (text ++ tail).dropWhile (· ≠ c) = c :: (after ++ tail) ∧
        (text ++ tail).takeWhile (· ≠ c) = text.takeWhile (· ≠ c) := by
  induction text with
  | nil =>
    refine .inl ⟨rfl, ?_⟩
    rw [List.nil_append, List.dropWhile_eq_nil_iff]
    exact fun d member => decide_eq_true fun same => absent (same ▸ member)
  | cons d text ih =>
    rw [List.cons_append, List.dropWhile_cons, List.dropWhile_cons, List.takeWhile_cons,
      List.takeWhile_cons]
    by_cases same : d = c
    · subst same
      exact .inr ⟨text, by simp⟩
    · simpa [same] using ih

def nameAt? (negated : Bool) (text : List Char) : Option (ClassNode × List Char) :=
  match text.dropWhile (· ≠ ':') with
  | ':' :: ']' :: left =>
    (namedRanges? (String.ofList (text.takeWhile (· ≠ ':')))).map (.named · negated, left)
  | _ => none

theorem nameAt?_append (closing : Closing tail) (negated : Bool) (text : List Char) :
    nameAt? negated (text ++ tail) =
      (nameAt? negated text).map fun (item, left) => (item, left ++ tail) := by
  have absent : ':' ∉ tail := by cases closing <;> decide
  rw [nameAt?, nameAt?]
  rcases cut_append absent text with ⟨here, more⟩ | ⟨after, here, more, name⟩
  · rw [here, more]
    rfl
  · rw [here, more, name]
    cases after with
    | nil => cases closing <;> rfl
    | cons c left =>
      by_cases bracket : c = ']'
      · subst bracket
        cases namedRanges? _ <;> rfl
      · simp [bracket]

theorem readNamed?_colon {rest : List Char} (other : ∀ more, rest = '^' :: more → False) :
    readNamed? (':' :: rest) = nameAt? false rest := by
  rw [readNamed?]
  · rfl
  · exact other

theorem readNamed?_append (closing : Closing tail) (text : List Char) :
    readNamed? (text ++ tail) = (readNamed? text).map fun (item, left) => (item, left ++ tail) := by
  cases text with
  | nil => cases closing <;> rfl
  | cons c rest =>
    by_cases colon : c = ':'
    · subst colon
      cases rest with
      | nil => cases closing <;> rfl
      | cons d rest =>
        by_cases caret : d = '^'
        · subst caret
          exact nameAt?_append closing true rest
        · rw [List.cons_append, List.cons_append, readNamed?_colon, readNamed?_colon]
          · exact nameAt?_append closing false (d :: rest)
          · exact fun more same => caret (List.cons.inj same).1
          · exact fun more same => caret (List.cons.inj same).1
    · simp [readNamed?, colon]

theorem shrinks_nameAt? (negated : Bool) : Shrinks (nameAt? negated) := by
  intro text item left found
  rw [nameAt?] at found
  split at found
  · next after cut =>
    obtain ⟨_, _, same⟩ := Option.map_eq_some_iff.1 found
    have behind : after <:+ text :=
      ((List.suffix_cons _ _).trans (List.suffix_cons _ _)).trans (cut ▸ List.dropWhile_suffix _)
    exact (Prod.mk.inj same).2 ▸ behind
  · cases found

theorem readNamed?_isSuffix {text left : List Char} {item : ClassNode}
    (found : readNamed? text = some (item, left)) : left <:+ text := by
  cases text with
  | nil => cases found
  | cons c rest =>
    by_cases colon : c = ':'
    · subst colon
      by_cases caret : ∃ more, rest = '^' :: more
      · obtain ⟨more, rfl⟩ := caret
        have behind := shrinks_nameAt? true found
        exact (behind.trans (List.suffix_cons _ _)).trans (List.suffix_cons _ _)
      · rw [readNamed?_colon fun more same => caret ⟨more, same⟩] at found
        exact (shrinks_nameAt? false found).trans (List.suffix_cons _ _)
    · simp [readNamed?, colon] at found

def named : Reading (Option ClassNode) := fun text =>
  match readNamed? text with
  | some (item, left) => some (some item, left)
  | none => some (none, text)

theorem shrinks_named : Shrinks named := by
  intro text item left found
  rw [named] at found
  split at found
  · next read =>
    cases found
    exact readNamed?_isSuffix read
  · cases found
    exact List.suffix_refl text

theorem local_named (closing : Closing tail) : Local tail n named named where
  shrinks := shrinks_named
  shrinks' := shrinks_named
  empty _ := rfl
  agrees text _ := by
    rw [named, named, readNamed?_append closing]
    cases readNamed? text with
    | none => exact .same none text
    | some found => exact .same (some found.1) found.2

/-! ## Beginnings of classes -/

def hyphens (verbose : Bool) (fuel : Nat) : Reading (List ClassNode) := fun text =>
  some (readHyphens verbose fuel text)

theorem hyphens_succ (verbose : Bool) (fuel : Nat) :
    hyphens verbose (fuel + 1) =
      ifNext (· == '-') (fun _ => (blanks verbose).andThen fun _ =>
        (hyphens verbose fuel).andThen fun items => done (.literal ⟨'-', false⟩ :: items))
        (done []) := by
  funext text
  cases text with
  | nil => rfl
  | cons c rest =>
    by_cases hyphen : c = '-'
    · subst hyphen
      rfl
    · rw [ifNext_of_ne _ _ fun rest same => hyphen (List.cons.inj same).1]
      simp [hyphens, readHyphens, hyphen, done]

theorem local_hyphens (closing : Closing tail) (verbose : Bool) {fuel fuel' : Nat}
    (enough : n ≤ fuel) (enough' : n ≤ fuel') :
    Local tail n (hyphens verbose fuel) (hyphens verbose fuel') :=
  Local.whileNext closing (by decide) rfl (hyphens_succ verbose) enough enough'

theorem hyphens_eq_sized (verbose : Bool) (text : List Char) :
    hyphens verbose text.length text = sized (hyphens verbose) text := by
  suffices ∀ fuel text, text.length ≤ fuel →
      hyphens verbose fuel text = hyphens verbose (fuel + 1) text from
    this text.length text (Nat.le_refl _)
  intro fuel
  induction fuel with
  | zero =>
    intro text enough
    cases List.length_eq_zero_iff.1 (Nat.le_zero.1 enough)
    rfl
  | succ fuel ih =>
    intro text enough
    rw [hyphens_succ, hyphens_succ]
    cases text with
    | nil => rfl
    | cons c rest =>
      have fewer : (skip verbose rest).length ≤ fuel :=
        Nat.le_trans (skip_isSuffix verbose rest).length_le (Nat.le_of_succ_le_succ enough)
      simp only [ifNext, andThen, blanks, Option.bind_some, ih _ fewer]

def firstMembers (verbose negated : Bool) : Reading (Bool × List ClassNode) :=
  (sized (hyphens verbose)).andThen fun items =>
    if items.isEmpty then
      ifNext (· == ']')
        (fun _ => (blanks verbose).andThen fun _ => done (negated, [.literal ⟨']', false⟩]))
        (done (negated, []))
    else done (negated, items)

theorem local_firstMembers (closing : Closing tail) (verbose negated : Bool) :
    Local tail n (firstMembers verbose negated) (firstMembers verbose negated) := by
  refine (Local.sized fun _ _ _ => local_hyphens closing verbose).andThen fun items =>
    Local.ite (fun _ => ?_) fun _ => Local.done _
  exact (Local.ifNext closing (by decide) (fun _ => (Local.blanks closing n verbose).andThen
    fun _ => Local.done _) (Local.done _)).mono (Nat.le_succ n)

def classHead (verbose : Bool) : Reading (Bool × List ClassNode) := fun text =>
  let (negated, first, left) := readClassHead verbose text
  some ((negated, first), left)

theorem firstMembers_of_bracket {verbose : Bool} (negated : Bool) {text left : List Char}
    (read : readHyphens verbose text.length text = ([], ']' :: left)) :
    firstMembers verbose negated text =
      some ((negated, [.literal ⟨']', false⟩]), skip verbose left) := by
  rw [firstMembers, andThen, ← hyphens_eq_sized, hyphens, read]
  rfl

theorem firstMembers_of_items {verbose : Bool} (negated : Bool) {text left : List Char}
    {items : List ClassNode} (read : readHyphens verbose text.length text = (items, left))
    (other : ∀ rest, items = [] → left = ']' :: rest → False) :
    firstMembers verbose negated text = some ((negated, items), left) := by
  rw [firstMembers, andThen, ← hyphens_eq_sized, hyphens, read]
  cases items with
  | nil => exact ifNext_of_ne _ _ fun rest => other rest rfl
  | cons item items => rfl

theorem classHead_of_caret {verbose : Bool} {text rest : List Char}
    (caret : skip verbose text = '^' :: rest) :
    classHead verbose text = firstMembers verbose true (skip verbose rest) := by
  rw [classHead]
  fun_cases readClassHead verbose text with
  | case1 negated behind start left read =>
    rw [caret] at start
    cases start
    exact (firstMembers_of_bracket true read).symm
  | case2 negated behind start items left other read =>
    rw [caret] at start
    cases start
    exact (firstMembers_of_items true read other).symm

theorem classHead_of_ne {verbose : Bool} {text : List Char}
    (plain : ∀ rest, skip verbose text = '^' :: rest → False) :
    classHead verbose text = firstMembers verbose false (skip verbose text) := by
  rw [classHead]
  fun_cases readClassHead verbose text with
  | case1 negated behind start left read =>
    split at start
    · next rest caret => exact (plain rest caret).elim
    · cases start
      exact (firstMembers_of_bracket false read).symm
  | case2 negated behind start items left other read =>
    split at start
    · next rest caret => exact (plain rest caret).elim
    · cases start
      exact (firstMembers_of_items false read other).symm

theorem classHead_eq (verbose : Bool) :
    classHead verbose =
      (blanks verbose).andThen fun _ => ifNext (· == '^')
        (fun _ => (blanks verbose).andThen fun _ => firstMembers verbose true)
        (firstMembers verbose false) := by
  funext text
  rw [blanks_andThen]
  by_cases caret : ∃ rest, skip verbose text = '^' :: rest
  · obtain ⟨rest, caret⟩ := caret
    rw [classHead_of_caret caret, caret, ifNext_self]
    rfl
  · have plain : ∀ rest, skip verbose text = '^' :: rest → False :=
      fun rest same => caret ⟨rest, same⟩
    rw [classHead_of_ne plain, ifNext_of_ne _ _ plain]

theorem local_classHead (closing : Closing tail) (verbose : Bool) :
    Local tail n (classHead verbose) (classHead verbose) := by
  rw [classHead_eq]
  refine (Local.blanks closing n verbose).andThen fun _ => (Local.ifNext closing (by decide)
    (fun _ => ?_) (local_firstMembers closing verbose false)).mono (Nat.le_succ n)
  exact (Local.blanks closing n verbose).andThen fun _ => local_firstMembers closing verbose true

/-! ## Classes -/

/-- What a reader of the rest of a class has seen: the operator that is open, with its left side,
and the items since, backwards. -/
abbrev ClassSoFar := Option (ClassOperator × ClassNode) × List ClassNode

def classItems (verbose : Bool) (fuel : Nat) (sofar : ClassSoFar) : Reading ClassNode := fun text =>
  readClassItems verbose fuel text sofar.1 sofar.2

def behindOperator (sofar : ClassSoFar) (behind : ClassSoFar → Reading ClassNode)
    (operator : ClassOperator) : Reading ClassNode :=
  byNext fun _ => byNext fun _ => behind (some (operator, closeOperator sofar.1 sofar.2), [])

def onOperator (sofar : ClassSoFar) (behind : ClassSoFar → Reading ClassNode)
    (otherwise : Reading ClassNode) : Reading ClassNode :=
  ifText ['&', '&'].isPrefixOf (behindOperator sofar behind .intersection) <|
    ifText ['-', '-'].isPrefixOf (behindOperator sofar behind .difference) <|
      ifText ['~', '~'].isPrefixOf (behindOperator sofar behind .symmetricDifference) otherwise

def inBrackets (verbose : Bool) (sofar : ClassSoFar) (behind : ClassSoFar → Reading ClassNode) :
    Reading ClassNode :=
  named.andThen fun
    | some item => behind (sofar.1, item :: sofar.2)
    | none => (classHead verbose).andThen fun (negated, first) =>
        (behind (none, first.reverse)).andThen fun inner =>
          behind (sofar.1, .bracketed negated inner :: sofar.2)

theorem readClassItems_nil (verbose : Bool) (fuel : Nat)
    (pending : Option (ClassOperator × ClassNode)) (items : List ClassNode) :
    readClassItems verbose fuel [] pending items = none := by
  cases fuel with
  | zero => rfl
  | succ fuel => cases verbose <;> rfl

theorem inBrackets_classItems (verbose : Bool) (fuel : Nat) (sofar : ClassSoFar)
    (text : List Char) :
    inBrackets verbose sofar (classItems verbose fuel) text =
      match readNamed? text with
      | some (item, left) => readClassItems verbose fuel left sofar.1 (item :: sofar.2)
      | none =>
        let (negated, first, left) := readClassHead verbose text
        (readClassItems verbose fuel left none first.reverse).bind fun (inner, left) =>
          readClassItems verbose fuel left sofar.1 (.bracketed negated inner :: sofar.2) := by
  simp only [inBrackets, andThen, named]
  cases readNamed? text with
  | some found => rfl
  | none =>
    simp only [Option.bind_some, andThen, classHead]
    generalize readClassHead verbose text = head
    obtain ⟨negated, first, left⟩ := head
    rfl

theorem classItems_succ (verbose : Bool) (fuel : Nat) (sofar : ClassSoFar) :
    classItems verbose (fuel + 1) sofar =
      (blanks verbose).andThen fun _ =>
        ifNext (· == ']') (fun _ => done (closeOperator sofar.1 sofar.2)) <|
          ifNext (· == '[') (fun _ => inBrackets verbose sofar (classItems verbose fuel)) <|
            onOperator sofar (classItems verbose fuel) <|
              byNext fun c => (itemFrom verbose c).andThen fun item =>
                classItems verbose fuel (sofar.1, item :: sofar.2) := by
  obtain ⟨pending, items⟩ := sofar
  funext text
  rw [classItems, readClassItems, blanks_andThen]
  split
  · next skipped => rw [skipped]; rfl
  · next rest skipped => rw [skipped, ifNext_self]; rfl
  · next rest skipped =>
    rw [skipped, ifNext_of_ne _ _ fun rest same => by simp at same, ifNext_self,
      inBrackets_classItems]
    rfl
  · next rest skipped => rw [skipped]; rfl
  · next rest skipped => rw [skipped]; rfl
  · next rest skipped => rw [skipped]; rfl
  · next empty bracket opening both hyphens tildes =>
    rw [ifNext_of_ne _ _ bracket, ifNext_of_ne _ _ opening]
    unfold onOperator
    rw [ifText_of_not_starts _ _ both, ifText_of_not_starts _ _ hyphens,
      ifText_of_not_starts _ _ tildes, byNext_andThen]
    exact readRange_bind verbose _ fun item => readClassItems_nil verbose fuel _ _

theorem local_classItems (closing : Closing tail) (verbose : Bool) {fuel fuel' : Nat}
    (enough : n ≤ fuel) (enough' : n ≤ fuel') (sofar : ClassSoFar) :
    Local tail n (classItems verbose fuel sofar) (classItems verbose fuel' sofar) := by
  refine Local.of_step (fun _ => shrinks_fail) (fun n fuel fuel' _ _ ih sofar => ?_) enough enough'
    sofar
  rw [classItems_succ, classItems_succ]
  refine (Local.blanks closing _ verbose).andThen fun _ =>
    Local.ifNext closing (by decide) (fun _ => Local.done _) <|
      Local.ifNext closing (by decide) (fun _ => ?_) <| ?_
  · refine (local_named closing).andThen fun item => ?_
    cases item with
    | some item => exact ih _
    | none =>
      exact (local_classHead closing verbose).andThen fun head =>
        (ih _).andThen fun inner => ih _
  · have behind : ∀ operator, Local tail (n + 1)
        (behindOperator sofar (classItems verbose fuel) operator)
        (behindOperator sofar (classItems verbose fuel') operator) := fun operator =>
      (Local.byNext closing fun _ => Local.byNext closing fun _ => ih _).mono (Nat.le_succ _)
    refine Local.ifText (closing.isPrefixOf_append (by decide)) (behind _) <|
      Local.ifText (closing.isPrefixOf_append (by decide)) (behind _) <|
        Local.ifText (closing.isPrefixOf_append (by decide)) (behind _) ?_
    exact Local.byNext closing fun c => (local_itemFrom closing verbose c).andThen fun item => ih _

theorem readClass_eq (verbose : Bool) (fuel : Nat) :
    readClass verbose fuel =
      (classHead verbose).andThen fun (negated, first) =>
        (classItems verbose fuel (none, first.reverse)).andThen fun inner =>
          done (.bracketed negated inner) := by
  funext text
  rw [readClass]
  simp only [andThen, classHead, classItems, Option.bind_some]
  rfl

theorem local_readClass (closing : Closing tail) (verbose : Bool) {fuel fuel' : Nat}
    (enough : n ≤ fuel) (enough' : n ≤ fuel') :
    Local tail n (readClass verbose fuel) (readClass verbose fuel') := by
  rw [readClass_eq, readClass_eq]
  exact (local_classHead closing verbose).andThen fun head =>
    (local_classItems closing verbose enough enough' _).andThen fun inner => Local.done _

end Homophone.Regex.Reader.Reading
