import Homophone.Proofs.Readings

/-! Counts and escapes with a closing parenthesis behind the text.

Every reader is written as a combination of smaller ones, and so takes no notice of what stands
behind its text.
-/

set_option autoImplicit false

namespace Homophone.Regex.Reader.Reading

variable {tail : List Char} {n : Nat}

/-! ## Numbers -/

theorem readHexDigits_succ (verbose : Bool) (count : Nat) :
    readHexDigits verbose (count + 1) =
      byNext fun c => (of (hexValue? c)).andThen fun d => (blanks verbose).andThen fun _ =>
        andThen (readHexDigits verbose count) fun digits => done (d :: digits) := by
  funext text
  cases text with
  | nil => rfl
  | cons c rest =>
    rw [readHexDigits]
    simp only [byNext, andThen, of]
    cases hexValue? c <;> rfl

theorem local_readHexDigits (closing : Closing tail) (verbose : Bool) (count : Nat) :
    Local tail n (readHexDigits verbose count) (readHexDigits verbose count) := by
  induction count with
  | zero => exact Local.done []
  | succ count ih =>
    rw [readHexDigits_succ]
    refine (Local.byNext closing fun c => ?_).mono (Nat.le_succ n)
    exact (Local.of _).andThen fun d => (Local.blanks closing n verbose).andThen fun _ =>
      ih.andThen fun digits => Local.done _

theorem readHexBraced_succ (verbose : Bool) (fuel : Nat) :
    readHexBraced verbose (fuel + 1) =
      (blanks verbose).andThen fun _ => byNext fun c =>
        if c = '\x7d' then (blanks verbose).andThen fun _ => done []
        else (of (hexValue? c)).andThen fun d => andThen (readHexBraced verbose fuel) fun digits =>
          done (d :: digits) := by
  funext text
  rw [readHexBraced]
  simp only [andThen, blanks, Option.bind_some]
  split
  · next skipped => rw [skipped]; rfl
  · next rest skipped => rw [skipped]; rfl
  · next c rest other skipped =>
    rw [skipped, byNext, if_neg other]
    cases hexValue? c <;> rfl

theorem local_readHexBraced (closing : Closing tail) (verbose : Bool) {fuel fuel' : Nat}
    (enough : n ≤ fuel) (enough' : n ≤ fuel') :
    Local tail n (readHexBraced verbose fuel) (readHexBraced verbose fuel') := by
  refine Local.of_round shrinks_fail (fun n fuel fuel' ih => ?_) enough enough'
  rw [readHexBraced_succ, readHexBraced_succ]
  refine (Local.blanks closing _ verbose).andThen fun _ => Local.byNext closing fun c =>
    Local.ite (fun _ => ?_) fun _ => ?_
  · exact (Local.blanks closing _ verbose).andThen fun _ => Local.done []
  · exact (Local.of _).andThen fun d => ih.andThen fun digits => Local.done _

theorem readHex_succ (verbose isByte : Bool) (width : Nat) :
    readHex verbose (width + 1) isByte =
      (blanks verbose).andThen fun _ => ifNext (· == '\x7b')
        (fun _ => (sized (readHexBraced verbose)).andThen fun digits =>
          of (if digits.isEmpty then none
            else (charOfPoint? (ofDigits 16 digits)).map fun c => ⟨c, false⟩))
        (andThen (readHexDigits verbose (width + 1)) fun digits =>
          of ((charOfPoint? (ofDigits 16 digits)).map fun c => ⟨c, isByte⟩)) := by
  funext text
  rw [readHex]
  simp only [andThen, blanks, Option.bind_some]
  split
  · next skipped => rw [skipped]; rfl
  · next rest skipped =>
    simp only [skipped, ifNext, andThen, sized, of, beq_self_eq_true, if_true]
    cases readHexBraced verbose (rest.length + 1) rest with
    | none => rfl
    | some found =>
      obtain ⟨digits, left⟩ := found
      cases digits with
      | nil => rfl
      | cons d digits => cases value : charOfPoint? (ofDigits 16 (d :: digits)) <;> simp [value]
  · next other =>
    rw [ifNext_of_ne _ _ other]
    simp only [andThen, of]
    cases readHexDigits verbose (width + 1) (skip verbose text) with
    | none => rfl
    | some found => cases value : charOfPoint? (ofDigits 16 found.1) <;> simp [value]

theorem local_readHex (closing : Closing tail) (verbose isByte : Bool) (width : Nat) :
    Local tail n (readHex verbose (width + 1) isByte) (readHex verbose (width + 1) isByte) := by
  rw [readHex_succ]
  refine ((Local.blanks closing _ verbose).andThen fun _ =>
    Local.ifNext closing (by decide) (fun _ => ?_) ?_).mono (Nat.le_succ n)
  · exact (Local.sized fun n fuel fuel' => local_readHexBraced closing verbose).andThen
      fun digits => Local.of _
  · exact (local_readHexDigits closing verbose (width + 1)).andThen fun digits => Local.of _

def spaces : Reading Unit := fun text => some ((), text.dropWhile Unicode.isWhiteSpace)

theorem Closing.dropWhile_append {tail : List Char} (closing : Closing tail) (text : List Char) :
    (text ++ tail).dropWhile Unicode.isWhiteSpace =
      text.dropWhile Unicode.isWhiteSpace ++ tail := by
  induction text with
  | nil => cases closing <;> decide
  | cons c rest ih =>
    rw [List.cons_append, List.dropWhile_cons, List.dropWhile_cons]
    split
    · exact ih
    · rfl

theorem local_spaces (closing : Closing tail) : Local tail n spaces spaces where
  shrinks text x left found := by
    cases found
    exact List.dropWhile_suffix _
  shrinks' text x left found := by
    cases found
    exact List.dropWhile_suffix _
  empty _ := rfl
  agrees text _ := by
    rw [spaces, spaces, closing.dropWhile_append]
    exact .same () _

def digits (verbose : Bool) : Reading (List Nat) := fun text =>
  some (readDigits verbose false text)

theorem readDigits_isSuffix (verbose comment : Bool) (text : List Char) :
    (readDigits verbose comment text).2 <:+ text := by
  fun_induction readDigits verbose comment text with grind

theorem Closing.readDigits_eq {tail : List Char} (closing : Closing tail) (verbose : Bool) :
    readDigits verbose false tail = ([], tail) ∧ readDigits verbose true tail = ([], []) := by
  cases closing <;> cases verbose <;> exact ⟨by decide, by decide⟩

theorem Closing.agrees_readDigits {tail : List Char} (closing : Closing tail)
    (verbose comment : Bool) (text : List Char) :
    Agrees tail (some (readDigits verbose comment text))
      (some (readDigits verbose comment (text ++ tail))) := by
  induction text generalizing comment with
  | nil =>
    rw [readDigits, List.nil_append]
    cases comment with
    | false =>
      rw [(closing.readDigits_eq verbose).1]
      exact .same [] []
    | true =>
      rw [(closing.readDigits_eq verbose).2]
      exact .swallowed []
  | cons c rest ih =>
    rw [List.cons_append, readDigits, readDigits]
    split
    · exact ih _
    · split
      · next d value =>
        have agree := ih false
        generalize readDigits verbose false rest = alone at agree
        generalize readDigits verbose false (rest ++ tail) = within at agree
        cases agree with
        | same => exact .same _ _
        | swallowed => exact .swallowed _
      · split
        · exact ih false
        · split
          · exact ih true
          · exact .same [] (c :: rest)

theorem local_digits (closing : Closing tail) (verbose : Bool) :
    Local tail n (digits verbose) (digits verbose) where
  shrinks text found left read := by
    have same : (readDigits verbose false text).2 = left := congrArg Prod.snd (Option.some.inj read)
    exact same ▸ readDigits_isSuffix verbose false text
  shrinks' text found left read := by
    have same : (readDigits verbose false text).2 = left := congrArg Prod.snd (Option.some.inj read)
    exact same ▸ readDigits_isSuffix verbose false text
  empty _ := rfl
  agrees text _ := closing.agrees_readDigits verbose false text

def decimal (verbose : Bool) : Reading (Option Nat) := fun text => some (readDecimal verbose text)

theorem decimal_eq (verbose : Bool) :
    decimal verbose =
      spaces.andThen fun _ => (digits verbose).andThen fun digits => spaces.andThen fun _ =>
        (blanks verbose).andThen fun _ =>
          done (if digits.isEmpty || countBound ≤ ofDigits 10 digits then none
            else some (ofDigits 10 digits)) := rfl

theorem local_decimal (closing : Closing tail) (verbose : Bool) :
    Local tail n (decimal verbose) (decimal verbose) := by
  rw [decimal_eq]
  exact (local_spaces closing).andThen fun _ => (local_digits closing verbose).andThen fun _ =>
    (local_spaces closing).andThen fun _ => (Local.blanks closing n verbose).andThen fun _ =>
      Local.done _

def braced {α : Type} (outcome : Option α) : Reading α :=
  ifNext (· == '\x7d') (fun _ => of outcome) fail

theorem braced_of_ne {α : Type} (outcome : Option α) {text : List Char}
    (other : ∀ rest, text = '\x7d' :: rest → False) : braced outcome text = none :=
  ifNext_of_ne _ _ other

theorem local_braced (closing : Closing tail) {α : Type} (outcome : Option α) :
    Local tail n (braced outcome) (braced outcome) :=
  (Local.ifNext closing (by decide) (fun _ => Local.of outcome) Local.fail).mono (Nat.le_succ n)

def most (verbose : Bool) (least : Nat) : Reading (Nat × Option Nat) :=
  (decimal verbose).andThen fun number => (of number).andThen fun most =>
    braced (if least ≤ most then some (least, some most) else none)

theorem readCounts_eq (verbose : Bool) :
    readCounts verbose =
      (blanks verbose).andThen fun _ => (decimal verbose).andThen fun number =>
        (of number).andThen fun least => ifNext (· == ',')
          (fun _ => (blanks verbose).andThen fun _ =>
            ifNext (· == '\x7d') (fun _ => done (least, none)) (most verbose least))
          (braced (some (least, some least))) := by
  funext text
  rw [readCounts]
  simp only [andThen, blanks, Option.bind_some, decimal, of]
  generalize skip verbose text = text
  cases text with
  | nil => rfl
  | cons c rest =>
    rw [List.isEmpty_cons, if_neg Bool.false_ne_true]
    split
    · next least rest read =>
      simp only [read, Option.map_some, Option.bind_some, ifNext_self, andThen, blanks]
      split
      · next skipped => rw [skipped, ifNext_self]; rfl
      · next other =>
        rw [ifNext_of_ne _ _ other]
        simp only [most, andThen, decimal, Option.bind_some]
        split
        · next bound left read =>
          simp only [read, of, Option.map_some, Option.bind_some, braced, ifNext_self]
          split <;> rfl
        · next other =>
          generalize readDecimal verbose _ = found at other
          obtain ⟨number, left⟩ := found
          cases number with
          | none => rfl
          | some most => exact (braced_of_ne _ fun rest same => other most rest (same ▸ rfl)).symm
    · next count left read =>
      simp only [read, Option.map_some, Option.bind_some]
      rfl
    · next comma brace =>
      generalize readDecimal verbose _ = found at comma brace
      obtain ⟨number, left⟩ := found
      cases number with
      | none => rfl
      | some least =>
        simp only [Option.map_some, Option.bind_some]
        rw [ifNext_of_ne _ _ fun rest same => comma least rest (same ▸ rfl)]
        exact (braced_of_ne _ fun rest same => brace least rest (same ▸ rfl)).symm

theorem local_readCounts (closing : Closing tail) (verbose : Bool) :
    Local tail n (readCounts verbose) (readCounts verbose) := by
  rw [readCounts_eq]
  refine (Local.blanks closing n verbose).andThen fun _ =>
    (local_decimal closing verbose).andThen fun number => (Local.of number).andThen fun least =>
      (Local.ifNext closing (by decide) (fun _ => ?_) (local_braced closing _)).mono (Nat.le_succ n)
  refine (Local.blanks closing n verbose).andThen fun _ =>
    (Local.ifNext closing (by decide) (fun _ => Local.done _) ?_).mono (Nat.le_succ n)
  exact (local_decimal closing verbose).andThen fun number => (Local.of number).andThen fun most =>
    local_braced closing _

/-! ## Properties -/

theorem readBraced_succ (verbose : Bool) (fuel : Nat) :
    readBraced verbose (fuel + 1) =
      (blanks verbose).andThen fun _ => byNext fun c =>
        if c = '\x7d' then done []
        else andThen (readBraced verbose fuel) fun name => done (c :: name) := by
  funext text
  rw [readBraced]
  simp only [andThen, blanks, Option.bind_some]
  split
  · next skipped => rw [skipped]; rfl
  · next rest skipped => rw [skipped]; rfl
  · next c rest other skipped =>
    rw [skipped, byNext, if_neg other, andThen]
    cases readBraced verbose fuel rest <;> rfl

theorem local_readBraced (closing : Closing tail) (verbose : Bool) {fuel fuel' : Nat}
    (enough : n ≤ fuel) (enough' : n ≤ fuel') :
    Local tail n (readBraced verbose fuel) (readBraced verbose fuel') := by
  refine Local.of_round shrinks_fail (fun n fuel fuel' ih => ?_) enough enough'
  rw [readBraced_succ, readBraced_succ]
  refine (Local.blanks closing _ verbose).andThen fun _ => Local.byNext closing fun c =>
    Local.ite (fun _ => Local.done []) fun _ => ih.andThen fun name => Local.done _

theorem readProperty_eq (verbose negated : Bool) :
    readProperty verbose negated =
      (blanks verbose).andThen fun _ => byNext fun c =>
        if c = '\x7b' then (sized (readBraced verbose)).andThen fun name =>
          done (.property (queryOf name).1 (negated != (queryOf name).2))
        else if c = '\\' then fail
        else (blanks verbose).andThen fun _ =>
          done (.property (.named (String.singleton c)) negated) := by
  funext text
  rw [readProperty]
  simp only [andThen, blanks, Option.bind_some]
  split
  · next skipped => rw [skipped]; rfl
  · next rest skipped =>
    rw [skipped, byNext, if_pos rfl]
    simp only [andThen, sized]
    cases readBraced verbose (rest.length + 1) rest <;> rfl
  · next rest skipped => rw [skipped]; rfl
  · next c rest brace backslash skipped => rw [skipped, byNext, if_neg brace, if_neg backslash]; rfl

theorem local_readProperty (closing : Closing tail) (verbose negated : Bool) :
    Local tail n (readProperty verbose negated) (readProperty verbose negated) := by
  rw [readProperty_eq]
  refine ((Local.blanks closing _ verbose).andThen fun _ => Local.byNext closing fun c =>
    Local.ite (fun _ => ?_) fun _ => Local.ite (fun _ => Local.fail) fun _ => ?_).mono
      (Nat.le_succ n)
  · exact (Local.sized fun n fuel fuel' => local_readBraced closing verbose).andThen
      fun name => Local.done _
  · exact (Local.blanks closing n verbose).andThen fun _ => Local.done _

/-! ## Boundaries -/

def boundaryName (verbose : Bool) (fuel : Nat) : Reading (List Char) := fun text =>
  some (readBoundaryName verbose fuel text)

theorem boundaryName_succ (verbose : Bool) (fuel : Nat) :
    boundaryName verbose (fuel + 1) =
      ifNext isBoundaryNameChar (fun c => (blanks verbose).andThen fun _ =>
        (boundaryName verbose fuel).andThen fun name => done (c :: name)) (done []) := by
  funext text
  cases text with
  | nil => rfl
  | cons c rest =>
    rw [boundaryName, readBoundaryName, ifNext]
    split <;> rfl

theorem local_boundaryName (closing : Closing tail) (verbose : Bool) {fuel fuel' : Nat}
    (enough : n ≤ fuel) (enough' : n ≤ fuel') :
    Local tail n (boundaryName verbose fuel) (boundaryName verbose fuel') :=
  Local.whileNext closing (by decide) rfl (boundaryName_succ verbose) enough enough'

def boundaryOf? (name : List Char) : Option Assertion :=
  match String.ofList name with
  | "start" => some .wordStart
  | "end" => some .wordEnd
  | "start-half" => some .wordStartHalf
  | "end-half" => some .wordEndHalf
  | _ => none

def namedBoundary (verbose : Bool) : Reading Assertion :=
  (sized (boundaryName verbose)).andThen fun name => braced (boundaryOf? name)

theorem local_namedBoundary (closing : Closing tail) (verbose : Bool) :
    Local tail n (namedBoundary verbose) (namedBoundary verbose) :=
  (Local.sized fun _ _ _ => local_boundaryName closing verbose).andThen
    fun _ => local_braced closing _

theorem readBoundary_brace (verbose : Bool) (rest : List Char) :
    readBoundary verbose ('\x7b' :: rest) =
      match skip verbose rest with
      | [] => none
      | c :: inner =>
        if isBoundaryNameChar c then namedBoundary verbose (c :: inner)
        else some (.wordBoundary, '\x7b' :: rest) := by
  rw [readBoundary]
  split
  · next skipped => rw [skipped]
  · next c inner skipped =>
    rw [skipped]
    dsimp only
    split
    · rw [namedBoundary]
      simp only [andThen, sized, boundaryName, Option.bind_some]
      split
      · next name left read =>
        simp only [read, braced, ifNext_self, of, boundaryOf?]
        generalize String.ofList name = name
        split <;> simp
      · next other =>
        generalize readBoundaryName verbose _ _ = found at other
        exact (braced_of_ne _ fun rest same => other found.1 rest (same ▸ rfl)).symm
    · rfl

/-- Whether a brace stands before a closing parenthesis, which no pattern has. -/
def closesInBrace (verbose : Bool) : List Char → Bool
  | '\x7b' :: rest => (skip verbose rest).head? == some ')'
  | _ => false

/-- What follows `\b`, where the pattern can go on. At a brace behind which the text ends nothing is
read, but a parenthesis in this place makes the brace one that is not part of the name. -/
def boundary (verbose : Bool) : Reading Assertion := fun text =>
  if closesInBrace verbose text then none else readBoundary verbose text

theorem skip_brace (verbose : Bool) (rest : List Char) :
    skip verbose ('\x7b' :: rest) = '\x7b' :: rest := by
  have white : Unicode.isWhiteSpace '\x7b' = false := by decide
  cases verbose with
  | false => rfl
  | true => simp [skip, skipComments, white]

theorem exists_of_closesInBrace {verbose : Bool} {text : List Char}
    (closes : closesInBrace verbose text = true) :
    ∃ rest left, text = '\x7b' :: rest ∧ skip verbose rest = ')' :: left := by
  rw [closesInBrace.eq_def] at closes
  split at closes
  · next rest =>
    obtain ⟨left, skipped⟩ := List.head?_eq_some_iff.1 (beq_iff_eq.1 closes)
    exact ⟨rest, left, rfl, skipped⟩
  · cases closes

theorem readBoundary_of_closesInBrace {verbose : Bool} {text : List Char}
    (closes : closesInBrace verbose text = true) :
    readBoundary verbose text = some (.wordBoundary, text) := by
  obtain ⟨rest, left, rfl, skipped⟩ := exists_of_closesInBrace closes
  rw [readBoundary_brace, skipped]
  rfl

theorem readCounts_of_closes {verbose : Bool} {rest left : List Char}
    (skipped : skip verbose rest = ')' :: left) : readCounts verbose rest = none := by
  have white : Unicode.isWhiteSpace ')' = false := by decide
  have number : (readDecimal verbose (')' :: left)).1 = none := by
    simp [readDecimal, white, readDigits, digitValue?]
  rw [readCounts, skipped]
  rw [List.isEmpty_cons, if_neg Bool.false_ne_true]
  split
  · next read => simp [read] at number
  · next read => simp [read] at number
  · rfl

theorem boundary_of_ne (verbose : Bool) {text : List Char}
    (other : ∀ rest, text = '\x7b' :: rest → False) :
    boundary verbose text = some (.wordBoundary, text) := by
  rw [boundary, closesInBrace, if_neg Bool.false_ne_true, readBoundary]
  · exact other
  · exact other

theorem shrinks_boundary (verbose : Bool) : Shrinks (boundary verbose) := by
  intro text assertion left found
  by_cases brace : ∃ rest, text = '\x7b' :: rest
  · obtain ⟨rest, rfl⟩ := brace
    rw [boundary, readBoundary_brace] at found
    split at found
    · cases found
    · split at found
      · cases found
      · next c inner skipped =>
        split at found
        · have shorter := (local_namedBoundary .group (n := 0) verbose).shrinks found
          exact shorter.trans ((skipped ▸ skip_isSuffix verbose rest).trans (List.suffix_cons _ _))
        · cases found
          exact List.suffix_refl _
  · rw [boundary_of_ne verbose fun rest same => brace ⟨rest, same⟩] at found
    cases found
    exact List.suffix_refl _

theorem agrees_boundary (closing : Closing tail) (verbose : Bool) (text : List Char) :
    Agrees tail (boundary verbose text) (boundary verbose (text ++ tail)) := by
  by_cases brace : ∃ rest, text = '\x7b' :: rest
  · obtain ⟨rest, rfl⟩ := brace
    rw [List.cons_append, boundary, boundary, closesInBrace, closesInBrace, readBoundary_brace,
      readBoundary_brace]
    rcases closing.skip_append verbose rest with ⟨c, inner, here, more⟩ | ⟨here, more | more⟩
    · simp only [here, more, List.head?_cons]
      split
      · exact .none
      · split
        · exact (local_namedBoundary closing verbose).agrees (c :: inner) (Nat.lt_succ_self _)
        · exact .same _ ('\x7b' :: rest)
    · rw [here, more]
      cases closing <;> exact .none
    · rw [here, more]
      exact .none
  · have other : ∀ rest, text = '\x7b' :: rest → False := fun rest same => brace ⟨rest, same⟩
    have other' : ∀ rest, text ++ tail = '\x7b' :: rest → False := by
      intro rest same
      cases text with
      | nil => cases closing <;> cases same
      | cons c text => exact other text (congrArg (· :: text) (List.cons.inj same).1)
    rw [boundary_of_ne verbose other, boundary_of_ne verbose other']
    exact .same _ text

theorem local_boundary (closing : Closing tail) (verbose : Bool) :
    Local tail n (boundary verbose) (boundary verbose) where
  shrinks := shrinks_boundary verbose
  shrinks' := shrinks_boundary verbose
  empty _ := rfl
  agrees text _ := agrees_boundary closing verbose text

/-! ## Escapes -/

def escapeFrom (verbose : Bool) (c : Char) : Reading Primitive :=
  match c with
  | 'x' => andThen (readHex verbose 2 true) fun literal => done (.literal literal)
  | 'u' => andThen (readHex verbose 4 false) fun literal => done (.literal literal)
  | 'U' => andThen (readHex verbose 8 false) fun literal => done (.literal literal)
  | 'p' => readProperty verbose false
  | 'P' => readProperty verbose true
  | 'b' => (boundary verbose).andThen fun assertion => done (.assertion assertion)
  -- The others read nothing more.
  | c => of ((readEscape verbose [c]).map (·.1))

theorem local_escapeFrom (closing : Closing tail) (verbose : Bool) (c : Char) :
    Local tail n (escapeFrom verbose c) (escapeFrom verbose c) := by
  unfold escapeFrom
  split
  · exact (local_readHex closing verbose true 1).andThen fun _ => Local.done _
  · exact (local_readHex closing verbose false 3).andThen fun _ => Local.done _
  · exact (local_readHex closing verbose false 7).andThen fun _ => Local.done _
  · exact local_readProperty closing verbose false
  · exact local_readProperty closing verbose true
  · exact (local_boundary closing verbose).andThen fun _ => Local.done _
  · exact Local.of _

/-- What is read in two ways: alike, or in one of them as a word boundary in front of a brace that
no pattern goes on with. -/
inductive Viable (verbose : Bool) : Option (Primitive × List Char) →
    Option (Primitive × List Char) → Prop where
  | same (found : Option (Primitive × List Char)) : Viable verbose found found
  | closed (rest : List Char) : closesInBrace verbose rest = true →
      Viable verbose (some (.assertion .wordBoundary, rest)) none

theorem Viable.bind_eq {β : Type} {verbose : Bool} {found found' : Option (Primitive × List Char)}
    (viable : Viable verbose found found') {next : Primitive × List Char → Option β}
    (stuck : ∀ rest, closesInBrace verbose rest = true →
      next (.assertion .wordBoundary, rest) = none) : found.bind next = found'.bind next := by
  cases viable with
  | same => rfl
  | closed rest closes => exact stuck rest closes

theorem readEscape_cons (verbose : Bool) {c : Char} (rest : List Char)
    (short : c ∉ ['x', 'u', 'U', 'p', 'P', 'b']) :
    readEscape verbose (c :: rest) = of ((readEscape verbose [c]).map (·.1)) rest := by
  unfold readEscape
  dsimp only [of]
  split
  all_goals first | rfl | exact absurd (by decide) short | skip
  split <;> rfl

theorem viable_escape (verbose : Bool) (text : List Char) :
    Viable verbose (readEscape verbose text) (byNext (escapeFrom verbose) text) := by
  cases text with
  | nil => exact .same none
  | cons c rest =>
    rw [byNext]
    unfold escapeFrom
    split
    · rw [readEscape, andThen]
      cases readHex verbose 2 true rest <;> exact .same _
    · rw [readEscape, andThen]
      cases readHex verbose 4 false rest <;> exact .same _
    · rw [readEscape, andThen]
      cases readHex verbose 8 false rest <;> exact .same _
    · exact .same _
    · exact .same _
    · rw [readEscape, andThen, boundary]
      split
      · next closes =>
        rw [readBoundary_of_closesInBrace closes]
        exact .closed rest closes
      · cases readBoundary verbose rest <;> exact .same _
    · rw [readEscape_cons verbose rest (by simp_all)]
      exact .same _

end Homophone.Regex.Reader.Reading
