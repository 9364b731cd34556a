import Homophone.Proofs.PatternReading
import Homophone.Proofs.Spans
import Homophone.Rule

/-! Contexts put into a group and anchored.

A rule does not search for a context but for a pattern that it is put into, between parentheses and
with an anchor. That is as good as a match of the context that touches the place where the rule
applies, as long as the group around the context ends where it was meant to end.
-/

set_option autoImplicit false

namespace Homophone

/-! ## Patterns read to their end -/

namespace Regex.Reader

/-- What is left of a pattern where its items end: nothing, or a parenthesis that closes no group of
the pattern and what follows it. -/
def leftOver? (pattern : List Char) : Option (List Char) :=
  (readItems (pattern.length + 1) ⟨pattern, false, [], 0⟩ [] []).map (·.2.rest)

def tree? (pattern : List Char) : Option Node :=
  (readItems (pattern.length + 1) ⟨pattern, false, [], 0⟩ [] []).bind fun (node, state) =>
    if state.rest.isEmpty then some node else none

theorem read_eq (pattern : List Char) :
    read pattern =
      (tree? pattern).bind fun node => if node.depth ≤ depthLimit then some node else none := by
  rw [read, tree?]
  cases readItems (pattern.length + 1) ⟨pattern, false, [], 0⟩ [] [] with
  | none => rfl
  | some found =>
    obtain ⟨node, state⟩ := found
    dsimp only [bind, Option.bind_some]
    by_cases empty : state.rest.isEmpty = true <;> by_cases depth : node.depth ≤ depthLimit <;>
      simp [empty, depth]

namespace Reading

variable {tail : List Char}

def atStart : PatternSoFar := ⟨false, ([], 0), [], []⟩

theorem leftOver?_eq (text : List Char) :
    leftOver? text = (pattern (text.length + 1) atStart text).map (·.2) := by
  rw [leftOver?, pattern, Option.map_map]
  rfl

theorem tree?_eq (text : List Char) :
    tree? text = (pattern (text.length + 1) atStart text).bind fun (found, left) =>
      if left.isEmpty then some found.1 else none := by
  rw [tree?, pattern]
  change _ = (Option.map _ (readItems (text.length + 1) ⟨text, false, [], 0⟩ [] [])).bind _
  rw [Option.bind_map]
  rfl

theorem Agrees.eq_of_nil {α : Type} {alone within : Option (α × List Char)}
    (agree : Agrees [] alone within) : alone = within := by
  cases agree with
  | same x left => rw [List.append_nil]
  | swallowed x => rfl
  | lost beyond =>
    cases within with
    | none => rfl
    | some found => exact absurd (beyond found.1 found.2 rfl) (Nat.not_lt_zero _)

theorem pattern_fuel {fuel fuel' : Nat} {text : List Char} (enough : text.length < fuel)
    (enough' : text.length < fuel') (sofar : PatternSoFar) :
    pattern fuel sofar text = pattern fuel' sofar text := by
  have agree := (local_pattern .nothing enough enough' sofar).agrees text (Nat.lt_succ_self _)
  rw [List.append_nil] at agree
  exact agree.eq_of_nil

theorem agrees_pattern (closing : Closing tail) (text : List Char) :
    Agrees tail (pattern (text.length + 1) atStart text)
      (pattern ((text ++ tail).length + 1) atStart (text ++ tail)) := by
  have longer : text.length + 1 ≤ (text ++ tail).length + 1 := by
    rw [List.length_append]
    omega
  exact (local_pattern closing (Nat.le_refl _) longer atStart).agrees text (Nat.lt_succ_self _)

def enclosed (fuel : Nat) (sofar : PatternSoFar) : Reading (Node × Captures) :=
  (pattern fuel atStart).andThen fun (inner, captures) => byNext fun c =>
    if c = ')' then pattern fuel { sofar.push (.group none [] inner) with captures } else fail

theorem patternFrom_group (fuel : Nat) (branches items : List Node) (text : List Char) :
    patternFrom fuel ⟨false, ([], 0), branches, items⟩ '(' ('?' :: ':' :: text) =
      enclosed fuel ⟨false, ([], 0), branches, items⟩ text := by
  have head : groupHead false ([], 0) ('?' :: ':' :: text) =
      some ((.group none [], [], 0), text) := rfl
  change inParentheses fuel _ _ = _
  rw [inParentheses, andThen, head]
  rfl

end Reading

end Regex.Reader

namespace Regex

theorem ofPattern?_eq (pattern : List Char) :
    ofPattern? pattern = (Reader.tree? pattern).bind fun node =>
      (node.compile {}).bind fun (regex, _) =>
        if node.depth ≤ Reader.depthLimit && regex.isWithinLimit then some regex else none := by
  rw [ofPattern?, Reader.read_eq]
  cases Reader.tree? pattern with
  | none => rfl
  | some node =>
    dsimp only [Option.bind_some, bind]
    by_cases shallow : node.depth ≤ Reader.depthLimit
    · rw [if_pos shallow]
      simp [shallow]
    · rw [if_neg shallow]
      cases node.compile {} <;> simp [shallow]

end Regex

/-! ## The two sides of a rule -/

namespace Context

open Regex.Reader Regex.Reader.Reading

inductive Side where
  | left
  | right

namespace Side

def pattern : Side → List Char → List Char
  | left => leftPattern
  | right => rightPattern

def closing : Side → List Char
  | left => [')', '$']
  | right => [')']

def tree : Side → Regex.Node → Regex.Node
  | left, node => .sequence (.group none [] node) (.primitive (.assertion .lineEnd))
  | right, node => .sequence (.primitive (.assertion .lineStart)) (.group none [] node)

def anchored : Side → Regex → Regex
  | left, regex => .sequence (.group none regex) (.look .textEnd)
  | right, regex => .sequence (.look .textStart) (.group none regex)

/-- An expression matches up to the end of the text before a rule, or from the start of the text
behind it. -/
def Touches : Side → Regex → List Char → Prop
  | left, regex, text => ∃ start, regex.Spans text.toArray start text.length
  | right, regex, text => ∃ stop, regex.Spans text.toArray 0 stop

variable (side : Side)

theorem occursIn_anchored {regex : Regex} {text : List Char} :
    (side.anchored regex).occursIn text = true ↔ side.Touches regex text := by
  cases side with
  | left => exact Regex.occursIn_textEnd_iff
  | right => exact Regex.occursIn_textStart_iff

theorem depth_tree (node : Regex.Node) : (side.tree node).depth = node.depth + 2 := by
  cases side with
  | left => simp [tree, Regex.Node.depth]; omega
  | right => simp [tree, Regex.Node.depth]; omega

/-- The flags that a source sets are those of its group and change nothing in the anchor. -/
theorem compile_tree (node : Regex.Node) :
    (side.tree node).compile {} =
      (node.compile {}).map fun (regex, _) => (side.anchored regex, {}) := by
  have unchanged : ({} : Regex.Mode).apply [] = {} := rfl
  cases side with
  | left =>
    simp only [tree, Regex.Node.compile, unchanged]
    cases node.compile {} <;> rfl
  | right =>
    have start : (Regex.Node.primitive (.assertion .lineStart)).compile {} =
      some (.look .textStart, {}) := rfl
    rw [tree, Regex.Node.compile, start]
    simp only [Regex.Node.compile, unchanged, bind, Option.bind_some]
    cases node.compile {} <;> rfl

def before : Side → PatternSoFar
  | left => atStart
  | right => atStart.push (.primitive (.assertion .lineStart))

theorem closes : Closing side.closing := by
  cases side with
  | left => exact .anchored
  | right => exact .group

theorem pattern_eq_enclosed (source : List Char) :
    ∃ fuel, source.length + 4 ≤ fuel ∧
      Reading.pattern ((side.pattern source).length + 1) atStart (side.pattern source) =
        enclosed fuel side.before (source ++ side.closing) := by
  cases side with
  | left =>
    refine ⟨source.length + 5, by omega, ?_⟩
    have long : (pattern left source).length = source.length + 5 := by
      simp [pattern, leftPattern]
    rw [long, pattern_succ]
    exact patternFrom_group (source.length + 5) [] [] (source ++ closing left)
  | right =>
    refine ⟨source.length + 4, by omega, ?_⟩
    have long : (pattern right source).length = source.length + 5 := by
      simp [pattern, rightPattern]
    rw [long, pattern_succ]
    change Reading.pattern (source.length + 4 + 1) (before right) _ = _
    rw [pattern_succ]
    exact patternFrom_group (source.length + 4) [] _ (source ++ closing right)

theorem pattern_closing {fuel : Nat} (enough : 2 ≤ fuel) (inner : Regex.Node)
    (captures : Captures) :
    Reading.pattern fuel { side.before.push (.group none [] inner) with captures }
      side.closing.tail = some ((side.tree inner, captures), []) := by
  obtain ⟨fuel, rfl⟩ := Nat.exists_eq_add_of_le' enough
  cases side <;> rfl

/-- Less than what closes a group is no end of a group. -/
theorem ne_closing {source left : List Char} (behind : left <:+ source ++ side.closing)
    (short : left.length < side.closing.length) (rest : List Char) : left ≠ ')' :: rest := by
  have inside := List.suffix_of_suffix_length_le behind (List.suffix_append source side.closing)
    (Nat.le_of_lt short)
  rintro rfl
  cases side with
  | left =>
    rcases List.suffix_cons_iff.1 inside with whole | inner
    · exact absurd (whole ▸ short) (Nat.lt_irrefl _)
    · exact absurd (inner.subset List.mem_cons_self) (by decide)
  | right => exact absurd short (by simp [closing])

theorem tree?_pattern (source : List Char) :
    ∃ fuel, source.length + 4 ≤ fuel ∧ tree? (side.pattern source) =
      (enclosed fuel side.before (source ++ side.closing)).bind fun (found, rest) =>
        if rest.isEmpty then some found.1 else none := by
  obtain ⟨fuel, enough, read⟩ := side.pattern_eq_enclosed source
  exact ⟨fuel, enough, by rw [tree?_eq, read]⟩

theorem tree?_pattern_of_closing {source : List Char} {node : Regex.Node} {captures : Captures}
    (read : Reading.pattern ((source ++ side.closing).length + 1) atStart (source ++ side.closing) =
      some ((node, captures), side.closing)) :
    tree? (side.pattern source) = some (side.tree node) := by
  obtain ⟨fuel, enough, whole⟩ := side.tree?_pattern source
  have fits : (source ++ side.closing).length < fuel := by
    cases side <;> simp [closing] <;> omega
  rw [pattern_fuel (Nat.lt_succ_self _) fits] at read
  have close : side.closing = ')' :: side.closing.tail := by cases side <;> rfl
  rw [whole, enclosed, andThen, read, Option.bind_some, close]
  dsimp only [byNext]
  rw [if_pos rfl, side.pattern_closing (by omega)]
  rfl

theorem tree?_pattern_of_lost {source : List Char}
    (lost : ∀ found left,
      Reading.pattern ((source ++ side.closing).length + 1) atStart (source ++ side.closing) =
        some (found, left) → left.length < side.closing.length) :
    tree? (side.pattern source) = none := by
  obtain ⟨fuel, enough, whole⟩ := side.tree?_pattern source
  have fits : (source ++ side.closing).length < fuel := by
    cases side <;> simp [closing] <;> omega
  rw [pattern_fuel (Nat.lt_succ_self _) fits] at lost
  rw [whole, enclosed, andThen]
  cases read : Reading.pattern fuel atStart (source ++ side.closing) with
  | none => rfl
  | some found =>
    obtain ⟨found, left⟩ := found
    have other := side.ne_closing (shrinks_pattern fuel atStart read) (lost found left read)
    cases left with
    | nil => rfl
    | cons c rest =>
      dsimp only [Option.bind_some, byNext]
      rw [if_neg (head_ne other)]
      rfl

/-- Whether the group around a source ends where it was meant to end. A source can close the group
itself, or hide its end in a comment. -/
def encloses (source : List Char) : Bool :=
  match leftOver? source with
  | none => true
  | some _ => leftOver? (source ++ side.closing) = some side.closing

theorem tree?_of_encloses {source : List Char} (encloses : side.encloses source = true) :
    tree? (side.pattern source) = (tree? source).map side.tree := by
  have agree := agrees_pattern side.closes source
  rw [Side.encloses, leftOver?_eq, leftOver?_eq] at encloses
  rw [tree?_eq source]
  cases alone : Reading.pattern (source.length + 1) atStart source with
  | none =>
    rw [alone] at agree
    cases agree with
    | lost lost => exact side.tree?_pattern_of_lost lost
  | some found =>
    obtain ⟨⟨node, captures⟩, rest⟩ := found
    rw [alone] at agree encloses
    generalize within : Reading.pattern _ atStart (source ++ side.closing) = outcome
      at agree encloses
    cases agree with
    | same =>
      have whole : rest ++ side.closing = side.closing := by simpa using encloses
      cases List.append_left_eq_self.1 whole
      exact side.tree?_pattern_of_closing within
    | swallowed =>
      have nothing : [] = side.closing := by simpa using encloses
      cases side <;> cases nothing

theorem tree?_of_not_encloses {source : List Char} (opened : side.encloses source = false) :
    tree? source = none ∨ tree? (side.pattern source) = none := by
  have agree := agrees_pattern side.closes source
  rw [Side.encloses, leftOver?_eq, leftOver?_eq] at opened
  rw [tree?_eq source]
  cases alone : Reading.pattern (source.length + 1) atStart source with
  | none => exact .inl rfl
  | some found =>
    obtain ⟨found, rest⟩ := found
    rw [alone] at agree opened
    generalize within : Reading.pattern _ atStart (source ++ side.closing) = outcome at agree opened
    cases agree with
    | same =>
      refine .inl (if_neg fun empty => ?_)
      cases List.isEmpty_iff.1 empty
      simp at opened
    | swallowed =>
      refine .inr (side.tree?_pattern_of_lost fun found' rest' read => ?_)
      rw [within] at read
      cases read
      cases side <;> decide

/-- Whether a source is within the limits exactly if it is with a group and an anchor, which are two
levels more and a few states. -/
def keepsLimits (source : List Char) : Bool :=
  ((tree? source).bind fun node => (node.compile {}).map fun (regex, _) =>
    (decide (node.depth ≤ depthLimit) && regex.isWithinLimit) ==
      (decide (node.depth + 2 ≤ depthLimit) && (side.anchored regex).isWithinLimit)).getD true

theorem ofPattern?_pattern {source : List Char} (encloses : side.encloses source = true)
    (keeps : side.keepsLimits source = true) :
    Regex.ofPattern? (side.pattern source) = (Regex.ofPattern? source).map side.anchored := by
  rw [Regex.ofPattern?_eq, Regex.ofPattern?_eq, side.tree?_of_encloses encloses]
  rw [keepsLimits] at keeps
  cases whole : tree? source with
  | none => rfl
  | some node =>
    rw [whole, Option.bind_some] at keeps
    rw [Option.map_some, Option.bind_some, Option.bind_some, side.compile_tree, side.depth_tree]
    cases compiled : node.compile {} with
    | none => rfl
    | some found =>
      rw [compiled] at keeps
      have limits := eq_of_beq keeps
      dsimp only [Option.map_some, Option.bind_some]
      rw [← limits]
      split <;> rfl

theorem ofPattern?_of_not_encloses {source : List Char} (opened : side.encloses source = false) :
    Regex.ofPattern? source = none ∨ Regex.ofPattern? (side.pattern source) = none := by
  rw [Regex.ofPattern?_eq, Regex.ofPattern?_eq]
  exact (side.tree?_of_not_encloses opened).imp (by rw [·]; rfl) (by rw [·]; rfl)

/-- Whether a source says in its pattern what it says by itself. -/
def keeps (source : String) : Bool :=
  source.isEmpty || (side.encloses source.toList && side.keepsLimits source.toList)

theorem ofPattern_of_keeps {source : String} (keeps : side.keeps source = true) :
    Context.ofPattern side.pattern source =
      if source.isEmpty then .ok always
      else match Regex.ofPattern? source.toList with
        | some regex => .ok ⟨source, some (side.anchored regex)⟩
        | none => .error (.invalidContext source) := by
  rw [Context.ofPattern]
  split
  · rfl
  · next full =>
    obtain ⟨encloses, limits⟩ : side.encloses source.toList = true ∧
        side.keepsLimits source.toList = true := by
      simpa [Side.keeps, full] using keeps
    rw [side.ofPattern?_pattern encloses limits]
    cases Regex.ofPattern? source.toList <;> rfl

theorem exists_of_keeps {source : String} (keeps : side.keeps source = true) :
    (∃ context, Context.ofPattern side.pattern source = .ok context) ↔
      (source ≠ "" → (Regex.ofPattern? source.toList).isSome = true) := by
  rw [side.ofPattern_of_keeps keeps]
  by_cases empty : source = ""
  · subst empty
    exact ⟨fun _ full => absurd rfl full, fun _ => ⟨always, rfl⟩⟩
  · rw [if_neg (mt String.isEmpty_iff.1 empty)]
    cases Regex.ofPattern? source.toList <;> simp [empty]

theorem holds_of_keeps {source : String} (keeps : side.keeps source = true) {context : Context}
    (read : Context.ofPattern side.pattern source = .ok context) (text : List Char) :
    context.holds text = true ↔ (source ≠ "" →
      ∃ regex, Regex.ofPattern? source.toList = some regex ∧ side.Touches regex text) := by
  rw [side.ofPattern_of_keeps keeps] at read
  by_cases empty : source = ""
  · subst empty
    cases read
    exact ⟨fun _ full => absurd rfl full, fun _ => rfl⟩
  · rw [if_neg (mt String.isEmpty_iff.1 empty)] at read
    split at read
    · next regex valid =>
      cases read
      rw [Context.holds, side.occursIn_anchored]
      exact ⟨fun touches _ => ⟨regex, valid, touches⟩, fun found => by
        obtain ⟨other, valid', touches⟩ := found empty
        cases valid.symm.trans valid'
        exact touches⟩
    · cases read

theorem ofPattern?_eq_none_of_ofPattern {source : String} (full : source ≠ "")
    (opened : side.encloses source.toList = false) {context : Context}
    (read : Context.ofPattern side.pattern source = .ok context) :
    Regex.ofPattern? source.toList = none := by
  refine (side.ofPattern?_of_not_encloses opened).resolve_right fun refused => ?_
  rw [Context.ofPattern, if_neg (mt String.isEmpty_iff.1 full), refused] at read
  cases read

end Side

end Context

/-! ## Rules -/

namespace Rule

open Context

theorem new_eq_ok_iff {pattern left right : String} {phonemes : List Phoneme} {rule : Rule} :
    new pattern left right phonemes = .ok rule ↔
      rule.pattern = pattern.toList ∧ Context.left left = .ok rule.left ∧
        Context.right right = .ok rule.right ∧ rule.phonemes = phonemes := by
  constructor
  · intro built
    obtain ⟨here, _, _, phonemes⟩ := of_new built
    rw [new] at built
    split at built
    · cases built
    · split at built
      · cases built
      · cases readLeft : Context.left left <;> cases readRight : Context.right right <;>
          rw [readLeft, readRight] at built <;> cases built
        exact ⟨here, rfl, rfl, phonemes⟩
  · rintro ⟨here, readLeft, readRight, rfl⟩
    rw [new, dif_neg (here ▸ rule.pattern_ne_nil), dif_neg rule.phonemes_ne_nil, readLeft,
      readRight]
    obtain ⟨_, _, _, _, _, _⟩ := rule
    cases here
    rfl

theorem matchesAt_iff {rule : Rule} {text : String} {offset : Nat} :
    rule.matchesAt text offset = true ↔
      ∃ before after, text.toList = before ++ rule.pattern ++ after ∧
        Text.byteLength before = offset ∧ rule.left.holds before = true ∧
        rule.right.holds after = true := by
  rw [matchesAt]
  constructor
  · intro found
    split at found
    · next before rest cut =>
      obtain ⟨parts, length⟩ := Text.splitAtByte?_eq_some_iff.1 cut
      simp only [matchesBetween, Bool.and_eq_true, List.isPrefixOf_iff_prefix] at found
      obtain ⟨⟨⟨after, rfl⟩, right⟩, left⟩ := found
      rw [List.drop_left] at right
      exact ⟨before, after, by rw [parts, List.append_assoc], length, left, right⟩
    · cases found
  · rintro ⟨before, after, parts, length, left, right⟩
    rw [List.append_assoc] at parts
    rw [Text.splitAtByte?_eq_some_iff.2 ⟨parts, length⟩]
    simp [matchesBetween, left, right]

theorem exists_new_iff {pattern left right : String} {phonemes : List Phoneme} :
    (∃ rule, new pattern left right phonemes = .ok rule) ↔
      pattern ≠ "" ∧ phonemes ≠ [] ∧ (∃ context, Context.left left = .ok context) ∧
        ∃ context, Context.right right = .ok context := by
  constructor
  · rintro ⟨rule, built⟩
    obtain ⟨here, readLeft, readRight, rfl⟩ := new_eq_ok_iff.1 built
    refine ⟨?_, rule.phonemes_ne_nil, ⟨_, readLeft⟩, _, readRight⟩
    rintro rfl
    exact rule.pattern_ne_nil here
  · rintro ⟨full, several, ⟨before, readLeft⟩, after, readRight⟩
    have full : pattern.toList ≠ [] := fun empty => full (String.toList_eq_nil_iff.1 empty)
    exact ⟨⟨pattern.toList, before, after, phonemes, full, several⟩,
      new_eq_ok_iff.2 ⟨rfl, readLeft, readRight, rfl⟩⟩

/-- A rule looks for matches of its contexts that touch its pattern, as long as the contexts keep to
the groups that they are put into. -/
theorem contexts_anchored (pattern left right : String) (phonemes : List Phoneme) :
    (Side.left.keeps left = true → Side.right.keeps right = true →
      ((∃ rule, new pattern left right phonemes = .ok rule) ↔
        pattern ≠ "" ∧ phonemes ≠ [] ∧
          (left ≠ "" → (Regex.ofPattern? left.toList).isSome = true) ∧
          (right ≠ "" → (Regex.ofPattern? right.toList).isSome = true)) ∧
      ∀ rule, new pattern left right phonemes = .ok rule → ∀ (text : String) (offset : Nat),
        rule.matchesAt text offset = true ↔
          ∃ before after, text.toList = before ++ pattern.toList ++ after ∧
            Text.byteLength before = offset ∧
            (left ≠ "" → ∃ regex, Regex.ofPattern? left.toList = some regex ∧
              ∃ start, regex.Spans before.toArray start before.length) ∧
            (right ≠ "" → ∃ regex, Regex.ofPattern? right.toList = some regex ∧
              ∃ stop, regex.Spans after.toArray 0 stop)) ∧
    -- Where a context does not keep to its group, it is refused or no expression by itself.
    ∀ rule, new pattern left right phonemes = .ok rule →
      (left ≠ "" → Side.left.encloses left.toList = false →
        Regex.ofPattern? left.toList = none) ∧
      (right ≠ "" → Side.right.encloses right.toList = false →
        Regex.ofPattern? right.toList = none) := by
  refine ⟨fun keepsLeft keepsRight => ⟨?_, fun rule built text offset => ?_⟩, fun rule built => ?_⟩
  · rw [exists_new_iff, ← Side.left.exists_of_keeps keepsLeft,
      ← Side.right.exists_of_keeps keepsRight]
    rfl
  · obtain ⟨here, readLeft, readRight, _⟩ := new_eq_ok_iff.1 built
    simp only [matchesAt_iff, here, Side.left.holds_of_keeps keepsLeft readLeft,
      Side.right.holds_of_keeps keepsRight readRight]
    rfl
  · obtain ⟨_, readLeft, readRight, _⟩ := new_eq_ok_iff.1 built
    exact ⟨fun full opened => Side.left.ofPattern?_eq_none_of_ofPattern full opened readLeft,
      fun full opened => Side.right.ofPattern?_eq_none_of_ofPattern full opened readRight⟩

theorem contexts_anchored_alternatives :
    Side.left.keeps "^|s" = true ∧ Side.right.keeps "[ei]" = true ∧
      ∃ rule, new "c" "^|s" "[ei]" [.plain "ts"] = .ok rule ∧
        rule.matchesAt "scena" 1 = true ∧ rule.matchesAt "acena" 1 = false := by
  have keepsLeft : Side.left.keeps "^|s" = true := by decide +kernel
  have keepsRight : Side.right.keeps "[ei]" = true := by decide +kernel
  have left : Regex.ofPattern? "^|s".toList =
    some (.either (.look .textStart) (.char [(115, 115)])) := rfl
  have right : Regex.ofPattern? "[ei]".toList = some (.char [(101, 101), (105, 105)]) := rfl
  obtain ⟨built, applies⟩ :=
    (contexts_anchored "c" "^|s" "[ei]" [.plain "ts"]).1 keepsLeft keepsRight
  obtain ⟨rule, made⟩ :=
    built.2 ⟨by decide, by decide, fun _ => left ▸ rfl, fun _ => right ▸ rfl⟩
  refine ⟨keepsLeft, keepsRight, rule, made, ?_, ?_⟩
  · refine (applies rule made "scena" 1).2 ⟨['s'], ['e', 'n', 'a'], rfl, rfl, ?_, ?_⟩
    · exact fun _ => ⟨_, left, 0, .inr ⟨rfl, 's', rfl, rfl⟩⟩
    · exact fun _ => ⟨_, right, 1, rfl, 'e', rfl, rfl⟩
  · rw [Bool.eq_false_iff, ne_eq, applies rule made "acena" 1]
    rintro ⟨before, after, parts, length, ends, _⟩
    have cut := Text.splitAtByte?_eq_some_iff.2 ⟨(List.append_assoc _ _ _ ▸ parts), length⟩
    obtain ⟨regex, valid, start, matched⟩ := ends (by decide)
    cases cut
    cases left.symm.trans valid
    rcases matched with ⟨rfl, first⟩ | ⟨here, c, found, member⟩
    · cases first
    · cases here
      cases found
      cases member

/-- A context that closes the group around it makes a rule without being an expression; one that
ends in a comment is an expression and makes no rule. -/
theorem new_of_unenclosed :
    ((∃ rule, new "a" ")|(" "" [.plain "x"] = .ok rule) ∧ Regex.ofPattern? ")|(".toList = none) ∧
      (¬∃ rule, new "a" "(?x)b #c" "" [.plain "x"] = .ok rule) ∧
        (Regex.ofPattern? "(?x)b #c".toList).isSome = true := by
  refine ⟨⟨?_, by rfl⟩, ?_, by decide +kernel⟩
  · exact exists_new_iff.2 ⟨by decide, by decide, ⟨_, rfl⟩, ⟨_, rfl⟩⟩
  · rw [exists_new_iff]
    rintro ⟨_, _, ⟨context, read⟩, _⟩
    have refused : Regex.ofPattern? (leftPattern "(?x)b #c".toList) = none := by rfl
    rw [Context.left, Context.ofPattern, if_neg (by decide), refused] at read
    cases read

end Rule

end Homophone
