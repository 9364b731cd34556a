import Homophone.Proofs.DecomposedLength
import Homophone.Proofs.NameEncoding
import Homophone.RuleSet

/-! Splitting prefixes off comes to an end.

A prefix ends with an apostrophe or is followed by a space, and that character is in neither of the
two names that are encoded instead. Normalizing these again may make them longer and may let another
prefix begin them, but it adds to no weight that normalizing never adds to. The length of the
decomposed name is such a weight, whatever separates words; where only white space and hyphens do, so
is the number of apostrophes and separators.
-/

set_option autoImplicit false

namespace Homophone

open Unicode (NeverAdds)

namespace Text

/-! ## Pieces and joins -/

theorem flatten_pieces (p : Char → Bool) (text : List Char) :
    (pieces p text).flatten = text.filter (!p ·) := by
  induction text with
  | nil => rfl
  | cons c rest ih =>
    rw [pieces]
    split
    · next separator => simp [ih, separator]
    · next ordinary =>
      cases cut : pieces p rest with
      | nil => exact absurd cut (pieces_ne_nil p rest)
      | cons first others =>
        rw [cut] at ih
        simpa [ordinary] using ih

theorem flatten_filter_nonempty (texts : List (List Char)) :
    (texts.filter (!·.isEmpty)).flatten = texts.flatten := by
  induction texts with
  | nil => rfl
  | cons first rest ih => cases first <;> simp [ih]

theorem flatten_runs (p : Char → Bool) (text : List Char) :
    (runs p text).flatten = text.filter (!p ·) :=
  (flatten_filter_nonempty _).trans (flatten_pieces p text)

section

variable (weight : Char → Nat)

theorem weigh_join (separator : List Char) (texts : List (List Char)) :
    weigh weight (join separator texts) =
      weigh weight texts.flatten + weigh weight separator * (texts.length - 1) := by
  fun_induction join separator texts with
  | case1 => simp
  | case2 single => simp
  | case3 first rest several ih =>
    -- There is one separator fewer than there are texts.
    have more : 0 < rest.length := List.length_pos_iff.2 several
    obtain ⟨others, length⟩ := Nat.exists_eq_add_of_lt more
    rw [weigh_append, weigh_append, ih, List.flatten_cons, weigh_append, List.length_cons, length]
    simp only [Nat.zero_add, Nat.add_sub_cancel, Nat.mul_succ]
    omega

/-- Without its separators a text is lighter by what each of them weighs at least. -/
theorem weigh_filter_add_le {p : Char → Bool} {least : Nat}
    (heavy : ∀ c, p c = true → least ≤ weight c) (text : List Char) :
    weigh weight (text.filter (!p ·)) + least * text.countP p ≤ weigh weight text := by
  induction text with
  | nil => simp
  | cons c rest ih =>
    cases separator : p c with
    | true =>
      have one := heavy c separator
      simp only [separator, Bool.not_true, Bool.false_eq_true, not_false_eq_true,
        List.filter_cons_of_neg, List.countP_cons_of_pos, Nat.mul_succ, weigh_cons]
      omega
    | false =>
      simp only [separator, Bool.not_false, List.filter_cons_of_pos, List.countP_cons,
        Bool.false_eq_true, ↓reduceIte, Nat.add_zero, weigh_cons]
      omega

theorem weigh_join_runs_le {p : Char → Bool} (heavy : ∀ c, p c = true → weight ' ' ≤ weight c)
    (text : List Char) : weigh weight (join [' '] (runs p text)) ≤ weigh weight text := by
  have few : (runs p text).length - 1 ≤ text.countP p := by
    have fewer : (runs p text).length ≤ (pieces p text).length := List.length_filter_le _ _
    rw [length_pieces] at fewer
    omega
  have space : weigh weight [' '] = weight ' ' := rfl
  rw [weigh_join, flatten_runs, space]
  exact Nat.le_trans (Nat.add_le_add_left (Nat.mul_le_mul_left _ few) _)
    (weigh_filter_add_le weight heavy text)

end

end Text

namespace Encoder

open Text (weigh)

/-! ## What is split off -/

theorem after?_eq_some_iff {start text rest : List Char} :
    after? start text = some rest ↔ text = start ++ rest := by
  rw [after?]
  split
  · next starts =>
    obtain ⟨others, rfl⟩ := List.isPrefixOf_iff_prefix.1 starts
    simp [eq_comm]
  · next other =>
    constructor
    · intro found
      cases found
    · rintro rfl
      exact absurd (List.isPrefixOf_iff_prefix.2 (List.prefix_append _ _)) other

theorem after?_append (first second text : List Char) :
    (after? first text).bind (after? second) = after? (first ++ second) text := by
  apply Option.ext
  intro rest
  simp [Option.bind_eq_some_iff, after?_eq_some_iff]

/-- What a name starts with that a prefix is split off: the prefix, with a space behind it unless it
ends in an apostrophe. -/
def opening (pre : List Char) : List Char :=
  if pre.getLast? = some '\'' then pre else pre ++ [' ']

/-- The part of a prefix that is joined to the rest of a name. -/
def stem (pre : List Char) : List Char := if pre.getLast? = some '\'' then pre.dropLast else pre

theorem exists_opening (pre : List Char) :
    ∃ mark, (mark = '\'' ∨ mark = ' ') ∧ opening pre = stem pre ++ [mark] := by
  rw [opening, stem]
  split
  · next elided =>
    obtain ⟨stem, rfl⟩ := List.getLast?_eq_some_iff.1 elided
    exact ⟨'\'', .inl rfl, by rw [List.dropLast_concat]⟩
  · exact ⟨' ', .inr rfl, rfl⟩

/-- A prefix stands before the rest of a name, and the rest is not empty. -/
def Leaves (pre : String) (name rest : List Char) : Prop :=
  name = opening pre.toList ++ rest ∧ rest ≠ []

theorem cutPrefix?_eq_some_iff {pre : String} {name rest head : List Char} :
    cutPrefix? pre.toList name = some (rest, head) ↔
      Leaves pre name rest ∧ head = stem pre.toList := by
  have cut : cutPrefix? pre.toList name =
      ((after? (opening pre.toList) name).map fun rest => (rest, stem pre.toList)).filter
        (!·.1.isEmpty) := by
    rw [cutPrefix?, opening, stem]
    split
    · rfl
    · rw [after?_append]
  rw [cut, Option.filter_eq_some_iff, Option.map_eq_some_iff, Leaves]
  constructor
  · rintro ⟨⟨rest, here, same⟩, nonempty⟩
    cases same
    exact ⟨⟨after?_eq_some_iff.1 here, by simpa using nonempty⟩, rfl⟩
  · rintro ⟨⟨parts, nonempty⟩, rfl⟩
    exact ⟨⟨rest, after?_eq_some_iff.2 parts, rfl⟩, by simpa using nonempty⟩

theorem exists_longestCut? {cuts : List (Nat × List Char × List Char)} (several : cuts ≠ []) :
    ∃ longest ∈ cuts, longestCut? cuts = some longest.2 ∧
      ∀ other ∈ cuts, other.1 ≤ longest.1 := by
  obtain ⟨first, rest, rfl⟩ := List.exists_cons_of_ne_nil several
  rw [longestCut?, List.foldl_cons]
  -- By induction on the cuts that are left, with the longest one so far among them.
  induction rest generalizing first with
  | nil => exact ⟨first, by simp, rfl, by simp⟩
  | cons second rest ih =>
    rw [List.foldl_cons]
    dsimp only at ih ⊢
    split
    · next longer =>
      obtain ⟨longest, listed, found, bound⟩ := ih second (List.cons_ne_nil _ _)
      refine ⟨longest, List.mem_cons_of_mem first listed, found, ?_⟩
      have least := bound second List.mem_cons_self
      exact List.forall_mem_cons.2 ⟨by omega, bound⟩
    · next shorter =>
      obtain ⟨longest, listed, found, bound⟩ := ih first (List.cons_ne_nil _ _)
      refine ⟨longest, ?_, found, ?_⟩
      · rcases List.mem_cons.1 listed with same | later
        · exact same ▸ List.mem_cons_self
        · exact List.mem_cons_of_mem first (List.mem_cons_of_mem second later)
      · have least := bound first List.mem_cons_self
        have ⟨_, later⟩ := List.forall_mem_cons.1 bound
        exact List.forall_mem_cons.2 ⟨least, List.forall_mem_cons.2 ⟨by omega, later⟩⟩

/-- A name is split at a prefix that leaves something of it if there is one, and no other such prefix
is longer. -/
theorem splitPrefix?_cases (encoder : Encoder) (name : List Char) :
    (encoder.splitPrefix? name = none ∧ ∀ pre ∈ encoder.prefixes, ∀ rest, ¬Leaves pre name rest) ∨
    ∃ pre ∈ encoder.prefixes, ∃ rest, Leaves pre name rest ∧
      encoder.splitPrefix? name =
        some (rest, (stem pre.toList).filter (· ≠ ' ') ++ rest) ∧
      ∀ other ∈ encoder.prefixes, ∀ rest', Leaves other name rest' →
        other.utf8ByteSize ≤ pre.utf8ByteSize := by
  rw [splitPrefix?]
  dsimp only
  generalize same : encoder.prefixes.filterMap (fun pre =>
    (cutPrefix? pre.toList name).map fun cut => (pre.utf8ByteSize, cut)) = cuts
  have listed {length : Nat} {rest head : List Char} : (length, rest, head) ∈ cuts ↔
      ∃ pre ∈ encoder.prefixes, Leaves pre name rest ∧ pre.utf8ByteSize = length ∧
        head = stem pre.toList := by
    simp only [← same, List.mem_filterMap, Option.map_eq_some_iff, Prod.exists,
      cutPrefix?_eq_some_iff, Prod.mk.injEq]
    constructor
    · rintro ⟨pre, known, _, _, ⟨leaves, rfl⟩, size, rfl, rfl⟩
      exact ⟨pre, known, leaves, size, rfl⟩
    · rintro ⟨pre, known, leaves, size, rfl⟩
      exact ⟨pre, known, rest, _, ⟨leaves, rfl⟩, size, rfl, rfl⟩
  by_cases several : cuts = []
  · refine .inl ⟨by rw [several]; rfl, fun pre known rest leaves => ?_⟩
    have absent := listed.2 ⟨pre, known, leaves, rfl, rfl⟩
    rw [several] at absent
    cases absent
  · obtain ⟨⟨length, rest, head⟩, member, found, bound⟩ := exists_longestCut? several
    obtain ⟨pre, known, leaves, rfl, rfl⟩ := listed.1 member
    refine .inr ⟨pre, known, rest, leaves, by rw [found]; rfl, fun other known' rest' leaves' => ?_⟩
    exact bound _ (listed.2 ⟨other, known', leaves', rfl, rfl⟩)

/-- The rest of a name follows an apostrophe or a space, and what is joined to it stands before. -/
theorem exists_of_splitPrefix? {encoder : Encoder} {name rest joined : List Char}
    (split : encoder.splitPrefix? name = some (rest, joined)) :
    ∃ head mark, (mark = '\'' ∨ mark = ' ') ∧ name = head ++ mark :: rest ∧
      joined = head.filter (· ≠ ' ') ++ rest := by
  rcases encoder.splitPrefix?_cases name with ⟨whole, _⟩ | ⟨pre, _, rest', leaves, parts, _⟩
  · rw [whole] at split
    cases split
  · rw [parts] at split
    cases split
    obtain ⟨mark, ends, before⟩ := exists_opening pre.toList
    refine ⟨stem pre.toList, mark, ends, ?_, rfl⟩
    rw [leaves.1, before, List.append_assoc, List.singleton_append]

/-! ## Names get lighter -/

/-- A weight that names lose with every prefix that is split off: normalizing adds nothing to it, and
neither do the spaces that take the place of separators. -/
structure Lightens (encoder : Encoder) (weight : Char → Nat) : Prop where
  never : NeverAdds weight
  separators : ∀ c, (c = '|' || encoder.table.isWordBoundary c) = true → weight ' ' ≤ weight c
  space : 0 < weight ' '
  apostrophe : 0 < weight '\''

section

variable {encoder : Encoder} {weight : Char → Nat}

theorem weigh_normalize_le (lightens : encoder.Lightens weight) (name : List Char) :
    weigh weight (encoder.normalize name) ≤ weigh weight (Text.normalize name) :=
  Text.weigh_join_runs_le weight lightens.separators (Text.normalize name)

theorem weigh_lt_of_splitPrefix? (lightens : encoder.Lightens weight)
    {name rest joined : List Char} (split : encoder.splitPrefix? name = some (rest, joined)) :
    weigh weight rest < weigh weight name ∧ weigh weight joined < weigh weight name := by
  obtain ⟨head, mark, ends, rfl, rfl⟩ := exists_of_splitPrefix? split
  have lost : 0 < weight mark := by
    rcases ends with rfl | rfl
    · exact lightens.apostrophe
    · exact lightens.space
  have kept : weigh weight (head.filter (· ≠ ' ')) ≤ weigh weight head :=
    Text.weigh_le_of_sublist weight List.filter_sublist
  simp only [Text.weigh_append, Text.weigh_cons]
  omega

theorem weigh_normalize_lt_of_splitPrefix? (lightens : encoder.Lightens weight)
    {name rest joined : List Char}
    (split : encoder.splitPrefix? (encoder.normalize name) = some (rest, joined)) :
    weigh weight (encoder.normalize rest) < weigh weight (encoder.normalize name) ∧
      weigh weight (encoder.normalize joined) < weigh weight (encoder.normalize name) := by
  have again (part : List Char) : weigh weight (encoder.normalize part) ≤ weigh weight part :=
    Nat.le_trans (weigh_normalize_le lightens part) (Unicode.weigh_normalize_le lightens.never part)
  obtain ⟨lessRest, lessJoined⟩ := weigh_lt_of_splitPrefix? lightens split
  exact ⟨Nat.lt_of_le_of_lt (again rest) lessRest, Nat.lt_of_le_of_lt (again joined) lessJoined⟩

end

theorem lightens_decomposedLength (encoder : Encoder) :
    encoder.Lightens Unicode.decomposedLength where
  never := Unicode.neverAdds_decomposedLength
  separators c _ := by
    have one : Unicode.decomposedLength ' ' = 1 := by decide +kernel
    exact Nat.le_trans (Nat.le_of_eq one) (Unicode.one_le_decomposedLength c)
  space := Unicode.one_le_decomposedLength ' '
  apostrophe := Unicode.one_le_decomposedLength '\''

def HasDefaultBoundaries (table : RuleTable) : Prop :=
  ∀ c, table.isWordBoundary c = (Unicode.isWhiteSpace c || c = '-')

theorem HasDefaultBoundaries.lightens_breakWeight {encoder : Encoder}
    (default : HasDefaultBoundaries encoder.table) : encoder.Lightens Unicode.breakWeight where
  never := Unicode.neverAdds_breakWeight
  separators c separates := by
    have broken : Unicode.isBreak c = true := by
      rw [Unicode.isBreak, ← default c, separates, Bool.or_true]
    rw [Unicode.breakWeight_of_isBreak broken]
    exact Unicode.breakWeight_le_one ' '
  space := by decide
  apostrophe := by decide

def breaks (name : List Char) : Nat := name.countP fun c => c = '\'' || c = ' '

/-- A name in normal form is broken by apostrophes and spaces alone. -/
theorem breaks_normalize {encoder : Encoder} (default : HasDefaultBoundaries encoder.table)
    (name : List Char) :
    breaks (encoder.normalize name) = weigh Unicode.breakWeight (encoder.normalize name) := by
  rw [Unicode.weigh_breakWeight]
  refine List.countP_congr fun c member => ?_
  simp only [Bool.or_eq_true, decide_eq_true_eq]
  constructor
  · rintro (rfl | rfl) <;> decide
  · intro broken
    rcases Text.mem_join member with blank | ⟨run, listed, inside⟩
    · exact .inr (List.mem_singleton.1 blank)
    · have ordinary := Text.ordinary_of_mem_pieces (List.mem_of_mem_filter listed) inside
      rw [Unicode.isBreak, ← default c, ordinary, Bool.or_false, decide_eq_true_eq] at broken
      exact .inl broken

end Encoder

theorem RuleSet.hasDefaultBoundaries (set : RuleSet) : Encoder.HasDefaultBoundaries set.toTable :=
  fun _ => rfl

namespace Encoder

open Text (weigh)

/-! ## The recursion -/

/-- The two names that are encoded for a name that a prefix is split off. -/
def split? (encoder : Encoder) (name : List Char) : Option (List Char × List Char) :=
  if encoder.settings.nameType = .generic then encoder.splitPrefix? (encoder.normalize name)
  else none

/-- How an encoding comes about, with the depth to which prefixes are split off. -/
inductive Encodes (encoder : Encoder) (explicit : Option LanguageSet) :
    List Char → Nat → String → Prop where
  | whole {name : List Char} (unsplit : encoder.split? name = none) :
      Encodes encoder explicit name 0
        (encoder.encodeWords explicit (encoder.words (encoder.normalize name)))
  | split {name rest joined : List Char} {depth₁ depth₂ : Nat} {first second : String}
      (parts : encoder.split? name = some (rest, joined))
      (ofRest : Encodes encoder explicit rest depth₁ first)
      (ofJoined : Encodes encoder explicit joined depth₂ second) :
      Encodes encoder explicit name (max depth₁ depth₂ + 1)
        ("(" ++ first ++ ")-(" ++ second ++ ")")

section

variable {encoder : Encoder} {explicit : Option LanguageSet}

theorem encodeWithin_of_unsplit {name : List Char} (unsplit : encoder.split? name = none)
    (fuel : Nat) :
    encoder.encodeWithin explicit fuel name =
      encoder.encodeWords explicit (encoder.words (encoder.normalize name)) := by
  rw [split?] at unsplit
  unfold encodeWithin
  simp only [unsplit]

theorem encodeWithin_of_split {name rest joined : List Char}
    (parts : encoder.split? name = some (rest, joined)) (fuel : Nat) :
    encoder.encodeWithin explicit (fuel + 1) name =
      "(" ++ encoder.encodeWithin explicit fuel rest ++ ")-(" ++
        encoder.encodeWithin explicit fuel joined ++ ")" := by
  rw [split?] at parts
  rw [encodeWithin]
  simp only [parts]

theorem Encodes.unique {name : List Char} {depth₁ depth₂ : Nat} {first second : String}
    (one : encoder.Encodes explicit name depth₁ first)
    (other : encoder.Encodes explicit name depth₂ second) : depth₁ = depth₂ ∧ first = second := by
  induction one generalizing depth₂ second with
  | whole unsplit =>
    cases other with
    | whole _ => exact ⟨rfl, rfl⟩
    | split parts _ _ =>
      rw [unsplit] at parts
      cases parts
  | split parts _ _ ihRest ihJoined =>
    cases other with
    | whole unsplit =>
      rw [unsplit] at parts
      cases parts
    | split parts' ofRest ofJoined =>
      rw [parts] at parts'
      cases parts'
      obtain ⟨rfl, rfl⟩ := ihRest ofRest
      obtain ⟨rfl, rfl⟩ := ihJoined ofJoined
      exact ⟨rfl, rfl⟩

theorem weigh_normalize_lt_of_split? {weight : Char → Nat} (lightens : encoder.Lightens weight)
    {name rest joined : List Char} (parts : encoder.split? name = some (rest, joined)) :
    weigh weight (encoder.normalize rest) < weigh weight (encoder.normalize name) ∧
      weigh weight (encoder.normalize joined) < weigh weight (encoder.normalize name) := by
  rw [split?] at parts
  split at parts
  · exact weigh_normalize_lt_of_splitPrefix? lightens parts
  · cases parts

/-- A name is split no deeper than it is heavy, and fuel for that is enough. -/
theorem Lightens.exists_encodes {weight : Char → Nat} (lightens : encoder.Lightens weight)
    {fuel : Nat} {name : List Char} (enough : weigh weight (encoder.normalize name) ≤ fuel) :
    ∃ depth ≤ weigh weight (encoder.normalize name),
      encoder.Encodes explicit name depth (encoder.encodeWithin explicit fuel name) := by
  induction fuel generalizing name with
  | zero =>
    -- Nothing weighs less than a name without weight, so no prefix is split off.
    have unsplit : encoder.split? name = none := by
      cases parts : encoder.split? name with
      | none => rfl
      | some both =>
        obtain ⟨lighter, _⟩ := weigh_normalize_lt_of_split? lightens parts
        omega
    refine ⟨0, Nat.zero_le _, ?_⟩
    rw [encodeWithin_of_unsplit unsplit]
    exact .whole unsplit
  | succ fuel ih =>
    cases parts : encoder.split? name with
    | none =>
      refine ⟨0, Nat.zero_le _, ?_⟩
      rw [encodeWithin_of_unsplit parts]
      exact .whole parts
    | some both =>
      obtain ⟨rest, joined⟩ := both
      obtain ⟨lessRest, lessJoined⟩ := weigh_normalize_lt_of_split? lightens parts
      obtain ⟨depth₁, shallow₁, ofRest⟩ :=
        ih (show weigh weight (encoder.normalize rest) ≤ fuel by omega)
      obtain ⟨depth₂, shallow₂, ofJoined⟩ :=
        ih (show weigh weight (encoder.normalize joined) ≤ fuel by omega)
      refine ⟨max depth₁ depth₂ + 1, by omega, ?_⟩
      rw [encodeWithin_of_split parts]
      exact .split parts ofRest ofJoined

/-- The recursion never runs out of fuel, whatever the table is. -/
theorem exists_encodes_encodeName (encoder : Encoder) (explicit : Option LanguageSet)
    (name : String) :
    ∃ depth, encoder.Encodes explicit name.toList depth (encoder.encodeName explicit name) := by
  have lightens := encoder.lightens_decomposedLength
  have enough : weigh Unicode.decomposedLength (encoder.normalize name.toList) ≤
      (Unicode.decompose name.toList).length :=
    Nat.le_trans (weigh_normalize_le lightens name.toList)
      (Unicode.weigh_decomposedLength_normalize_le name.toList)
  obtain ⟨depth, _, encodes⟩ : ∃ depth ≤ _,
      encoder.Encodes explicit name.toList depth (encoder.encodeName explicit name) :=
    lightens.exists_encodes enough
  exact ⟨depth, encodes⟩

end

/-- Over a rule set, whatever its prefixes, each name that a prefix is split off gives way to two
names with fewer apostrophes and spaces. So prefixes are split off no deeper than these are many, and
a name has one encoding. -/
theorem encodeName_nests_within_breaks {set : RuleSet} {settings : Settings} {encoder : Encoder}
    (built : new set.toTable settings = .ok encoder) :
    (∀ name rest joined, encoder.splitPrefix? (encoder.normalize name) = some (rest, joined) →
      breaks (encoder.normalize rest) < breaks (encoder.normalize name) ∧
        breaks (encoder.normalize joined) < breaks (encoder.normalize name)) ∧
    ∀ explicit (name : String),
      ∃ depth ≤ breaks (encoder.normalize name.toList),
        encoder.Encodes explicit name.toList depth (encoder.encodeName explicit name) ∧
        ∀ depth' encoding, encoder.Encodes explicit name.toList depth' encoding →
          depth' = depth ∧ encoding = encoder.encodeName explicit name := by
  obtain ⟨table, _⟩ := of_new built
  have default : HasDefaultBoundaries encoder.table := table ▸ set.hasDefaultBoundaries
  have lightens := default.lightens_breakWeight
  simp only [breaks_normalize default]
  refine ⟨fun name rest joined => weigh_normalize_lt_of_splitPrefix? lightens, ?_⟩
  intro explicit name
  obtain ⟨depth, encodes⟩ := encoder.exists_encodes_encodeName explicit name
  -- With as much fuel as there are breaks the same encoding comes about.
  obtain ⟨depth', shallow, encodes'⟩ : ∃ depth ≤ _, encoder.Encodes explicit name.toList depth _ :=
    lightens.exists_encodes (Nat.le_refl (weigh _ (encoder.normalize name.toList)))
  obtain ⟨rfl, same⟩ := encodes.unique encodes'
  exact ⟨depth, shallow, encodes, fun _ _ other => other.unique encodes⟩

/-- One language without rules, and prefixes that stand in each other or are empty. -/
def particleSet : RuleSet where
  generic := {
    languages := [.any]
    primary := [(.any, .ofList [])]
    approx := some (.ofList [])
    prefixes := some ["", "'", "d'", "d'", "de la"] }

theorem encodeName_nests_particles :
    ∃ encoder, new particleSet.toTable {} = .ok encoder ∧
      (∃ depth ≤ 3, encoder.Encodes none "De la  d'Art".toList depth
        "((art)-(dart))-(delad'art)") ∧
      breaks (encoder.normalize "d'art".toList) < 3 := by
  obtain ⟨encoder, built, seen⟩ := exists_of_new (fun encoder =>
      (encoder.splitPrefix? (encoder.normalize "De la  d'Art".toList),
        breaks (encoder.normalize "De la  d'Art".toList), encoder.encode "De la  d'Art"))
    (show (new particleSet.toTable {}).toOption.map _ =
        some (some ("d'art".toList, "delad'art".toList), 3, "((art)-(dart))-(delad'art)") by
      decide +kernel)
  obtain ⟨parts, rest⟩ := Prod.mk.inj seen
  obtain ⟨three, encoding⟩ := Prod.mk.inj rest
  obtain ⟨fewer, nested⟩ := encodeName_nests_within_breaks built
  obtain ⟨depth, shallow, encodes, _⟩ := nested none "De la  d'Art"
  obtain ⟨less, _⟩ := fewer _ _ _ parts
  rw [three] at shallow less
  exact ⟨encoder, built, ⟨depth, shallow, encoding ▸ encodes⟩, less⟩

end Encoder

end Homophone
