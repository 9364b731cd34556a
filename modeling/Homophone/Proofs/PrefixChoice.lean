import Homophone.Proofs.Prefixes
import Mathlib.Data.String.Basic

/-! Which of its prefixes a name loses.

All prefixes that leave something of a name begin it, so that no two of them are equally long, and the
longest one is the same in whatever order they are tried. Apart from that, prefixes are only looked up
as words. So an encoder uses its prefixes as a set.
-/

set_option autoImplicit false

namespace Homophone

theorem Text.byteLength_toList (text : String) :
    Text.byteLength text.toList = text.utf8ByteSize := by
  rw [← String.utf8Len_toList]
  induction text.toList with
  | nil => rfl
  | cons c rest ih => rw [Text.byteLength, String.utf8Len_cons, ih, Nat.add_comm]

namespace Encoder

/-! ## The longest prefix -/

theorem Leaves.splitAtByte? {pre : String} {name rest : List Char} (leaves : Leaves pre name rest) :
    ∃ after, Text.splitAtByte? pre.utf8ByteSize name = some (pre.toList, after) := by
  simp only [Text.splitAtByte?_eq_some_iff, Text.byteLength_toList, and_true]
  rw [leaves.1, opening]
  split
  · exact ⟨rest, rfl⟩
  · exact ⟨' ' :: rest, by simp⟩

theorem Leaves.unique {pre other : String} {name rest rest' : List Char}
    (leaves : Leaves pre name rest) (leaves' : Leaves other name rest')
    (size : pre.utf8ByteSize = other.utf8ByteSize) : pre = other ∧ rest = rest' := by
  obtain ⟨after, first⟩ := leaves.splitAtByte?
  obtain ⟨after', second⟩ := leaves'.splitAtByte?
  rw [size, second] at first
  obtain rfl : pre = other :=
    String.toList_injective (congrArg Prod.fst (Option.some.inj first)).symm
  exact ⟨rfl, List.append_cancel_left (leaves.1.symm.trans leaves'.1)⟩

/-- A prefix is split off if and only if it is the longest of those that leave something. -/
theorem splitPrefix?_eq_some_iff {encoder : Encoder} {name rest joined : List Char} :
    encoder.splitPrefix? name = some (rest, joined) ↔
      ∃ pre ∈ encoder.prefixes, Leaves pre name rest ∧
        joined = (stem pre.toList).filter (· ≠ ' ') ++ rest ∧
        ∀ other ∈ encoder.prefixes, ∀ rest', Leaves other name rest' → other ≠ pre →
          other.utf8ByteSize < pre.utf8ByteSize := by
  constructor
  · intro split
    rcases encoder.splitPrefix?_cases name with ⟨whole, _⟩ | ⟨pre, known, _, leaves, parts, bound⟩
    · rw [whole] at split
      cases split
    · rw [parts] at split
      cases split
      refine ⟨pre, known, leaves, rfl, fun other known' rest' leaves' different => ?_⟩
      apply Nat.lt_of_le_of_ne (bound other known' rest' leaves')
      exact fun size => different (leaves'.unique leaves size).1
  · rintro ⟨pre, known, leaves, rfl, longest⟩
    rcases encoder.splitPrefix?_cases name with ⟨_, absent⟩ | ⟨other, known', _, leaves', parts, bound⟩
    · exact absurd leaves (absent pre known rest)
    · obtain rfl : other = pre := by
        by_contra different
        have shorter := longest other known' _ leaves' different
        have longer := bound pre known rest leaves
        omega
      obtain ⟨_, rfl⟩ := leaves.unique leaves' rfl
      exact parts

theorem splitPrefix?_eq_none_iff {encoder : Encoder} {name : List Char} :
    encoder.splitPrefix? name = none ↔
      ∀ pre ∈ encoder.prefixes, ∀ rest, ¬Leaves pre name rest := by
  rcases encoder.splitPrefix?_cases name with ⟨whole, absent⟩ | ⟨pre, known, rest, leaves, parts, _⟩
  · exact iff_of_true whole absent
  · rw [parts]
    exact iff_of_false (by simp) fun absent => absent pre known rest leaves

/-! ## Other prefixes -/

def withPrefixes (encoder : Encoder) (prefixes : NameType → List String) : Encoder :=
  { encoder with table := { encoder.table with prefixes := prefixes } }

section

variable {encoder : Encoder} {prefixes : NameType → List String}

theorem new_withPrefixes (table : RuleTable) (prefixes : NameType → List String)
    (settings : Settings) :
    new { table with prefixes := prefixes } settings =
      (new table settings).map (·.withPrefixes prefixes) := by
  unfold new
  split
  · rfl
  · dsimp only
    split
    · rfl
    · have checked : checkLanguages { table with prefixes := prefixes } settings
          (reachable { table with prefixes := prefixes } settings.nameType).members =
            checkLanguages table settings (reachable table settings.nameType).members := rfl
      rw [checked]
      split
      · rfl
      · split <;> rfl

theorem finalizeFrom_withPrefixes (finals : RuleList) (word : String) (languages : LanguageSet)
    (width : Nat) (positive : 0 < width) :
    (encoder.withPrefixes prefixes).finalizeFrom finals word languages width positive =
      encoder.finalizeFrom finals word languages width positive := by
  fun_induction encoder.finalizeFrom finals word languages width positive with
  | case1 width positive limit raw out enough =>
    rw [finalizeFrom]
    exact dif_pos enough
  | case2 width positive limit raw out more wider ih =>
    rw [finalizeFrom]
    exact (dif_neg more).trans ih

theorem encodeWord_withPrefixes (explicit : Option LanguageSet) (word : String) :
    (encoder.withPrefixes prefixes).encodeWord explicit word = encoder.encodeWord explicit word := by
  unfold encodeWord
  have finals : (encoder.withPrefixes prefixes).finalRules = encoder.finalRules := rfl
  rw [finals]
  cases encoder.finalRules with
  | none => rfl
  | some finals => exact finalizeFrom_withPrefixes finals word _ _ _

theorem encodeWords_withPrefixes (explicit : Option LanguageSet) (words : List String) :
    (encoder.withPrefixes prefixes).encodeWords explicit words =
      encoder.encodeWords explicit words := by
  have each : (encoder.withPrefixes prefixes).encodeWord explicit = encoder.encodeWord explicit :=
    funext (encodeWord_withPrefixes explicit)
  rw [encodeWords, encodeWords, concatenate, concatenate, each]
  rfl

section

variable (same : ∀ pre, pre ∈ prefixes encoder.settings.nameType ↔ pre ∈ encoder.prefixes)

include same

theorem splitPrefix?_withPrefixes (name : List Char) :
    (encoder.withPrefixes prefixes).splitPrefix? name = encoder.splitPrefix? name := by
  have known (pre : String) : pre ∈ (encoder.withPrefixes prefixes).prefixes ↔
      pre ∈ encoder.prefixes := same pre
  apply Option.ext
  rintro ⟨rest, joined⟩
  simp only [splitPrefix?_eq_some_iff, known]

theorem split?_withPrefixes (name : List Char) :
    (encoder.withPrefixes prefixes).split? name = encoder.split? name := by
  unfold split?
  rw [splitPrefix?_withPrefixes same]
  rfl

theorem words_withPrefixes (name : List Char) :
    (encoder.withPrefixes prefixes).words name = encoder.words name := by
  have known : (encoder.withPrefixes prefixes).prefixes.contains = encoder.prefixes.contains := by
    funext word
    rw [Bool.eq_iff_iff, List.contains_iff_mem, List.contains_iff_mem]
    exact same word
  unfold words
  rw [known]
  rfl

/-- The same prefixes in another order, or more often, make the same of every name. -/
theorem Encodes.withPrefixes {explicit : Option LanguageSet} {name : List Char} {depth : Nat}
    {encoding : String} (encodes : encoder.Encodes explicit name depth encoding) :
    (encoder.withPrefixes prefixes).Encodes explicit name depth encoding := by
  induction encodes with
  | whole unsplit =>
    rw [← encodeWords_withPrefixes, ← words_withPrefixes same]
    exact .whole ((split?_withPrefixes same _).trans unsplit)
  | split parts _ _ ihRest ihJoined =>
    exact .split ((split?_withPrefixes same _).trans parts) ihRest ihJoined

theorem encodeName_withPrefixes (explicit : Option LanguageSet) (name : String) :
    (encoder.withPrefixes prefixes).encodeName explicit name = encoder.encodeName explicit name := by
  obtain ⟨_, encodes⟩ := encoder.exists_encodes_encodeName explicit name
  obtain ⟨_, encodes'⟩ := (encoder.withPrefixes prefixes).exists_encodes_encodeName explicit name
  exact (encodes'.unique (encodes.withPrefixes same)).2

theorem encodeWithLanguages_withPrefixes (name : String) (languages : LanguageSet) :
    (encoder.withPrefixes prefixes).encodeWithLanguages name languages =
      encoder.encodeWithLanguages name languages := by
  unfold encodeWithLanguages
  rw [encodeName_withPrefixes same]
  rfl

end

end

/-- Two tables that have the same prefixes, in any order and any number of times, give encoders for the
same settings, which make the same of every name. A prefix is split off a name exactly if it leaves
something of the name and is longer than all others that do. -/
theorem encode_of_prefix_set {table : RuleTable} {prefixes : NameType → List String}
    (same : ∀ nameType pre, pre ∈ prefixes nameType ↔ pre ∈ table.prefixes nameType)
    (settings : Settings) :
    (new { table with prefixes := prefixes } settings).map
        (fun encoder => (encoder.encode, encoder.encodeWithLanguages)) =
      (new table settings).map (fun encoder => (encoder.encode, encoder.encodeWithLanguages)) ∧
    ∀ encoder, new table settings = .ok encoder → ∀ name,
      (encoder.splitPrefix? name = none ↔
        ∀ pre ∈ table.prefixes settings.nameType, ∀ rest, ¬Leaves pre name rest) ∧
      ∀ rest joined, encoder.splitPrefix? name = some (rest, joined) ↔
        ∃ pre ∈ table.prefixes settings.nameType, Leaves pre name rest ∧
          joined = (stem pre.toList).filter (· ≠ ' ') ++ rest ∧
          ∀ other ∈ table.prefixes settings.nameType, ∀ rest', Leaves other name rest' →
            other ≠ pre → other.utf8ByteSize < pre.utf8ByteSize := by
  constructor
  · rw [new_withPrefixes]
    cases built : new table settings with
    | error error => rfl
    | ok encoder =>
      obtain ⟨rfl, rfl, _⟩ := of_new built
      have known := same encoder.settings.nameType
      simp only [Except.map, Except.ok.injEq, Prod.mk.injEq]
      constructor
      · funext name
        exact encodeName_withPrefixes known none name
      · funext name languages
        exact encodeWithLanguages_withPrefixes known name languages
  · intro encoder built name
    obtain ⟨rfl, rfl, _⟩ := of_new built
    exact ⟨splitPrefix?_eq_none_iff, fun rest joined => splitPrefix?_eq_some_iff⟩

/-- Every prefix twice, and the longest ones no longer last. -/
def particlesTwice (nameType : NameType) : List String :=
  let prefixes := particleSet.toTable.prefixes nameType
  prefixes.reverse ++ prefixes

theorem encode_of_particles_twice :
    (∀ nameType pre, pre ∈ particlesTwice nameType ↔
      pre ∈ particleSet.toTable.prefixes nameType) ∧
    ∃ encoder, new { particleSet.toTable with prefixes := particlesTwice } {} = .ok encoder ∧
      encoder.encode "De la  d'Art" = "((art)-(dart))-(delad'art)" := by
  have same : ∀ nameType pre, pre ∈ particlesTwice nameType ↔
      pre ∈ particleSet.toTable.prefixes nameType := by
    intro nameType pre
    simp [particlesTwice]
  have encoded : (new particleSet.toTable {}).toOption.map (·.encode "De la  d'Art") =
      some "((art)-(dart))-(delad'art)" := by
    decide +kernel
  obtain ⟨encoder, built, encoding⟩ := exists_of_new _ encoded
  have alike := (encode_of_prefix_set same {}).1
  rw [built] at alike
  cases built' : new { particleSet.toTable with prefixes := particlesTwice } {} with
  | error error =>
    rw [built'] at alike
    cases alike
  | ok other =>
    rw [built'] at alike
    have encodes : other.encode = encoder.encode := congrArg Prod.fst (Except.ok.inj alike)
    exact ⟨same, other, rfl, by rw [encodes, encoding]⟩

end Encoder

end Homophone
