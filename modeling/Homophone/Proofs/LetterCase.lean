import Homophone.Proofs.DecomposedLength
import Homophone.Proofs.Guesses
import Homophone.Unicode.Category
import Mathlib.Data.List.Chain

/-! Capitals and small letters.

Every letter that has a small form is a capital or a title-case letter, and the small form has none of
its own, so a text in lower case stays as it is. A guess takes a word as it is if it has no capitals;
title-case letters are not looked for, and a word that has them but no capitals is not put into lower
case.
-/

set_option autoImplicit false

namespace Homophone

namespace Unicode

/-! ## Ranges as bits -/

namespace Ranges

theorem containsPoint_of_mem {ranges : Ranges} (ascending : (ranges.map (·.1)).IsChain (· ≤ ·))
    {range : Nat × Nat} (member : range ∈ ranges) {n : Nat} (low : range.1 ≤ n)
    (high : n ≤ range.2) : ranges.containsPoint n = true := by
  have ordered : ranges.Pairwise fun range other => range.1 ≤ other.1 :=
    List.pairwise_map.1 ascending.pairwise
  clear ascending
  induction ranges with
  | nil => cases member
  | cons first rest ih =>
    rw [List.pairwise_cons] at ordered
    rw [containsPoint]
    rcases List.mem_cons.1 member with rfl | later
    · simp [low, high]
    · have before : first.1 ≤ n := Nat.le_trans (ordered.1 range later) low
      simp [before, ih later ordered.2]

/-- The numbers in some ranges as the bits of one number. -/
def mask : Ranges → Nat
  | [] => 0
  | (first, last) :: rest => (2 ^ (last + 1 - first) - 1) <<< first ||| mask rest

theorem testBit_mask {ranges : Ranges} {n : Nat} :
    ranges.mask.testBit n = true ↔ ∃ range ∈ ranges, range.1 ≤ n ∧ n ≤ range.2 := by
  induction ranges with
  | nil => simp [mask]
  | cons range rest ih =>
    have here : (decide (n ≥ range.1) && decide (n - range.1 < range.2 + 1 - range.1)) = true ↔
        range.1 ≤ n ∧ n ≤ range.2 := by
      rw [Bool.and_eq_true, decide_eq_true_eq, decide_eq_true_eq]
      omega
    rw [mask, Nat.testBit_or, Bool.or_eq_true, Nat.testBit_shiftLeft, Nat.testBit_two_pow_sub_one,
      here, ih, List.exists_mem_cons_iff]

end Ranges

/-! ## Letters with a small form -/

def capitalPoints : List Nat :=
  lowerCaseRuns.flatMap fun run => run.steps.map fun k => k * run.step + run.first

def capitalBits : Nat := bitSet capitalPoints

theorem image?_eq_none {n : Nat} (small : capitalBits.testBit n = false) :
    CaseRuns.image? n lowerCaseRuns = none := by
  rw [Option.eq_none_iff_forall_ne_some]
  intro image found
  obtain ⟨run, listed, k, within, rfl, _⟩ := CaseRuns.exists_run_of_image? found
  have capital : capitalBits.testBit (k * run.step + run.first) = true :=
    testBit_bitSet.2 (List.mem_flatMap.2 ⟨run, listed, List.mem_map.2 ⟨k, within, rfl⟩⟩)
  rw [small] at capital
  cases capital

def isTitlecase (c : Char) : Bool := Category.titlecaseLetter.contains c

/-- What has a small form is a capital or a title-case letter, and no small form has one. Title-case
letters are no capitals. -/
theorem lowerCase_tables :
    (uppercase.map (·.1)).IsChain (· ≤ ·) ∧
    (Category.titlecaseLetter.map (·.1)).IsChain (· ≤ ·) ∧
    (∀ run ∈ lowerCaseRuns, ∀ k ∈ run.steps,
      capitalBits.testBit (k * run.step + run.target) = false ∧
      k * run.step + run.target ≠ 'İ'.toNat ∧
      (uppercase.mask.testBit (k * run.step + run.first) = true ∨
        Category.titlecaseLetter.mask.testBit (k * run.step + run.first) = true)) ∧
    (∀ range ∈ Category.titlecaseLetter, ∀ n ∈ List.range' range.1 (range.2 + 1 - range.1),
      isUppercase (Char.ofNat n) = false ∧ lowerCaseOf (Char.ofNat n) ≠ [Char.ofNat n]) ∧
    ∀ c ∈ ['\x00', 'i', '\u0307', 'ς', 'σ'], capitalBits.testBit c.toNat = false := by
  have checked :
      (decide ((uppercase.map (·.1)).IsChain (· ≤ ·)) &&
      decide ((Category.titlecaseLetter.map (·.1)).IsChain (· ≤ ·)) &&
      (lowerCaseRuns.all fun run => run.steps.all fun k =>
        !capitalBits.testBit (k * run.step + run.target) &&
        k * run.step + run.target != 'İ'.toNat &&
        (uppercase.mask.testBit (k * run.step + run.first) ||
          Category.titlecaseLetter.mask.testBit (k * run.step + run.first))) &&
      (Category.titlecaseLetter.all fun range =>
        (List.range' range.1 (range.2 + 1 - range.1)).all fun n =>
          !isUppercase (Char.ofNat n) && lowerCaseOf (Char.ofNat n) != [Char.ofNat n]) &&
      ['\x00', 'i', '\u0307', 'ς', 'σ'].all fun c => !capitalBits.testBit c.toNat) = true := by
    decide +kernel
  simp only [Bool.and_eq_true, Bool.or_eq_true, List.all_eq_true, decide_eq_true_eq, bne_iff_ne,
    Bool.not_eq_true', and_assoc] at checked
  exact checked

theorem lowerCaseOf_ofNat {n : Nat} (small : capitalBits.testBit n = false)
    (undotted : n ≠ 'İ'.toNat) : lowerCaseOf (Char.ofNat n) = [Char.ofNat n] := by
  by_cases valid : n.isValidChar
  · have same : (Char.ofNat n).toNat = n := toNat_ofNat valid
    have other : Char.ofNat n ≠ 'İ' := fun dotted => undotted (by rw [← same, dotted])
    rw [lowerCaseOf, if_neg other, CaseRuns.map, same, image?_eq_none small]
    rfl
  -- Numbers of no character stand for the first one.
  · rw [Char.ofNat, dif_neg valid]
    decide

theorem lowerCaseOf_of_plain {c : Char} (plain : c ∈ ['\x00', 'i', '\u0307', 'ς', 'σ']) :
    lowerCaseOf c = [c] := by
  obtain ⟨_, _, _, _, small⟩ := lowerCase_tables
  have undotted : c.toNat ≠ 'İ'.toNat := by
    simp only [List.mem_cons, List.not_mem_nil, or_false] at plain
    rcases plain with rfl | rfl | rfl | rfl | rfl <;> decide
  have own := lowerCaseOf_ofNat (small c plain) undotted
  rwa [Char.ofNat_toNat] at own

/-! ## Texts in lower case -/

theorem lowerCaseOf_of_mem {c small : Char} (member : small ∈ lowerCaseOf c) :
    lowerCaseOf small = [small] := by
  obtain ⟨_, _, images, _⟩ := lowerCase_tables
  rw [lowerCaseOf] at member
  split at member
  · simp only [List.mem_cons, List.not_mem_nil, or_false] at member
    rcases member with rfl | rfl <;> exact lowerCaseOf_of_plain (by simp)
  · next undotted =>
    rw [List.mem_singleton, CaseRuns.map] at member
    cases found : CaseRuns.image? c.toNat lowerCaseRuns with
    | none =>
      have same : small = c := by rw [member, found]; rfl
      rw [same, lowerCaseOf, if_neg undotted, CaseRuns.map, found]
      rfl
    | some image =>
      obtain ⟨run, listed, k, within, _, rfl⟩ := CaseRuns.exists_run_of_image? found
      obtain ⟨alone, undotted, _⟩ := images run listed k within
      rw [member, found]
      exact lowerCaseOf_ofNat alone undotted

theorem lowerCaseOf_of_mem_lowerCaseAfter {before text : List Char} {c : Char}
    (member : c ∈ lowerCaseAfter before text) : lowerCaseOf c = [c] := by
  induction text generalizing before with
  | nil => cases member
  | cons first rest ih =>
    rw [lowerCaseAfter] at member
    rcases List.mem_append.1 member with here | later
    · split at here
      · rw [List.mem_singleton.1 here]
        apply lowerCaseOf_of_plain
        rw [lowerCaseSigma]
        split <;> decide
      · exact lowerCaseOf_of_mem here
    · exact ih later

theorem lowerCaseAfter_of_small {text : List Char} (small : ∀ c ∈ text, lowerCaseOf c = [c])
    (before : List Char) : lowerCaseAfter before text = text := by
  induction text generalizing before with
  | nil => rfl
  | cons first rest ih =>
    rw [List.forall_mem_cons] at small
    have other : first ≠ 'Σ' := by
      rintro rfl
      exact absurd small.1 (by decide)
    rw [lowerCaseAfter, if_neg other, small.1, ih small.2, List.singleton_append]

theorem lowerCase_lowerCase (text : List Char) : lowerCase (lowerCase text) = lowerCase text :=
  lowerCaseAfter_of_small (fun _ => lowerCaseOf_of_mem_lowerCaseAfter) []

theorem lowerCaseOf_of_not_uppercase {c : Char} (upper : isUppercase c = false)
    (title : isTitlecase c = false) : lowerCaseOf c = [c] := by
  obtain ⟨uppers, titles, images, _⟩ := lowerCase_tables
  have undotted : c ≠ 'İ' := by
    rintro rfl
    exact absurd upper (by decide)
  cases found : CaseRuns.image? c.toNat lowerCaseRuns with
  | none =>
    rw [lowerCaseOf, if_neg undotted, CaseRuns.map, found]
    rfl
  | some image =>
    obtain ⟨run, listed, k, within, same, _⟩ := CaseRuns.exists_run_of_image? found
    obtain ⟨_, _, letter⟩ := images run listed k within
    rw [← same] at letter
    rcases letter with capital | titled
    · obtain ⟨range, member, low, high⟩ := Ranges.testBit_mask.1 capital
      have is : isUppercase c = true := Ranges.containsPoint_of_mem uppers member low high
      rw [upper] at is
      cases is
    · obtain ⟨range, member, low, high⟩ := Ranges.testBit_mask.1 titled
      have is : isTitlecase c = true := Ranges.containsPoint_of_mem titles member low high
      rw [title] at is
      cases is

theorem of_isTitlecase {c : Char} (title : isTitlecase c = true) :
    isUppercase c = false ∧ lowerCaseOf c ≠ [c] := by
  obtain ⟨_, _, _, letters, _⟩ := lowerCase_tables
  obtain ⟨range, listed, low, high⟩ := Ranges.containsPoint_sound title
  have known := letters range listed c.toNat (List.mem_range'_1.2 ⟨low, by omega⟩)
  rwa [Char.ofNat_toNat] at known

end Unicode

/-! ## Guessing -/

open Unicode

namespace Regex

theorem occursIn_char (set : Ranges) (text : List Char) :
    (Regex.char set).occursIn text = text.any set.contains := by
  rw [Bool.eq_iff_iff, occursIn, Bool.not_eq_true', List.isEmpty_eq_false_iff, ends, ne_eq,
    List.map_eq_nil_iff, List.filter_eq_nil_iff, List.any_eq_true]
  simp only [List.mem_range, Nat.lt_succ_iff, List.getElem?_toArray, not_forall, not_not]
  constructor
  · rintro ⟨place, _, held⟩
    obtain ⟨c, here, inside⟩ := (Option.any_eq_true _ _).1 held
    exact ⟨c, List.mem_of_getElem? here, inside⟩
  · rintro ⟨c, member, inside⟩
    obtain ⟨place, bound, here⟩ := List.getElem_of_mem member
    exact ⟨place, Nat.le_of_lt bound, by simp [List.getElem?_eq_getElem bound, here, inside]⟩

theorem contains_singleton {c other : Char} :
    (Ranges.singleton c).contains other = true ↔ other = c := by
  simp only [Ranges.contains, Ranges.singleton, Ranges.containsPoint, Bool.or_false,
    Bool.and_eq_true, decide_eq_true_eq]
  constructor
  · rintro ⟨low, high⟩
    exact Char.toNat_inj.1 (Nat.le_antisymm high low)
  · rintro rfl
    exact ⟨Nat.le_refl _, Nat.le_refl _⟩

def charSet? : Regex → Option Ranges
  | .char set => some set
  | _ => none

theorem ofPattern?_of_isTitlecase {c : Char} (title : isTitlecase c = true) :
    ofPattern? [c] = some (.char (.singleton c)) := by
  have checked : (Category.titlecaseLetter.all fun range =>
      (List.range' range.1 (range.2 + 1 - range.1)).all fun n =>
        (ofPattern? [Char.ofNat n]).bind charSet? == some [(n, n)]) = true := by
    decide +kernel
  simp only [List.all_eq_true, beq_iff_eq] at checked
  obtain ⟨range, listed, low, high⟩ := Ranges.containsPoint_sound title
  have known := checked range listed c.toNat (List.mem_range'_1.2 ⟨low, by omega⟩)
  rw [Char.ofNat_toNat] at known
  obtain ⟨regex, read, set⟩ := Option.bind_eq_some_iff.1 known
  rw [read]
  cases regex with
  | char _ =>
    cases set
    rfl
  | _ => cases set

end Regex

namespace Guesser

theorem caseless_of_any {word : List Char} (capital : word.any isUppercase = true) :
    caseless word = lowerCase word := if_pos capital

theorem caseless_lowerCase (word : List Char) : caseless (lowerCase word) = lowerCase word := by
  rw [caseless, lowerCase_lowerCase, ite_self]

/-- A rule that names a language for words with a title-case letter in them. -/
theorem exists_rule_of_isTitlecase {c : Char} (title : isTitlecase c = true)
    (languages : LanguageSet) (nonempty : languages.isEmpty = false) :
    ∃ rule, GuessRule.new (String.singleton c) languages true = .ok rule ∧
      rule.languages = languages ∧ rule.accepts = true ∧
      ∀ word, rule.matchesWord word = true ↔ c ∈ word := by
  refine ⟨⟨String.singleton c, .char (.singleton c), languages, true⟩, ?_, rfl, rfl, fun word => ?_⟩
  · rw [GuessRule.new, nonempty, String.toList_singleton, Regex.ofPattern?_of_isTitlecase title]
    rfl
  · rw [GuessRule.matchesWord, Regex.occursIn_char, List.any_eq_true]
    simp only [Regex.contains_singleton, exists_eq_right]

theorem guess_of_caseless {first second : String}
    (same : caseless first.toList = caseless second.toList) (guesser : Guesser) :
    guesser.guess first = guesser.guess second := by
  rw [guess, guess, same]

/-- Letter case makes no difference to any guess about a word with a capital in it, or without
title-case letters; for any other word there are rules to which it makes one. -/
theorem guess_lowerCase_iff (word : String) :
    (∀ guesser : Guesser,
      guesser.guess word = guesser.guess (String.ofList (lowerCase word.toList))) ↔
      word.toList.any isUppercase = true ∨ ∀ c ∈ word.toList, isTitlecase c = false := by
  have small : caseless (String.ofList (lowerCase word.toList)).toList = lowerCase word.toList := by
    rw [String.toList_ofList, caseless_lowerCase]
  constructor
  · intro always
    by_contra! mixed
    obtain ⟨noCapital, c, member, title⟩ := mixed
    rw [ne_eq, Bool.not_eq_false] at title
    obtain ⟨rule, _, languages, accepts, found⟩ :=
      exists_rule_of_isTitlecase title (.ofList [⟨"croatian"⟩]) (by decide)
    let guesser : Guesser := ⟨[rule], [], .any⟩
    have guessed (other : String) : (⟨"croatian"⟩ : Language) ∈ (guesser.guess other).members ↔
        c ∈ caseless other.toList := by
      have unlisted : (⟨"croatian"⟩ : Language) ∉ LanguageSet.any.members := by decide
      rw [mem_guess_iff, or_iff_left fun fallback => unlisted fallback.1]
      simp [guesser, Favours, Names, languages, accepts, found]
    -- The rule matches the word as it is, and not in lower case, which has no title-case letters.
    have matched : c ∈ caseless word.toList := by rwa [caseless, if_neg noCapital]
    have kept := (guessed _).1 (always guesser ▸ (guessed word).2 matched)
    rw [small] at kept
    exact (of_isTitlecase title).2 (lowerCaseOf_of_mem_lowerCaseAfter kept)
  · rintro (capital | untitled) guesser
    · exact guess_of_caseless ((caseless_of_any capital).trans small.symm) guesser
    · refine guess_of_caseless ?_ guesser
      rw [small, caseless]
      split
      · rfl
      · next noCapital =>
        refine (lowerCaseAfter_of_small (fun c member => ?_) []).symm
        have upper : isUppercase c = false := by
          simpa using fun capital => noCapital (List.any_eq_true.2 ⟨c, member, capital⟩)
        exact lowerCaseOf_of_not_uppercase upper (untitled c member)

/-- A rule for the small digraph, and the title-case one, which has no capital in it. -/
theorem guess_of_titlecase :
    ∃ rule, GuessRule.new "ǆ" (.ofList [⟨"croatian"⟩]) true = .ok rule ∧
      let guesser : Guesser := ⟨[rule], [⟨"croatian"⟩], .any⟩
      String.ofList (lowerCase "ǅ".toList) = "ǆ" ∧
      (guesser.guess "ǆ").members = [⟨"croatian"⟩] ∧ (guesser.guess "ǅ").members = [.any] := by
  have computed : (GuessRule.new "ǆ" (.ofList [⟨"croatian"⟩]) true).toOption.map (fun rule =>
      let guesser : Guesser := ⟨[rule], [⟨"croatian"⟩], .any⟩
      ((guesser.guess "ǆ").members, (guesser.guess "ǅ").members)) =
      some ([⟨"croatian"⟩], [.any]) := by
    decide +kernel
  cases read : GuessRule.new "ǆ" (.ofList [⟨"croatian"⟩]) true with
  | error error =>
    rw [read] at computed
    cases computed
  | ok rule =>
    rw [read] at computed
    obtain ⟨small, title⟩ := Prod.mk.inj (Option.some.inj computed)
    exact ⟨rule, rfl, by decide +kernel, small, title⟩

end Guesser

end Homophone
