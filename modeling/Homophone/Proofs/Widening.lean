import Homophone.Proofs.WordEncoding
import Mathlib.Data.List.Defs

/-! How often the raw candidates of a word are widened.

The loop is given by its passes, one after the other, without the measure that says why it ends.
Every pass but the last runs below the headroom, and the next one at twice its width or at the
headroom. So six doublings use the headroom up, whatever the cap is. The widths are the same when
they are computed in 64 bits.
-/

set_option autoImplicit false

namespace Homophone.Encoder

/-! ## Widths -/

/-- The headroom has room in 64 bits, so a doubled width only needs to be cut down to it. -/
theorem widen_eq (maxPhonemes width : Nat) :
    widen maxPhonemes width = min (2 * width) (headroom maxPhonemes) := by
  have bounded : headroom maxPhonemes ≤ countLimit := Nat.min_le_right _ _
  rw [widen, times, Nat.min_assoc, Nat.min_eq_right bounded]

/-- A product of counts of 64 bits, or the largest such count if the product has no room. -/
def timesWord (factor count : UInt64) : UInt64 :=
  if factor.toBitVec.umulOverflow count.toBitVec then .ofNat countLimit else factor * count

theorem toNat_timesWord (factor count : UInt64) :
    (timesWord factor count).toNat = times factor.toNat count.toNat := by
  have overflow : factor.toBitVec.umulOverflow count.toBitVec = true ↔
      countLimit < factor.toNat * count.toNat := by
    simp only [BitVec.umulOverflow, UInt64.toNat_toBitVec, ge_iff_le, decide_eq_true_eq, countLimit]
    omega
  rw [timesWord, times]
  split
  · next exceeds =>
    rw [Nat.min_eq_right (Nat.le_of_lt (overflow.1 exceeds))]
    rfl
  · next room =>
    rw [overflow, Nat.not_lt] at room
    rw [Nat.min_eq_left room, UInt64.toNat_mul]
    exact Nat.mod_eq_of_lt (Nat.lt_succ_of_le room)

def widenWord (maxPhonemes width : UInt64) : UInt64 :=
  min (timesWord 2 width) (timesWord 64 maxPhonemes)

theorem toNat_widenWord (maxPhonemes width : UInt64) :
    (widenWord maxPhonemes width).toNat = widen maxPhonemes.toNat width.toNat := by
  rw [widenWord, UInt64.toNat_min, toNat_timesWord, toNat_timesWord]
  rfl

theorem iterate_widen (maxPhonemes width : UInt64) (count : Nat) :
    List.iterate (widen maxPhonemes.toNat) width.toNat count =
      (List.iterate (widenWord maxPhonemes) width count).map UInt64.toNat := by
  induction count generalizing width with
  | zero => rfl
  | succ count ih =>
    rw [List.iterate, List.iterate, List.map_cons, ← ih, toNat_widenWord]

/-! ## Passes -/

section

variable {encoder : Encoder} {finals : RuleList} {word : String} {languages : LanguageSet}

namespace Passes

variable {width : Nat} {widths : List Nat} {out : Frontier}

theorem unique (passes : encoder.Passes finals word languages width widths out)
    {others : List Nat} {other : Frontier}
    (again : encoder.Passes finals word languages width others other) :
    others = widths ∧ other = out := by
  induction passes generalizing others other with
  | last ends =>
    cases again with
    | last _ => exact ⟨rfl, rfl⟩
    | wider goesOn _ => exact absurd ends goesOn
  | wider goesOn _ ih =>
    cases again with
    | last ends => exact absurd ends goesOn
    | wider _ rest =>
      obtain ⟨rfl, rfl⟩ := ih rest
      exact ⟨rfl, rfl⟩

theorem widths_eq (passes : encoder.Passes finals word languages width widths out) :
    widths = List.iterate (widen encoder.settings.maxPhonemes) width widths.length := by
  induction passes with
  | last _ => rfl
  | wider _ _ ih => exact congrArg (List.cons _) ih

theorem ascending (passes : encoder.Passes finals word languages width widths out)
    (positive : 0 < width) : widths.Pairwise (· < ·) := by
  induction passes with
  | last _ => exact List.pairwise_singleton _ _
  | wider goesOn rest ih =>
    have grows := lt_widen positive (lt_headroom_of_not_ends goesOn)
    have positive' := Nat.lt_trans positive grows
    refine List.pairwise_cons.2 ⟨fun tried member => ?_, ih positive'⟩
    exact Nat.lt_of_lt_of_le grows (rest.le_of_mem positive' tried member)

/-- If so many doublings of the width reach the headroom, there is at most one pass for each of them
beside the first. -/
theorem length_le {doublings : Nat}
    (passes : encoder.Passes finals word languages width widths out)
    (reached : headroom encoder.settings.maxPhonemes ≤ width <<< doublings) :
    widths.length ≤ doublings + 1 := by
  induction passes generalizing doublings with
  | last _ => exact Nat.le_add_left 1 doublings
  | @wider width _ _ goesOn _ ih =>
    cases doublings with
    | zero => exact absurd (lt_headroom_of_not_ends goesOn) (Nat.not_lt.2 reached)
    | succ doublings =>
      refine Nat.succ_le_succ (ih ?_)
      rw [widen_eq]
      -- Either the width is doubled, or the next pass runs at the headroom already.
      rcases Nat.le_total (2 * width) (headroom encoder.settings.maxPhonemes) with below | beyond
      · rw [Nat.min_eq_left below, ← Nat.shiftLeft_succ_inside]
        exact reached
      · rw [Nat.min_eq_right beyond]
        exact Nat.le_shiftLeft

end Passes

/-- A last pass that has a full raw frontier and does not fill its own runs at the headroom. -/
theorem eq_headroom_of_ends {width : Nat} (ends : encoder.Ends finals word languages width)
    (inside : width ≤ headroom encoder.settings.maxPhonemes)
    (unfilled : (encoder.pass finals word languages width).isFull = false)
    (full : (encoder.applyPrimary word languages width).isFull = true) :
    width = headroom encoder.settings.maxPhonemes := by
  have cap : (encoder.applyPrimary word languages width).cap = width :=
    (encoder.adds_applyPrimary word languages width).cap_eq
  rw [Frontier.isFull_iff, cap, ← Frontier.size_eq] at full
  rcases ends with filled | short | spent
  · rw [unfilled] at filled
    cases filled
  · exact absurd short (Nat.not_lt.2 full)
  · exact Nat.le_antisymm inside spent

end

/-! ## Words -/

/-- For every cap of 64 bits, the loop for a word comes to an end, after seven passes at most. Their
widths grow from the cap up to the headroom, each twice the last one as far as the headroom goes,
and 64 bits are enough to compute them. When the last pass does not fill its frontier although the
raw frontier is full, it runs at the headroom. -/
theorem passes_of_encodeWord {table : RuleTable} {settings : Settings} {encoder : Encoder}
    (built : new table settings = .ok encoder) (bounded : settings.maxPhonemes ≤ countLimit)
    (explicit : Option LanguageSet) (word : String) :
    let languages := explicit.getD (encoder.guessLanguages word)
    let limit := min (64 * settings.maxPhonemes) countLimit
    let cap := UInt64.ofNat settings.maxPhonemes
    let out := encoder.encodeWord explicit word
    ∃ finals, table.finalRules settings.nameType settings.ruleType = some finals ∧
      ∃ widths, encoder.Passes finals word languages settings.maxPhonemes widths out ∧
        (∀ others other, encoder.Passes finals word languages settings.maxPhonemes others other →
          others = widths ∧ other = out) ∧
        widths.length ≤ 7 ∧ widths.Pairwise (· < ·) ∧ (∀ width ∈ widths, width ≤ limit) ∧
        widths = List.iterate (fun width => min (2 * width) limit) settings.maxPhonemes
          widths.length ∧
        widths = (List.iterate (widenWord cap) cap widths.length).map UInt64.toNat ∧
        ∃ last, widths.getLast? = some last ∧ out = encoder.pass finals word languages last ∧
          (out.isFull = false → (encoder.applyPrimary word languages last).isFull = true →
            last = limit) := by
  intro languages limit cap out
  obtain ⟨rfl, rfl, _, _, finals, served⟩ := of_new built
  have positive : 0 < encoder.settings.maxPhonemes := Settings.maxPhonemes_pos encoder.valid
  have inside := le_headroom bounded
  have capped : cap.toNat = encoder.settings.maxPhonemes :=
    UInt64.toNat_ofNat_of_lt' (Nat.lt_succ_of_le bounded)
  obtain ⟨widths, passes⟩ : ∃ widths, encoder.Passes finals word languages
      encoder.settings.maxPhonemes widths out := by
    have made := encoder.exists_passes finals word languages _ positive
    simp only [out, encodeWord, finalRules, served]
    exact made
  have sixfold : headroom encoder.settings.maxPhonemes ≤ encoder.settings.maxPhonemes <<< 6 := by
    rw [Nat.shiftLeft_eq, Nat.mul_comm]
    exact Nat.min_le_left _ _
  obtain ⟨last, member, found, ends, left⟩ := passes.exists_last
  refine ⟨finals, served, widths, passes, fun others other again => passes.unique again,
    passes.length_le sixfold, passes.ascending positive, passes.le_headroom inside, ?_, ?_,
    last, found, left, fun unfilled full => ?_⟩
  · have doubled : widen encoder.settings.maxPhonemes = fun width => min (2 * width) limit :=
      funext (widen_eq encoder.settings.maxPhonemes)
    exact doubled ▸ passes.widths_eq
  · rw [← iterate_widen, capped]
    exact passes.widths_eq
  · exact eq_headroom_of_ends ends (passes.le_headroom inside last member) (left ▸ unfilled) full

def mergingFinals : RuleList :=
  .ofList [{ Rule.either 'e' "i" "i" with
    phonemes := [.plain "i"]
    phonemes_ne_nil := List.cons_ne_nil _ _ }]

def mergingTable : RuleTable where
  languages _ := [⟨"any"⟩]
  rules _ _ _ := some (.ofList [.either 'a' "e" "i"])
  finalRules _ _ := some mergingFinals
  guessRules _ := []
  prefixes _ := []

def mergingEncoder : Encoder := ⟨mergingTable, { maxPhonemes := 2 }, rfl⟩

/-- Six letters have 64 raw candidates and one alternative, so that with a cap of two all seven
passes are made. -/
theorem passes_of_encodeWord_merged :
    new mergingTable { maxPhonemes := 2 } = .ok mergingEncoder ∧ 2 ≤ countLimit ∧
      (mergingEncoder.encodeWord (some .any) "aaaaaa").toList = ["iiiiii"] ∧
      mergingEncoder.Passes mergingFinals "aaaaaa" .any 2 [2, 4, 8, 16, 32, 64, 128]
        (mergingEncoder.encodeWord (some .any) "aaaaaa") := by
  have built : new mergingTable { maxPhonemes := 2 } = .ok mergingEncoder := rfl
  have bounded : 2 ≤ countLimit := by decide
  obtain ⟨finals, served, widths, passes, only, _⟩ :=
    passes_of_encodeWord built bounded (some .any) "aaaaaa"
  cases served
  have raw : (mergingEncoder.rawCandidates .any "aaaaaa").length = 64 := by decide +kernel
  have merged : (mergingEncoder.finalized mergingFinals .any "aaaaaa" 128).eraseDups =
      ["iiiiii"] := by decide +kernel
  have goesOn : ∀ width ≤ 64, ¬mergingEncoder.Ends mergingFinals "aaaaaa" .any width := by
    intro width below ends
    have few := (eraseDups_isPrefix (mergingEncoder.finalized_isPrefix mergingFinals .any "aaaaaa"
      (Nat.le_trans below (by decide : 64 ≤ 128)))).length_le
    rw [merged] at few
    rw [ends_iff, raw] at ends
    rcases ends with full | short | spent
    · exact absurd (Nat.le_trans full few) (by decide)
    · exact absurd below (Nat.not_le.2 short)
    · exact absurd (Nat.le_trans spent below) (by decide)
  have made : mergingEncoder.Passes mergingFinals "aaaaaa" .any 2 [2, 4, 8, 16, 32, 64, 128]
      (mergingEncoder.pass mergingFinals "aaaaaa" .any 128) :=
    .wider (goesOn 2 (by decide)) <| .wider (goesOn 4 (by decide)) <|
      .wider (goesOn 8 (by decide)) <| .wider (goesOn 16 (by decide)) <|
      .wider (goesOn 32 (by decide)) <| .wider (goesOn 64 (by decide)) <|
      .last (.inr (.inr (by decide)))
  obtain ⟨rfl, left⟩ := only _ _ made
  refine ⟨built, bounded, ?_, passes⟩
  rw [← left, toList_pass, firstDistinct, merged]
  rfl

end Homophone.Encoder
