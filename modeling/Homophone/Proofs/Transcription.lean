import Homophone.Proofs.Choices
import Homophone.Transcription
import Mathlib.Logic.Relation

/-! Transcriptions as choices.

The rules cut a word into segments, and no cap has a part in that. The first transcriptions of the
word, as many as the cap allows, are the first ways to choose one alternative of every segment.
-/

set_option autoImplicit false

namespace Homophone

/-! ## Selecting rules -/

def Rule.isUsableAt (rule : Rule) (language : Option Language) (word : String) (offset : Nat) :
    Bool :=
  rule.matchesAt word offset && !(rule.alternativesFor language).isEmpty

namespace RuleList

theorem choose?_of_usable {rule : Rule} {language : Option Language} {word : String} {offset : Nat}
    (usable : rule.isUsableAt language word offset = true) :
    choose? language word offset rule = some (rule, rule.alternativesFor language) := by
  rw [Rule.isUsableAt, Bool.and_eq_true, Bool.not_eq_true', List.isEmpty_eq_false_iff] at usable
  exact choose?_eq_some_iff.2 ⟨usable.1, usable.2, rfl, rfl⟩

theorem choose?_of_not_usable {rule : Rule} {language : Option Language} {word : String}
    {offset : Nat} (unusable : ¬rule.isUsableAt language word offset = true) :
    choose? language word offset rule = none := by
  rw [Option.eq_none_iff_forall_ne_some]
  rintro ⟨chosen, alternatives⟩ selected
  obtain ⟨applies, nonempty, rfl, rfl⟩ := choose?_eq_some_iff.1 selected
  apply unusable
  rw [Rule.isUsableAt, applies, Bool.true_and, Bool.not_eq_true', List.isEmpty_eq_false_iff]
  exact nonempty

/-- The index passes over no rule that is of use. -/
theorem select?_eq_findSome? (list : RuleList) (language : Option Language) (word : String)
    (offset : Nat) :
    list.select? language word offset = list.rules.findSome? (choose? language word offset) := by
  have indexed : list.candidatesAt word offset = list.rules.filter fun rule =>
      Text.charAtByte? offset word.toList == some rule.firstChar := by
    cases here : Text.charAtByte? offset word.toList with
    | none => simp [candidatesAt, here]
    | some c => simp [candidatesAt_eq_filter here, Bool.beq_comm]
  rw [select?, indexed]
  induction list.rules with
  | nil => rfl
  | cons rule rest ih =>
    by_cases applies : rule.matchesAt word offset = true
    · rw [List.filter_cons_of_pos (by rw [Rule.charAtByte?_of_matchesAt applies, beq_self_eq_true]),
        List.findSome?_cons, List.findSome?_cons, ih]
    · have passed : choose? language word offset rule = none := if_neg applies
      rw [List.findSome?_cons, passed, List.filter_cons]
      split
      · rw [List.findSome?_cons, passed]
        exact ih
      · exact ih

theorem select?_eq_find? (list : RuleList) (language : Option Language) (word : String)
    (offset : Nat) :
    list.select? language word offset =
      (list.rules.find? (·.isUsableAt language word offset)).map fun rule =>
        (rule, rule.alternativesFor language) := by
  rw [select?_eq_findSome?]
  induction list.rules with
  | nil => rfl
  | cons rule rest ih =>
    by_cases usable : rule.isUsableAt language word offset = true
    · simp only [List.findSome?_cons, choose?_of_usable usable, List.find?_cons, usable,
        Option.map_some]
    · have passed := choose?_of_not_usable usable
      rw [Bool.not_eq_true] at usable
      simp only [List.findSome?_cons, passed, List.find?_cons, usable, ih]

/-! ## Segments -/

/-- The greedy segments of a word from a byte offset on: where a rule is of use, the first such rule
replaces its pattern, and elsewhere a character is copied. -/
inductive Cuts (list : RuleList) (language : Option Language) (word : String) :
    Nat → List Segment → Prop where
  | finished : Cuts list language word (Text.byteLength word.toList) []
  | replaced {offset : Nat} {rule : Rule} {rest : List Segment} :
      list.rules.find? (·.isUsableAt language word offset) = some rule →
      Cuts list language word (offset + Text.byteLength rule.pattern) rest →
      Cuts list language word offset (.replaced rule (rule.alternativesFor language) :: rest)
  | copied {offset : Nat} {c : Char} {rest : List Segment} :
      list.rules.find? (·.isUsableAt language word offset) = none →
      Text.charAtByte? offset word.toList = some c →
      Cuts list language word (offset + c.utf8Size) rest →
      Cuts list language word offset (.copied c :: rest)

theorem offset_add_width_le {list : RuleList} {language : Option Language} {word : String}
    {offset : Nat} {segment : Segment}
    (found : list.segmentAt? language word offset = some segment) :
    offset + segment.width ≤ Text.byteLength word.toList := by
  obtain ⟨before, after, parts, rfl⟩ := exists_parts_of_segmentAt? found
  rw [parts, Text.byteLength_append, Text.byteLength_append, Segment.width]
  omega

def segmentsFrom (list : RuleList) (language : Option Language) (word : String) (offset : Nat) :
    List Segment :=
  match _ : list.segmentAt? language word offset with
  | some segment => segment :: list.segmentsFrom language word (offset + segment.width)
  | none => []
termination_by Text.byteLength word.toList - offset
decreasing_by
  have inside := offset_add_width_le ‹_›
  have positive := segment.width_pos
  omega

def segments (list : RuleList) (language : Option Language) (word : String) : List Segment :=
  list.segmentsFrom language word 0

theorem segmentAt?_eq_none_iff {list : RuleList} {language : Option Language} {word : String}
    {offset : Nat} (boundary : Text.IsBoundary word.toList offset) :
    list.segmentAt? language word offset = none ↔ offset = Text.byteLength word.toList := by
  constructor
  · intro missing
    have outside : ¬offset < Text.byteLength word.toList := fun inside => by
      obtain ⟨segment, found⟩ := list.exists_segmentAt? language boundary inside
      cases found.symm.trans missing
    obtain ⟨before, after, parts, rfl⟩ := boundary
    rw [parts, Text.byteLength_append] at outside ⊢
    omega
  · rintro rfl
    cases found : list.segmentAt? language word (Text.byteLength word.toList) with
    | none => rfl
    | some segment =>
      have inside := offset_add_width_le found
      have positive := segment.width_pos
      omega

theorem segmentsFrom_of_segmentAt? {list : RuleList} {language : Option Language} {word : String}
    {offset : Nat} {segment : Segment}
    (found : list.segmentAt? language word offset = some segment) :
    list.segmentsFrom language word offset =
      segment :: list.segmentsFrom language word (offset + segment.width) := by
  rw [segmentsFrom]
  split
  · next other =>
    cases found.symm.trans other
    rfl
  · next missing => cases found.symm.trans missing

theorem segmentsFrom_end (list : RuleList) (language : Option Language) (word : String) :
    list.segmentsFrom language word (Text.byteLength word.toList) = [] := by
  have boundary : Text.IsBoundary word.toList (Text.byteLength word.toList) :=
    ⟨word.toList, [], (List.append_nil _).symm, rfl⟩
  rw [segmentsFrom]
  split
  · next found => cases found.symm.trans ((segmentAt?_eq_none_iff boundary).2 rfl)
  · rfl

theorem segmentAt?_of_find? {list : RuleList} {language : Option Language} {word : String}
    {offset : Nat} {rule : Rule}
    (first : list.rules.find? (·.isUsableAt language word offset) = some rule) :
    list.segmentAt? language word offset =
      some (.replaced rule (rule.alternativesFor language)) := by
  simp only [segmentAt?, select?_eq_find?, first, Option.map_some]

theorem segmentAt?_of_not_find? {list : RuleList} {language : Option Language} {word : String}
    {offset : Nat} (unused : list.rules.find? (·.isUsableAt language word offset) = none) :
    list.segmentAt? language word offset =
      (Text.charAtByte? offset word.toList).map .copied := by
  simp only [segmentAt?, select?_eq_find?, unused, Option.map_none]

theorem cuts_segmentsFrom (list : RuleList) (language : Option Language) (word : String)
    (offset : Nat) (boundary : Text.IsBoundary word.toList offset) :
    list.Cuts language word offset (list.segmentsFrom language word offset) := by
  fun_induction segmentsFrom list language word offset with
  | case1 offset segment found ih =>
    have others := ih (isBoundary_add_width found)
    cases first : list.rules.find? (·.isUsableAt language word offset) with
    | some rule =>
      cases (segmentAt?_of_find? first).symm.trans found
      exact .replaced first others
    | none =>
      obtain ⟨c, here, rfl⟩ := Option.map_eq_some_iff.1 (segmentAt?_of_not_find? first ▸ found)
      exact .copied first here others
  | case2 offset missing =>
    rw [(segmentAt?_eq_none_iff boundary).1 missing]
    exact .finished

theorem Cuts.eq_segmentsFrom {list : RuleList} {language : Option Language} {word : String}
    {offset : Nat} {segments : List Segment} (cuts : list.Cuts language word offset segments) :
    segments = list.segmentsFrom language word offset := by
  induction cuts with
  | finished => exact (list.segmentsFrom_end language word).symm
  | replaced first _ ih =>
    rw [segmentsFrom_of_segmentAt? (segmentAt?_of_find? first), ih]
    rfl
  | copied unused here _ ih =>
    have found := segmentAt?_of_not_find? unused
    rw [here, Option.map_some] at found
    rw [segmentsFrom_of_segmentAt? found, ih]
    rfl

theorem flatMap_source_segmentsFrom (list : RuleList) (language : Option Language) (word : String)
    (offset : Nat) {before after : List Char} (parts : word.toList = before ++ after)
    (length : Text.byteLength before = offset) :
    (list.segmentsFrom language word offset).flatMap Segment.source = after := by
  fun_induction segmentsFrom list language word offset generalizing before after with
  | case1 offset segment found ih =>
    obtain ⟨before', rest, parts', length'⟩ := exists_parts_of_segmentAt? found
    have cut := Text.splitAtByte?_eq_some_iff.2 ⟨parts, length⟩
    rw [List.append_assoc] at parts'
    cases cut.symm.trans (Text.splitAtByte?_eq_some_iff.2 ⟨parts', length'⟩)
    have covered : word.toList = before ++ segment.source ++ rest := by
      rw [parts, List.append_assoc]
    rw [List.flatMap_cons, ih covered (by rw [Text.byteLength_append, length, Segment.width])]
  | case2 offset missing =>
    have finished := (segmentAt?_eq_none_iff ⟨before, after, parts, length⟩).1 missing
    rw [parts, Text.byteLength_append, length] at finished
    exact (Text.byteLength_eq_zero_iff.1 (by omega)).symm

theorem length_le_length_flatMap_source (segments : List Segment) :
    segments.length ≤ (segments.flatMap Segment.source).length := by
  induction segments with
  | nil => exact Nat.le_refl 0
  | cons segment rest ih =>
    have nonempty := List.length_pos_iff.2 segment.source_ne_nil
    rw [List.flatMap_cons, List.length_append, List.length_cons]
    omega

/-! ## Reading -/

/-- Reading goes over the segments one by one. -/
theorem finish?_eq_foldl (list : RuleList) (language : Option Language) (word : String)
    (progress : Progress) (boundary : Text.IsBoundary word.toList progress.offset) :
    list.finish? language word progress =
      some ((list.segmentsFrom language word progress.offset).foldl Progress.past progress) := by
  fun_induction finish? list language word progress with
  | case1 progress inside next advanced ih =>
    rw [ih (isBoundary_of_advance? advanced)]
    obtain ⟨segment, found, rfl⟩ := Option.map_eq_some_iff.1 advanced
    rw [segmentsFrom_of_segmentAt? found, List.foldl_cons]
    rfl
  | case2 progress inside stuck =>
    obtain ⟨segment, found⟩ := list.exists_segmentAt? language boundary inside
    simp [advance?, found] at stuck
  | case3 progress finished =>
    have last : progress.offset = Text.byteLength word.toList := by
      obtain ⟨before, after, parts, length⟩ := boundary
      rw [parts, Text.byteLength_append] at finished ⊢
      omega
    rw [last, segmentsFrom_end]
    rfl

end RuleList

/-! ## Candidates and counts -/

theorem Segment.extends_extend (segment : Segment) (frontier : Frontier) :
    frontier.Extends (segment.extend frontier) segment.alternatives := by
  cases segment with
  | replaced rule alternatives => exact frontier.extends_expand alternatives
  | copied c => exact frontier.extends_append (String.singleton c)

theorem SegmentCounts.foldl_add (segments : List Segment) (counts : SegmentCounts) :
    segments.foldl SegmentCounts.add counts =
      { steps := counts.steps + segments.length
        ruleMatches := counts.ruleMatches + segments.countP (·.isReplaced)
        literalCopies := counts.literalCopies + segments.countP (!·.isReplaced) } := by
  induction segments generalizing counts with
  | nil => rfl
  | cons segment rest ih =>
    rw [List.foldl_cons, ih]
    cases segment <;> simp [add, Segment.isReplaced] <;> omega

namespace Progress

@[simp] theorem frontier_foldl_past (segments : List Segment) (progress : Progress) :
    (segments.foldl past progress).frontier = segments.foldl Segment.extend progress.frontier := by
  induction segments generalizing progress with
  | nil => rfl
  | cons segment rest ih => rw [List.foldl_cons, List.foldl_cons, ih, past]

@[simp] theorem counts_foldl_past (segments : List Segment) (progress : Progress) :
    (segments.foldl past progress).counts = segments.foldl SegmentCounts.add progress.counts := by
  induction segments generalizing progress with
  | nil => rfl
  | cons segment rest ih => rw [List.foldl_cons, List.foldl_cons, ih, past]

end Progress

namespace RuleList

theorem transcribe?_eq (list : RuleList) (language : Option Language) (cap : Nat) (word : String) :
    list.transcribe? language cap word =
      some ((list.segments language word).foldl Progress.past (.start cap)) :=
  list.finish?_eq_foldl language word (.start cap) (Text.isBoundary_zero word.toList)

theorem toList_frontier_past (segments : List Segment) (cap : Nat) :
    (segments.foldl Progress.past (.start cap)).frontier.toList =
      firstDistinct cap (choices (segments.map Segment.alternatives)) := by
  rw [Progress.frontier_foldl_past]
  exact Frontier.toList_foldl_seed (fun frontier segment => segment.extends_extend frontier)
    segments cap

def transcriptions (list : RuleList) (language : Option Language) (word : String) : List String :=
  (choices ((list.segments language word).map Segment.alternatives)).eraseDups

theorem toList_apply (list : RuleList) (language : Option Language) (cap : Nat) (word : String) :
    (list.apply language cap word).toList =
      firstDistinct cap (list.transcriptions language word) := by
  have read : list.transcribe language cap word =
      (list.segments language word).foldl Progress.past (.start cap) := by
    simp only [transcribe, transcribe?_eq, Option.get_some]
  rw [apply, read, toList_frontier_past]
  exact firstDistinct_congr cap (eraseDups_eraseDups _).symm

theorem adds_applyAll (list : RuleList) (language : Option Language) (cap : Nat)
    (words : List String) :
    (Frontier.new cap).Adds (list.applyAll language cap words)
      (words.flatMap (list.transcriptions language)) := by
  refine Frontier.WellFormed.adds_foldl ?_ words (Frontier.wellFormed_new cap) rfl
  intro frontier word formed same
  split
  · next full => exact formed.adds_of_full full _
  · exact formed.adds_union (same ▸ list.toList_apply language _ word)

/-! ## Reached states -/

def Reaches (list : RuleList) (language : Option Language) (word : String) :
    Progress → Progress → Prop :=
  Relation.ReflTransGen fun progress next => list.advance? language word progress = some next

theorem Reaches.isBoundary {list : RuleList} {language : Option Language} {word : String}
    {progress next : Progress} (reached : list.Reaches language word progress next)
    (boundary : Text.IsBoundary word.toList progress.offset) :
    Text.IsBoundary word.toList next.offset := by
  induction reached with
  | refl => exact boundary
  | tail _ advanced _ => exact isBoundary_of_advance? advanced

/-- For every cap, a word can be read to its end, and its first transcriptions are the first choices
of one alternative for each segment, the earliest varying slowest. The segments are the greedy ones
and no others. They cover the word; there is one step for each, and no more than there are
characters. Reading only ever stands between characters, and goes on until the end. -/
theorem transcription_first_choices (list : RuleList) (language : Option Language) (word : String) :
    ∃ segments,
      list.Cuts language word 0 segments ∧
      (∀ others, list.Cuts language word 0 others → others = segments) ∧
      segments.flatMap Segment.source = word.toList ∧
      ∀ cap, ∃ last,
        list.transcribe? language cap word = some last ∧
        last.frontier.toList = firstDistinct cap (choices (segments.map Segment.alternatives)) ∧
        last.counts.steps = segments.length ∧
        last.counts.ruleMatches = segments.countP (·.isReplaced) ∧
        last.counts.steps = last.counts.ruleMatches + last.counts.literalCopies ∧
        last.counts.steps ≤ word.length ∧
        ∀ progress, list.Reaches language word (.start cap) progress →
          Text.IsBoundary word.toList progress.offset ∧
          (progress.offset < Text.byteLength word.toList →
            ∃ next, list.advance? language word progress = some next) := by
  have start := Text.isBoundary_zero word.toList
  have covered : (list.segments language word).flatMap Segment.source = word.toList :=
    list.flatMap_source_segmentsFrom language word 0 (List.nil_append _).symm rfl
  refine ⟨list.segments language word, list.cuts_segmentsFrom language word 0 start,
    fun others cuts => cuts.eq_segmentsFrom, covered, ?_⟩
  intro cap
  have counted := SegmentCounts.foldl_add (list.segments language word) {}
  have split : (list.segments language word).length =
      (list.segments language word).countP (·.isReplaced) +
        (list.segments language word).countP (!·.isReplaced) := by
    simpa using List.length_eq_countP_add_countP Segment.isReplaced
  simp only [Nat.zero_add] at counted
  refine ⟨_, list.transcribe?_eq language cap word, toList_frontier_past _ cap, ?_⟩
  rw [Progress.counts_foldl_past, Progress.start, counted]
  refine ⟨rfl, rfl, split, ?_, ?_⟩
  · rw [← String.length_toList, ← covered]
    exact length_le_length_flatMap_source _
  · intro progress reached
    have boundary := reached.isBoundary start
    refine ⟨boundary, fun inside => ?_⟩
    obtain ⟨segment, found⟩ := list.exists_segmentAt? language boundary inside
    exact ⟨progress.past segment, by rw [advance?, found, Option.map_some]⟩

end RuleList

end Homophone
