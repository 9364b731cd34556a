import Homophone.Frontier
import Homophone.RuleList

/-! Transcribing a word from left to right.

Where a rule applies, the first that does is used and the reading goes on behind its pattern;
elsewhere the character stands for itself. So the rules cut the word into segments, each with its
alternatives, and the results are the ways to choose one alternative of every segment.
-/

set_option autoImplicit false

namespace Homophone

inductive Segment where
  | replaced (rule : Rule) (alternatives : List String)
  | copied (c : Char)

namespace Segment

def source : Segment → List Char
  | replaced rule _ => rule.pattern
  | copied c => [c]

def alternatives : Segment → List String
  | replaced _ alternatives => alternatives
  | copied c => [String.singleton c]

def isReplaced : Segment → Bool
  | replaced .. => true
  | copied _ => false

def width (segment : Segment) : Nat := Text.byteLength segment.source

def extend (frontier : Frontier) : Segment → Frontier
  | replaced _ alternatives => frontier.expand alternatives
  | copied c => frontier.append (String.singleton c)

theorem source_ne_nil (segment : Segment) : segment.source ≠ [] := by
  cases segment with
  | replaced rule alternatives => exact rule.pattern_ne_nil
  | copied c => exact List.cons_ne_nil c []

theorem width_pos (segment : Segment) : 0 < segment.width := by
  have nonempty := segment.source_ne_nil
  rw [width]
  cases covered : segment.source with
  | nil => exact absurd covered nonempty
  | cons c rest =>
    have positive := c.utf8Size_pos
    rw [Text.byteLength]
    omega

end Segment

structure SegmentCounts where
  steps : Nat := 0
  ruleMatches : Nat := 0
  literalCopies : Nat := 0
  deriving DecidableEq, Repr

def SegmentCounts.add (counts : SegmentCounts) : Segment → SegmentCounts
  | .replaced .. =>
    { counts with steps := counts.steps + 1, ruleMatches := counts.ruleMatches + 1 }
  | .copied _ =>
    { counts with steps := counts.steps + 1, literalCopies := counts.literalCopies + 1 }

structure Progress where
  /-- The bytes read. -/
  offset : Nat
  frontier : Frontier
  counts : SegmentCounts

namespace Progress

def start (cap : Nat) : Progress := ⟨0, .seed cap, {}⟩

def past (progress : Progress) (segment : Segment) : Progress where
  offset := progress.offset + segment.width
  frontier := segment.extend progress.frontier
  counts := progress.counts.add segment

end Progress

namespace RuleList

/-- The segment that begins at a byte offset. There is none at the end of the word, and none inside
a character. -/
def segmentAt? (list : RuleList) (language : Option Language) (word : String) (offset : Nat) :
    Option Segment :=
  match list.select? language word offset with
  | some (rule, alternatives) => some (.replaced rule alternatives)
  | none => (Text.charAtByte? offset word.toList).map .copied

theorem exists_parts_of_segmentAt? {list : RuleList} {language : Option Language} {word : String}
    {offset : Nat} {segment : Segment}
    (found : list.segmentAt? language word offset = some segment) :
    ∃ before after, word.toList = before ++ segment.source ++ after ∧
      Text.byteLength before = offset := by
  rw [segmentAt?] at found
  split at found
  · next rule alternatives selected =>
    cases found
    exact Rule.exists_parts_of_matchesAt (exists_of_select? selected).1
  · obtain ⟨c, here, rfl⟩ := Option.map_eq_some_iff.1 found
    obtain ⟨before, after, parts, length⟩ := Text.charAtByte?_eq_some_iff.1 here
    exact ⟨before, after, by rw [parts, Segment.source, List.append_cons], length⟩

theorem isBoundary_add_width {list : RuleList} {language : Option Language} {word : String}
    {offset : Nat} {segment : Segment}
    (found : list.segmentAt? language word offset = some segment) :
    Text.IsBoundary word.toList (offset + segment.width) := by
  obtain ⟨before, after, parts, rfl⟩ := exists_parts_of_segmentAt? found
  exact ⟨before ++ segment.source, after, parts, Text.byteLength_append before segment.source⟩

theorem exists_segmentAt? (list : RuleList) (language : Option Language) {word : String}
    {offset : Nat} (boundary : Text.IsBoundary word.toList offset)
    (inside : offset < Text.byteLength word.toList) :
    ∃ segment, list.segmentAt? language word offset = some segment := by
  obtain ⟨c, here⟩ := boundary.exists_char inside
  rw [segmentAt?, here]
  split
  · exact ⟨_, rfl⟩
  · exact ⟨.copied c, rfl⟩

def advance? (list : RuleList) (language : Option Language) (word : String) (progress : Progress) :
    Option Progress :=
  (list.segmentAt? language word progress.offset).map progress.past

theorem offset_lt_of_advance? {list : RuleList} {language : Option Language} {word : String}
    {progress next : Progress} (advanced : list.advance? language word progress = some next) :
    progress.offset < next.offset := by
  obtain ⟨segment, _, rfl⟩ := Option.map_eq_some_iff.1 advanced
  exact Nat.lt_add_of_pos_right segment.width_pos

theorem isBoundary_of_advance? {list : RuleList} {language : Option Language} {word : String}
    {progress next : Progress} (advanced : list.advance? language word progress = some next) :
    Text.IsBoundary word.toList next.offset := by
  obtain ⟨segment, found, rfl⟩ := Option.map_eq_some_iff.1 advanced
  exact isBoundary_add_width found

/-- Read a word to its end, or fail at an offset that no segment begins at. -/
def finish? (list : RuleList) (language : Option Language) (word : String) (progress : Progress) :
    Option Progress :=
  if progress.offset < Text.byteLength word.toList then
    match _ : list.advance? language word progress with
    | some next => list.finish? language word next
    | none => none
  else some progress
termination_by Text.byteLength word.toList - progress.offset
decreasing_by
  have := offset_lt_of_advance? ‹_›
  omega

theorem exists_finish? (list : RuleList) (language : Option Language) (word : String)
    (progress : Progress) (boundary : Text.IsBoundary word.toList progress.offset) :
    ∃ last, list.finish? language word progress = some last := by
  fun_induction finish? list language word progress with
  | case1 progress inside next advanced ih => exact ih (isBoundary_of_advance? advanced)
  | case2 progress inside stuck =>
    obtain ⟨segment, found⟩ := list.exists_segmentAt? language boundary inside
    simp [advance?, found] at stuck
  | case3 progress finished => exact ⟨progress, rfl⟩

def transcribe? (list : RuleList) (language : Option Language) (cap : Nat) (word : String) :
    Option Progress :=
  list.finish? language word (.start cap)

/-- Every word can be read: a segment only ends where a character does. -/
theorem isSome_transcribe? (list : RuleList) (language : Option Language) (cap : Nat)
    (word : String) : (list.transcribe? language cap word).isSome = true :=
  Option.isSome_iff_exists.2 <|
    list.exists_finish? language word (.start cap) (Text.isBoundary_zero word.toList)

def transcribe (list : RuleList) (language : Option Language) (cap : Nat) (word : String) :
    Progress :=
  (list.transcribe? language cap word).get (list.isSome_transcribe? language cap word)

def apply (list : RuleList) (language : Option Language) (cap : Nat) (word : String) : Frontier :=
  (list.transcribe language cap word).frontier

/-- The counts of a word, which are the same for every cap. -/
def counts (list : RuleList) (language : Option Language) (word : String) : SegmentCounts :=
  (list.transcribe language 0 word).counts

def applyAll (list : RuleList) (language : Option Language) (cap : Nat) (words : List String) :
    Frontier :=
  words.foldl (fun frontier word =>
    -- A full frontier takes in nothing more.
    if frontier.isFull then frontier else frontier.union (list.apply language cap word)) (.new cap)

end RuleList

end Homophone
