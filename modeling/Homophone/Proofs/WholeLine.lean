import Homophone.RuleFile.Line
import Mathlib.Data.List.Chain

/-! Lines that count as they stand.

Nothing is cut off a line that has no blanks around it, begins with no mark and holds no comment. So a
file of this one line has one significant line.
-/

set_option autoImplicit false

namespace Homophone

open Unicode (isWhiteSpace)

namespace Text

/-! ## Texts without blanks at the ends -/

structure Trimmed (text : List Char) : Prop where
  first : ∀ c ∈ text.head?, isWhiteSpace c = false
  last : ∀ c ∈ text.getLast?, isWhiteSpace c = false

theorem getLast?_dropEndWhile {p : Char → Bool} (text : List Char) :
    ∀ c ∈ (dropEndWhile p text).getLast?, p c = false := by
  induction text with
  | nil => simp [dropEndWhile]
  | cons c rest ih =>
    rw [dropEndWhile]
    split
    · split
      · simp
      · next kept => simpa using kept
    · next kept nonempty =>
      rw [List.getLast?_cons_of_ne_nil nonempty]
      exact ih

theorem dropEndWhile_concat {p : Char → Bool} {last : Char} (kept : p last = false)
    (before : List Char) : dropEndWhile p (before ++ [last]) = before ++ [last] := by
  induction before with
  | nil => simp [dropEndWhile, kept]
  | cons c rest ih =>
    rw [List.cons_append, dropEndWhile, ih]
    cases whole : rest ++ [last] with
    | nil => simp at whole
    | cons first others => rfl

theorem trimmed_trim (text : List Char) : Trimmed (trim text) where
  first c begins := by
    -- What is dropped at the end does not change the first character that is left.
    have start := List.head?_dropWhile_not isWhiteSpace text
    obtain ⟨rest, parts⟩ := dropEndWhile_isPrefix isWhiteSpace (trimStart text)
    obtain ⟨others, same⟩ := List.head?_eq_some_iff.1 (Option.mem_def.1 begins)
    rw [trim, trimEnd] at same
    rw [same, List.cons_append] at parts
    rw [show text.dropWhile isWhiteSpace = c :: (others ++ rest) from parts.symm] at start
    simpa using start
  last := getLast?_dropEndWhile _

theorem trimmed_of_forall {text : List Char} (plain : ∀ c ∈ text, isWhiteSpace c = false) :
    Trimmed text :=
  ⟨fun c first => plain c (List.mem_of_head? first), fun c last => plain c (List.mem_of_getLast? last)⟩

theorem Trimmed.trimStart_eq {text : List Char} (trimmed : Trimmed text) : trimStart text = text := by
  cases text with
  | nil => rfl
  | cons c rest => simp [trimStart, trimmed.first c rfl]

theorem Trimmed.trimEnd_eq {text : List Char} (trimmed : Trimmed text) : trimEnd text = text := by
  rcases List.eq_nil_or_concat text with rfl | ⟨before, last, rfl⟩
  · rfl
  · rw [List.concat_eq_append] at trimmed ⊢
    exact dropEndWhile_concat (trimmed.last last (by simp)) before

theorem Trimmed.trim_eq {text : List Char} (trimmed : Trimmed text) : trim text = text := by
  rw [trim, trimmed.trimStart_eq, trimmed.trimEnd_eq]

theorem trim_isInfix (text : List Char) : trim text <:+: text :=
  (dropEndWhile_isPrefix _ _).isInfix.trans (List.dropWhile_suffix _).isInfix

/-! ## Ends of lines -/

theorem lines_go_append {first rest : List (List Char)} (nonempty : rest ≠ []) :
    lines.go (first ++ rest) = first.map chomp ++ lines.go rest := by
  induction first with
  | nil => rfl
  | cons line others ih =>
    cases more : others ++ rest with
    | nil => exact absurd (List.append_eq_nil_iff.1 more).2 nonempty
    | cons next later =>
      rw [List.cons_append, more, lines.go, ← more, ih, List.map_cons, List.cons_append]
      exact fun stop => by cases stop

theorem lines_append_lineFeed (before after : List Char) :
    lines (before ++ '\n' :: after) = (pieces (· == '\n') before).map chomp ++ lines after := by
  rw [lines, pieces_append_cons (p := (· == '\n')) rfl, lines_go_append (pieces_ne_nil _ after),
    lines]

theorem chomp_of_getLast? {line : List Char} (kept : line.getLast? ≠ some '\r') :
    chomp line = line := by
  rw [chomp]
  split
  · next rest reversed =>
    refine absurd ?_ kept
    rw [← List.head?_reverse, reversed, List.head?_cons]
  · rfl

theorem chomp_isPrefix (line : List Char) : chomp line <+: line := by
  rw [chomp]
  split
  · next rest reversed =>
    refine ⟨['\r'], ?_⟩
    rw [← List.reverse_cons, ← reversed, List.reverse_reverse]
  · exact List.prefix_rfl

theorem exists_piece_of_mem_lines_go {pieces : List (List Char)} {raw : List Char}
    (member : raw ∈ lines.go pieces) : ∃ piece ∈ pieces, raw <+: piece := by
  fun_induction lines.go pieces with
  | case1 => cases member
  | case2 last empty => cases member
  | case3 last nonempty =>
    exact ⟨last, List.mem_cons_self, List.mem_singleton.1 member ▸ List.prefix_rfl⟩
  | case4 line rest several ih =>
    rcases List.mem_cons.1 member with rfl | later
    · exact ⟨line, List.mem_cons_self, chomp_isPrefix line⟩
    · obtain ⟨piece, listed, starts⟩ := ih later
      exact ⟨piece, List.mem_cons_of_mem line listed, starts⟩

theorem lineFeed_not_mem_lines {text raw : List Char} (member : raw ∈ lines text) :
    '\n' ∉ raw := by
  obtain ⟨piece, listed, starts⟩ := exists_piece_of_mem_lines_go member
  intro feed
  have ordinary := ordinary_of_mem_pieces listed (starts.subset feed)
  simp at ordinary

end Text

namespace RuleFile

/-! ## Texts without comments -/

/-- No two slashes stand side by side, so no comment begins. -/
def Uncommented (text : List Char) : Prop := text.IsChain fun c d => ¬(c = '/' ∧ d = '/')

theorem uncommented_of_not_mem {text : List Char} (slash : '/' ∉ text) : Uncommented text := by
  induction text with
  | nil => exact .nil
  | cons c rest ih =>
    rw [List.mem_cons, not_or] at slash
    exact List.isChain_cons.2 ⟨fun _ _ both => slash.1 both.1.symm, ih slash.2⟩

theorem Uncommented.of_isInfix {text part : List Char} (uncommented : Uncommented text)
    (inside : part <:+: text) : Uncommented part := by
  obtain ⟨before, after, rfl⟩ := inside
  exact (List.isChain_append.1 (List.isChain_append.1 uncommented).1).2.1

structure Plain (separators : List Char) (text : List Char) : Prop where
  free : ∀ c ∈ separators, c ∉ text
  uncommented : Uncommented text

section

variable {separators : List Char}

theorem plain_nil : Plain separators [] := ⟨fun _ _ => List.not_mem_nil, .nil⟩

theorem Plain.of_isInfix {text part : List Char} (plain : Plain separators text)
    (inside : part <:+: text) : Plain separators part :=
  ⟨fun c separates member => plain.free c separates (inside.subset member),
    plain.uncommented.of_isInfix inside⟩

theorem Plain.of_subset {text : List Char} (plain : Plain separators text) {fewer : List Char}
    (subset : fewer ⊆ separators) : Plain fewer text :=
  ⟨fun c separates => plain.free c (subset separates), plain.uncommented⟩

/-- Another character between two texts begins no comment. -/
theorem Plain.append_cons {first rest : List Char} (plain : Plain separators first)
    (plain' : Plain separators rest) {c : Char} (other : c ∉ '/' :: separators) :
    Plain separators (first ++ c :: rest) := by
  rw [List.mem_cons, not_or] at other
  constructor
  · intro d separates member
    rcases List.mem_append.1 member with before | after
    · exact plain.free d separates before
    · rcases List.mem_cons.1 after with rfl | after
      · exact other.2 separates
      · exact plain'.free d separates after
  · refine List.isChain_append.2 ⟨plain.uncommented, List.isChain_cons.2
      ⟨fun d _ both => other.1 both.1, plain'.uncommented⟩, fun d _ e first both => ?_⟩
    cases first
    exact other.1 both.2

theorem Plain.intercalate {texts : List (List Char)} (each : ∀ text ∈ texts, Plain separators text)
    {c : Char} (other : c ∉ '/' :: separators) : Plain separators ([c].intercalate texts) := by
  induction texts with
  | nil => exact plain_nil
  | cons first rest ih =>
    rw [List.forall_mem_cons] at each
    cases rest with
    | nil => simpa [List.intercalate] using each.1
    | cons second others =>
      have parts : [c].intercalate (first :: second :: others) =
          first ++ c :: [c].intercalate (second :: others) := by simp [List.intercalate]
      rw [parts]
      exact each.1.append_cons (ih each.2) other

end

namespace Line

theorem beforeComment_of_uncommented {text : List Char} (plain : Uncommented text) :
    beforeComment text = text := by
  fun_induction beforeComment text with
  | case1 => rfl
  | case2 rest => simp [Uncommented] at plain
  | case3 c rest _ ih => rw [ih plain.tail]

theorem beforeComment_isPrefix (text : List Char) : beforeComment text <+: text := by
  fun_induction beforeComment text with
  | case1 => exact List.prefix_rfl
  | case2 rest => exact List.nil_prefix
  | case3 c rest _ ih => exact List.cons_prefix_cons.2 ⟨rfl, ih⟩

theorem uncommented_beforeComment (text : List Char) : Uncommented (beforeComment text) := by
  fun_induction beforeComment text with
  | case1 => exact .nil
  | case2 rest => exact .nil
  | case3 c rest other ih =>
    refine List.isChain_cons.2 ⟨fun d first both => ?_, ih⟩
    obtain ⟨kept, same⟩ := List.head?_eq_some_iff.1 (Option.mem_def.1 first)
    obtain ⟨cut, parts⟩ := beforeComment_isPrefix rest
    rw [same, both.2] at parts
    exact other _ both.1 parts.symm

theorem plain_content {isOpen : Bool} {raw : List Char} (oneLine : '\n' ∉ raw) :
    Plain ['\n'] (content isOpen raw) := by
  rw [content]
  split
  · exact plain_nil
  · have kept : Text.trimEnd (beforeComment (bare raw)) <+: beforeComment (bare raw) :=
      Text.dropEndWhile_isPrefix _ _
    have inside : bare raw <:+: raw :=
      (Text.trim_isInfix _).trans (List.dropWhile_suffix _).isInfix
    refine ⟨fun c feed member => oneLine ?_, (uncommented_beforeComment _).of_isInfix kept.isInfix⟩
    rw [List.mem_singleton.1 feed] at member
    exact inside.subset ((beforeComment_isPrefix _).subset (kept.subset member))

/-! ## Whole lines -/

/-- A line that begins neither with a mark nor with a comment and holds no comment. -/
structure Whole (line : List Char) : Prop where
  begins : ∃ c, line.head? = some c ∧ c ≠ '\ufeff' ∧ c ≠ '/'
  trimmed : Text.Trimmed line
  plain : Plain ['\n'] line

namespace Whole

variable {line : List Char} (whole : Whole line)

include whole

theorem bare_eq : bare line = line := by
  obtain ⟨c, first, unmarked, _⟩ := whole.begins
  obtain ⟨rest, rfl⟩ := List.head?_eq_some_iff.1 first
  rw [bare, List.dropWhile_cons_of_neg (by simpa using unmarked), whole.trimmed.trim_eq]

theorem blockStart_isPrefixOf : blockStart.isPrefixOf line = false := by
  obtain ⟨c, first, _, other⟩ := whole.begins
  obtain ⟨rest, rfl⟩ := List.head?_eq_some_iff.1 first
  rw [blockStart, List.isPrefixOf, beq_false_of_ne other.symm, Bool.false_and]

theorem content_eq : content false line = line := by
  rw [content, whole.bare_eq, whole.blockStart_isPrefixOf,
    beforeComment_of_uncommented whole.plain.uncommented, whole.trimmed.trimEnd_eq]
  rfl

theorem lines_append {ending : List Char} (ends : ending = [] ∨ ending = ['\n']) :
    Text.lines (line ++ ending) = [line] := by
  have oneLine : Text.pieces (· == '\n') line = [line] :=
    Text.pieces_of_forall fun c member => beq_eq_false_iff_ne.2 fun same =>
      whole.plain.free '\n' (by simp) (same ▸ member)
  obtain ⟨c, first, _⟩ := whole.begins
  rcases ends with rfl | rfl
  · have nonempty : line.isEmpty = false := by
      cases line with
      | nil => cases first
      | cons _ _ => rfl
    rw [List.append_nil, Text.lines, oneLine, Text.lines.go, nonempty]
    rfl
  · have noReturn : line.getLast? ≠ some '\r' := by
      intro last
      have blank := whole.trimmed.last '\r' last
      revert blank
      decide
    rw [Text.lines_append_lineFeed, oneLine, List.map_singleton, Text.chomp_of_getLast? noReturn]
    rfl

end Whole

end Line

end RuleFile

end Homophone
