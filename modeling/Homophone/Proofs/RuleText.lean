import Homophone.Proofs.WholeLine
import Homophone.RuleFile.Statement
import Mathlib.Data.List.Forall2

/-! Rule files in parts.

A text that ends its last line and its last block comment can be put before any other: what the two
say together is what the one says and then what the other says. Only the numbers of the lines behind
it change, and these matter for errors alone.
-/

set_option autoImplicit false

namespace Homophone

namespace Text

/-! ## Lines -/

/-- A text whose last line, if it has any, ends with a line feed. -/
def EndsLines (text : List Char) : Prop := text = [] ∨ text.getLast? = some '\n'

theorem lines_append {first rest : List Char} (ended : EndsLines first) :
    lines (first ++ rest) = lines first ++ lines rest := by
  rcases ended with rfl | feed
  · rfl
  · obtain ⟨before, rfl⟩ := List.getLast?_eq_some_iff.1 feed
    -- Behind the last line feed there is no line in either text.
    have alone : lines [] = [] := rfl
    rw [List.append_assoc, List.singleton_append, lines_append_lineFeed, lines_append_lineFeed,
      alone, List.append_nil]

end Text

namespace RuleFile

namespace Line

/-! ## Significant lines -/

def blockAfterAll (isOpen : Bool) (raws : List (List Char)) : Bool := raws.foldl blockAfter isOpen

def contents : Bool → List (List Char) → List (List Char)
  | _, [] => []
  | isOpen, raw :: rest =>
    let later := contents (blockAfter isOpen raw) rest
    match content isOpen raw with
    | [] => later
    | text => text :: later

theorem map_text_scan (isOpen : Bool) (number : Nat) (raws : List (List Char)) :
    (scan isOpen number raws).map (·.text) = contents isOpen raws := by
  induction raws generalizing isOpen number with
  | nil => rfl
  | cons raw rest ih =>
    rw [scan, contents]
    cases counted : content isOpen raw <;> simp [ih]

theorem contents_append (isOpen : Bool) (first rest : List (List Char)) :
    contents isOpen (first ++ rest) =
      contents isOpen first ++ contents (blockAfterAll isOpen first) rest := by
  induction first generalizing isOpen with
  | nil => rfl
  | cons raw others ih =>
    rw [List.cons_append, contents, contents, ih]
    cases counted : content isOpen raw <;> rfl

theorem exists_raw_of_mem_contents {isOpen : Bool} {raws : List (List Char)} {text : List Char}
    (member : text ∈ contents isOpen raws) :
    ∃ isOpen', ∃ raw ∈ raws, text = content isOpen' raw := by
  induction raws generalizing isOpen with
  | nil => cases member
  | cons raw rest ih =>
    have either : text = content isOpen raw ∨ text ∈ contents (blockAfter isOpen raw) rest := by
      rw [contents] at member
      split at member
      · exact .inr member
      · exact (List.mem_cons.1 member)
    rcases either with here | later
    · exact ⟨isOpen, raw, List.mem_cons_self, here⟩
    · obtain ⟨isOpen', other, listed, same⟩ := ih later
      exact ⟨isOpen', other, List.mem_cons_of_mem raw listed, same⟩

theorem plain_of_mem_significant {text : List Char} {line : Line}
    (member : line ∈ significant text) : Plain ['\n'] line.text := by
  have counted : line.text ∈ (significant text).map (·.text) := List.mem_map_of_mem member
  rw [significant, map_text_scan] at counted
  obtain ⟨isOpen, raw, listed, same⟩ := exists_raw_of_mem_contents counted
  rw [same]
  exact plain_content (Text.lineFeed_not_mem_lines listed)

namespace Whole

variable {line : List Char} (whole : Whole line)

include whole

theorem map_text_significant {ending : List Char} (ends : ending = [] ∨ ending = ['\n']) :
    (significant (line ++ ending)).map (·.text) = [line] := by
  obtain ⟨c, first, _⟩ := whole.begins
  obtain ⟨rest, rfl⟩ := List.head?_eq_some_iff.1 first
  rw [significant, map_text_scan, whole.lines_append ends, contents, whole.content_eq]
  rfl

end Whole

/-- A text that ends its last line and its last block comment. -/
structure Closed (text : String) : Prop where
  endsLines : Text.EndsLines text.toList
  endsBlocks : blockAfterAll false (Text.lines text.toList) = false

theorem map_text_significant_append {first : String} (closed : Closed first) (rest : String) :
    (significant (first ++ rest).toList).map (·.text) =
      (significant first.toList).map (·.text) ++ (significant rest.toList).map (·.text) := by
  simp only [significant, map_text_scan, String.toList_append, Text.lines_append closed.endsLines,
    contents_append, closed.endsBlocks]

end Line

/-! ## Reading line by line -/

theorem mapError_eq_ok_iff {α ε δ : Type} {outcome : Except ε α} {report : ε → δ} {x : α} :
    outcome.mapError report = .ok x ↔ outcome = .ok x := by
  cases outcome with
  | ok y =>
    change Except.ok y = Except.ok x ↔ Except.ok y = Except.ok x
    simp
  | error error =>
    refine iff_of_false ?_ ?_ <;>
    · intro same
      cases same

theorem map_eq_ok_iff {α β ε : Type} {f : α → β} {outcome : Except ε α} {y : β} :
    outcome.map f = .ok y ↔ ∃ x, outcome = .ok x ∧ f x = y := by
  cases outcome <;> simp [Except.map]

theorem bind_eq_ok_iff {α β ε : Type} {outcome : Except ε α} {next : α → Except ε β} {y : β} :
    (outcome >>= next) = .ok y ↔ ∃ x, outcome = .ok x ∧ next x = .ok y := by
  cases outcome <;> simp [bind, Except.bind]

theorem mapM_eq_ok_iff {α β ε : Type} {read : α → Except ε β} {xs : List α} {ys : List β} :
    xs.mapM read = .ok ys ↔ List.Forall₂ (fun x y => read x = .ok y) xs ys := by
  induction xs generalizing ys with
  | nil => simp [pure, Except.pure, eq_comm]
  | cons x rest ih =>
    rw [List.mapM_cons, List.forall₂_cons_left_iff]
    simp only [bind_eq_ok_iff, ← ih, pure, Except.pure, Except.ok.injEq, @eq_comm _ ys,
      exists_and_left]

theorem exists_of_forall₂ {α β : Type} {relation : α → β → Prop} {xs : List α} {ys : List β}
    (related : List.Forall₂ relation xs ys) {y : β} (member : y ∈ ys) :
    ∃ x ∈ xs, relation x y := by
  induction related with
  | nil => cases member
  | @cons x _ rest _ here _ ih =>
    rcases List.mem_cons.1 member with rfl | later
    · exact ⟨x, List.mem_cons_self, here⟩
    · obtain ⟨x, known, found⟩ := ih later
      exact ⟨x, List.mem_cons_of_mem _ known, found⟩

/-- Whether a text can be read depends on what counts of its lines, and not on where they stand. -/
theorem readLines_eq_ok_iff {α : Type} {read : List Char → Except Fault α} {file text : String}
    {items : List α} :
    readLines read file text = .ok items ↔
      List.Forall₂ (fun line item => read line = .ok item)
        ((Line.significant text.toList).map (·.text)) items := by
  simp only [List.forall₂_map_left_iff, readLines, mapM_eq_ok_iff, mapError_eq_ok_iff]

theorem exists_line_of_readLines {α : Type} {read : List Char → Except Fault α}
    {file text : String} {items : List α} (parsed : readLines read file text = .ok items)
    {item : α} (member : item ∈ items) :
    ∃ line ∈ Line.significant text.toList, read line.text = .ok item := by
  rw [readLines_eq_ok_iff, List.forall₂_map_left_iff] at parsed
  exact exists_of_forall₂ parsed member

theorem forall₂_append_left_iff {α β : Type} {relation : α → β → Prop} {first rest : List α}
    {ys : List β} :
    List.Forall₂ relation (first ++ rest) ys ↔
      ∃ ys₁ ys₂, List.Forall₂ relation first ys₁ ∧ List.Forall₂ relation rest ys₂ ∧
        ys = ys₁ ++ ys₂ := by
  constructor
  · induction first generalizing ys with
    | nil => exact fun related => ⟨[], ys, .nil, related, rfl⟩
    | cons x others ih =>
      intro related
      cases related with
      | cons head tail =>
        obtain ⟨ys₁, ys₂, one, two, rfl⟩ := ih tail
        exact ⟨_ :: ys₁, ys₂, .cons head one, two, rfl⟩
  · rintro ⟨ys₁, ys₂, one, two, rfl⟩
    exact List.rel_append one two

theorem readStatements_eq_ok_iff_of_file {file text : String} (other : String)
    {statements : List Statement} :
    readStatements file text = .ok statements ↔ readStatements other text = .ok statements := by
  rw [readStatements, readStatements, readLines_eq_ok_iff, readLines_eq_ok_iff]

theorem readStatements_append {first : String} (closed : Line.Closed first) {file rest : String}
    {statements : List Statement} :
    readStatements file (first ++ rest) = .ok statements ↔
      ∃ statements₁ statements₂, readStatements file first = .ok statements₁ ∧
        readStatements file rest = .ok statements₂ ∧ statements = statements₁ ++ statements₂ := by
  simp only [readStatements, readLines_eq_ok_iff, Line.map_text_significant_append closed,
    forall₂_append_left_iff]

/-! ## Rules -/

theorem readStatement_eq_rule_iff {line : List Char} {rule : Rule} :
    readStatement line = .ok (.rule rule) ↔
      ¬includeDirective.isPrefixOf line = true ∧
      ∃ field, readFields? line =
          some (rule.pattern, rule.left.source.toList, rule.right.source.toList, field) ∧
        readPhonemes field = .ok rule.phonemes ∧
        Rule.new (String.ofList rule.pattern) rule.left.source rule.right.source rule.phonemes =
          .ok rule := by
  rw [readStatement]
  split
  · next directive =>
    split <;> simp [directive]
  · next other =>
    split
    · next unread => simp [unread]
    · next pattern left right field fields =>
      simp only [fields, bind_eq_ok_iff, mapError_eq_ok_iff, pure, Except.pure, Except.ok.injEq,
        Statement.rule.injEq]
      constructor
      · rintro ⟨phonemes, read, rule', built, rfl⟩
        obtain ⟨one, two, three, four⟩ := Rule.of_new built
        refine ⟨other, field, by simp [one, two, three], four ▸ read, ?_⟩
        simpa [one, two, three, four] using built
      -- The fields of the line are those that the rule was built from.
      · rintro ⟨_, field', same, read, built⟩
        simp only [Option.some.injEq, Prod.mk.injEq] at same
        obtain ⟨rfl, rfl, rfl, rfl⟩ := same
        exact ⟨rule.phonemes, read, rule, by simpa using built, rfl⟩

/-! ## Include directives -/

def includeLine (stem : Stem) : String := "#include " ++ stem.name ++ "\n"

namespace Stem

theorem trimmed (stem : Stem) : Text.Trimmed stem.name.toList :=
  Text.trimmed_of_forall fun _ => stem.not_isWhiteSpace

theorem trim_cons_space (stem : Stem) :
    Text.trim (' ' :: stem.name.toList) = stem.name.toList := by
  have blank : Unicode.isWhiteSpace ' ' = true := by decide
  rw [Text.trim, Text.trimStart, List.dropWhile_cons_of_pos blank]
  exact stem.trimmed.trim_eq

theorem readStem?_cons_space (stem : Stem) : readStem? (' ' :: stem.name.toList) = some stem := by
  simp [readStem?, stem.trim_cons_space, stem.valid]

end Stem

section

variable (stem : Stem)

theorem toList_includeLine :
    (includeLine stem).toList = ("#include ".toList ++ stem.name.toList) ++ ['\n'] := by
  simp [includeLine]

theorem whole_includeLine : Line.Whole ("#include ".toList ++ stem.name.toList) where
  begins := ⟨'#', rfl, by decide, by decide⟩
  trimmed := by
    have nonempty : stem.name.toList ≠ [] := mt String.toList_eq_nil_iff.1 stem.name_ne_empty
    constructor
    · intro c first
      cases first
      decide
    · rw [List.getLast?_append_of_ne_nil _ nonempty]
      exact stem.trimmed.last
  plain := by
    -- A stem holds no white space, so no line feed either.
    have feed : '\n' ∉ stem.name.toList := fun member => by
      have blank := stem.not_isWhiteSpace member
      revert blank
      decide
    have slash : '/' ∉ "#include ".toList ++ stem.name.toList := by simp [stem.slash_not_mem]
    exact ⟨by simpa using feed, uncommented_of_not_mem slash⟩

theorem closed_includeLine : Line.Closed (includeLine stem) where
  endsLines := .inr (by rw [toList_includeLine, List.getLast?_concat])
  endsBlocks := by
    have whole := whole_includeLine stem
    rw [toList_includeLine, whole.lines_append (.inr rfl), Line.blockAfterAll, List.foldl_cons,
      List.foldl_nil, Line.blockAfter, whole.bare_eq, whole.blockStart_isPrefixOf]
    rfl

theorem readStatement_includeLine :
    readStatement ("#include ".toList ++ stem.name.toList) = .ok (.splice stem) := by
  have directive : "#include ".toList ++ stem.name.toList =
      includeDirective ++ ' ' :: stem.name.toList := rfl
  rw [directive, readStatement, if_pos (List.isPrefixOf_iff_prefix.2 (List.prefix_append _ _)),
    List.drop_left, stem.readStem?_cons_space]

theorem readStatements_includeLine_iff {file : String} {statements : List Statement} :
    readStatements file (includeLine stem) = .ok statements ↔ [.splice stem] = statements := by
  rw [readStatements, readLines_eq_ok_iff, toList_includeLine,
    (whole_includeLine stem).map_text_significant (.inr rfl), List.forall₂_cons_left_iff,
    readStatement_includeLine]
  simp [eq_comm]

end

end RuleFile

end Homophone
