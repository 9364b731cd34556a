import Homophone.Proofs.RuleText

/-! Where the errors of a rule file are.

A text put before another one moves the lines of that one down, and with them the number in an error.
Otherwise the second text means what it means alone. So a file is refused for its first significant
line that is refused when it is read alone, and with the number of that line.
-/

set_option autoImplicit false

namespace Homophone

namespace Text

theorem length_lines {text : List Char} (ended : EndsLines text) :
    (lines text).length = text.count '\n' := by
  rcases ended with rfl | feed
  · rfl
  · obtain ⟨before, rfl⟩ := List.getLast?_eq_some_iff.1 feed
    have alone : lines [] = [] := rfl
    rw [lines_append_lineFeed, alone, List.append_nil, List.length_map, length_pieces,
      List.count_append, List.count_singleton_self]
    rfl

theorem lines_of_mem_lines {text raw : List Char} (member : raw ∈ lines text) (counts : raw ≠ []) :
    lines raw = [raw] := by
  have oneLine : pieces (· == '\n') raw = [raw] :=
    pieces_of_forall fun c inside => beq_eq_false_iff_ne.2 fun same =>
      lineFeed_not_mem_lines member (same ▸ inside)
  rw [lines, oneLine, lines.go, if_neg (by simpa using counts)]

end Text

namespace RuleFile

/-! ## Numbered lines -/

namespace Line

def below (offset : Nat) (line : Line) : Line := { line with number := line.number + offset }

theorem scan_add (isOpen : Bool) (number offset : Nat) (raws : List (List Char)) :
    scan isOpen (number + offset) raws = (scan isOpen number raws).map (below offset) := by
  induction raws generalizing isOpen number with
  | nil => rfl
  | cons raw rest ih =>
    rw [scan, scan, Nat.add_right_comm, ih]
    split <;> rfl

theorem scan_append (isOpen : Bool) (number : Nat) (first rest : List (List Char)) :
    scan isOpen number (first ++ rest) =
      scan isOpen number first ++
        scan (blockAfterAll isOpen first) (number + first.length) rest := by
  induction first generalizing isOpen number with
  | nil => rfl
  | cons raw others ih =>
    have moved : number + 1 + others.length = number + (raw :: others).length := by
      rw [List.length_cons]
      omega
    rw [List.cons_append, scan, scan, ih, moved]
    cases content isOpen raw <;> rfl

/-- Behind a text that ends its last line and its last block comment, the same lines count. -/
theorem significant_append {first : String} (closed : Closed first) (rest : String) :
    significant (first ++ rest).toList =
      significant first.toList ++
        (significant rest.toList).map (below (first.toList.count '\n')) := by
  rw [significant, String.toList_append, Text.lines_append closed.endsLines, scan_append,
    closed.endsBlocks, Text.length_lines closed.endsLines, scan_add]
  rfl

theorem mem_scan_iff {isOpen : Bool} {number : Nat} {raws : List (List Char)} {line : Line} :
    line ∈ scan isOpen number raws ↔
      ∃ before raw after, raws = before ++ raw :: after ∧ line.number = number + before.length ∧
        line.text = content (blockAfterAll isOpen before) raw ∧ line.text ≠ [] := by
  induction raws generalizing isOpen number with
  | nil => simp [scan]
  | cons raw rest ih =>
    -- The line is the first one, as far as that counts, or one of the others.
    have either : line ∈ scan isOpen number (raw :: rest) ↔
        (line = ⟨number, content isOpen raw⟩ ∧ content isOpen raw ≠ []) ∨
          line ∈ scan (blockAfter isOpen raw) (number + 1) rest := by
      rw [scan]
      split <;> simp_all
    rw [either, ih]
    constructor
    · rintro (⟨rfl, counts⟩ | ⟨before, other, after, rfl, numbered, text, counts⟩)
      · exact ⟨[], raw, rest, rfl, rfl, rfl, counts⟩
      · refine ⟨raw :: before, other, after, rfl, ?_, text, counts⟩
        rw [numbered, List.length_cons]
        omega
    · rintro ⟨before, other, after, parts, numbered, text, counts⟩
      cases before with
      | nil =>
        cases parts
        refine .inl ⟨?_, text ▸ counts⟩
        cases line
        cases numbered
        cases text
        rfl
      | cons head before =>
        cases parts
        refine .inr ⟨before, other, after, rfl, ?_, text, counts⟩
        rw [numbered, List.length_cons]
        omega

theorem ascending_scan (isOpen : Bool) (number : Nat) (raws : List (List Char)) :
    (scan isOpen number raws).Pairwise fun line later => line.number < later.number := by
  induction raws generalizing isOpen number with
  | nil => exact .nil
  | cons raw rest ih =>
    rw [scan]
    split
    · exact ih _ _
    · refine List.pairwise_cons.2 ⟨fun later member => ?_, ih _ _⟩
      obtain ⟨before, _, _, _, numbered, _⟩ := mem_scan_iff.1 member
      change number < later.number
      omega

/-- Line `number` of a text is `raw`, and it counts: no block comment is open before it, and it holds
more than a comment. -/
def StandsAt (text : List Char) (number : Nat) (raw : List Char) : Prop :=
  ∃ before after, Text.lines text = before ++ raw :: after ∧ number = 1 + before.length ∧
    blockAfterAll false before = false ∧ content false raw ≠ []

theorem mem_significant_iff {text : List Char} {line : Line} :
    line ∈ significant text ↔
      ∃ raw, StandsAt text line.number raw ∧ line.text = content false raw := by
  rw [significant, mem_scan_iff]
  constructor
  · rintro ⟨before, raw, after, parts, numbered, text, counts⟩
    -- Within a block comment nothing counts.
    have outside : blockAfterAll false before = false := by
      cases isOpen : blockAfterAll false before with
      | false => rfl
      | true =>
        rw [isOpen] at text
        exact absurd text counts
    rw [outside] at text
    exact ⟨raw, ⟨before, after, parts, numbered, outside, text ▸ counts⟩, text⟩
  · rintro ⟨raw, ⟨before, after, parts, numbered, outside, counts⟩, text⟩
    refine ⟨before, raw, after, parts, numbered, ?_, ?_⟩
    · rw [outside, text]
    · rw [text]
      exact counts

theorem significant_of_standsAt {text : List Char} {number : Nat} {raw : List Char}
    (stands : StandsAt text number raw) : significant raw = [⟨1, content false raw⟩] := by
  obtain ⟨before, after, parts, _, _, counts⟩ := stands
  have member : raw ∈ Text.lines text := parts ▸ List.mem_append_right before List.mem_cons_self
  have nonempty : raw ≠ [] := by
    rintro rfl
    exact counts rfl
  rw [significant, Text.lines_of_mem_lines member nonempty, scan]
  cases text : content false raw with
  | nil => exact absurd text counts
  | cons c rest => rfl

end Line

/-! ## Located errors -/

def Error.below (offset : Nat) (error : Error) : Error := { error with line := error.line + offset }

/-- What two texts say one after the other, the second of which begins `offset` lines further
down. -/
def inTurn {α : Type} (offset : Nat) :
    Except Error (List α) → Except Error (List α) → Except Error (List α)
  | .error error, _ => .error error
  | .ok items, .ok items' => .ok (items ++ items')
  | .ok _, .error error => .error (error.below offset)

theorem mapM_mapError {α β ε δ : Type} (read : α → Except ε β) (report : ε → δ) (xs : List α) :
    xs.mapM (fun x => (read x).mapError report) = (xs.mapM read).mapError report := by
  induction xs with
  | nil => rfl
  | cons x rest ih =>
    rw [List.mapM_cons, List.mapM_cons, ih]
    cases read x with
    | error error => rfl
    | ok y => cases rest.mapM read <;> rfl

theorem mapM_eq_error_iff {α β ε : Type} {read : α → Except ε β} {xs : List α} {error : ε} :
    xs.mapM read = .error error ↔
      ∃ before x after, xs = before ++ x :: after ∧ read x = .error error ∧
        ∀ y ∈ before, ∃ z, read y = .ok z := by
  induction xs with
  | nil => simp [pure, Except.pure]
  | cons x rest ih =>
    rw [List.mapM_cons]
    constructor
    · intro failed
      cases here : read x with
      | error first =>
        rw [here] at failed
        cases failed
        exact ⟨[], x, rest, rfl, here, by simp⟩
      | ok y =>
        have later : rest.mapM read = .error error := by
          rw [here] at failed
          cases outcome : rest.mapM read with
          | error other =>
            rw [outcome] at failed
            exact failed
          | ok ys =>
            rw [outcome] at failed
            cases failed
        obtain ⟨before, z, after, rfl, refused, accepted⟩ := ih.1 later
        exact ⟨x :: before, z, after, rfl, refused, List.forall_mem_cons.2 ⟨⟨y, here⟩, accepted⟩⟩
    · rintro ⟨before, z, after, parts, refused, accepted⟩
      cases before with
      | nil =>
        cases parts
        rw [refused]
        rfl
      | cons head before =>
        cases parts
        obtain ⟨⟨y, here⟩, accepted⟩ := List.forall_mem_cons.1 accepted
        rw [here, ih.2 ⟨before, z, after, rfl, refused, accepted⟩]
        rfl

section

variable {α : Type} {read : List Char → Except Fault α} {file : String}

theorem readLines_append {first : String} (closed : Line.Closed first) (rest : String) :
    readLines read file (first ++ rest) =
      inTurn (first.toList.count '\n') (readLines read file first) (readLines read file rest) := by
  have moved : ∀ lines : List Line,
      (lines.map (Line.below (first.toList.count '\n'))).mapM
          (fun line => (read line.text).mapError (⟨file, line.number, ·⟩)) =
        (lines.mapM fun line => (read line.text).mapError (⟨file, line.number, ·⟩)).mapError
          (Error.below (first.toList.count '\n')) := by
    intro lines
    rw [List.mapM_map, ← mapM_mapError]
    congr 1
    funext line
    change (read line.text).mapError _ = ((read line.text).mapError _).mapError _
    cases read line.text <;> rfl
  rw [readLines, Line.significant_append closed, List.mapM_append, moved]
  change (readLines read file first >>= fun items =>
    (readLines read file rest).mapError _ >>= fun items' => pure (items ++ items')) = _
  cases readLines read file first with
  | error error => rfl
  | ok items => cases readLines read file rest <;> rfl

/-- A text is refused for its first significant line that cannot be read. -/
theorem readLines_eq_error_iff {text : String} {error : Error} :
    readLines read file text = .error error ↔
      ∃ line ∈ Line.significant text.toList, error.file = file ∧ error.line = line.number ∧
        read line.text = .error error.fault ∧
        ∀ other ∈ Line.significant text.toList, other.number < line.number →
          ∃ item, read other.text = .ok item := by
  have refused (line : Line) :
      (read line.text).mapError (⟨file, line.number, ·⟩) = .error error ↔
        error.file = file ∧ error.line = line.number ∧ read line.text = .error error.fault := by
    cases read line.text with
    | ok item =>
      change Except.ok item = Except.error error ↔ _
      simp
    | error fault =>
      change Except.error (Error.mk file line.number fault) = Except.error error ↔ _
      cases error
      simp [eq_comm]
  rw [readLines, mapM_eq_error_iff]
  simp only [refused, mapError_eq_ok_iff]
  have ascending := Line.ascending_scan false 1 (Text.lines text.toList)
  rw [← Line.significant] at ascending
  constructor
  · rintro ⟨before, line, after, parts, ⟨named, numbered, fault⟩, accepted⟩
    rw [parts] at ascending ⊢
    obtain ⟨_, behind, _⟩ := List.pairwise_append.1 ascending
    refine ⟨line, by simp, named, numbered, fault, fun other member less => ?_⟩
    -- Of the lines with smaller numbers none is behind the one that is refused.
    rcases List.mem_append.1 member with earlier | later
    · exact accepted other earlier
    · rcases List.mem_cons.1 later with rfl | later
      · exact absurd less (Nat.lt_irrefl _)
      · exact absurd less (Nat.lt_asymm ((List.pairwise_cons.1 behind).1 other later))
  · rintro ⟨line, member, named, numbered, fault, accepted⟩
    obtain ⟨before, after, parts⟩ := List.append_of_mem member
    refine ⟨before, line, after, parts, ⟨named, numbered, fault⟩, fun other earlier => ?_⟩
    rw [parts] at ascending accepted
    obtain ⟨_, _, ordered⟩ := List.pairwise_append.1 ascending
    exact accepted other (List.mem_append_left _ earlier)
      (ordered other earlier line List.mem_cons_self)

theorem readLines_of_standsAt {text : List Char} {number : Nat} {raw : List Char}
    (stands : Line.StandsAt text number raw) :
    readLines read file (String.ofList raw) =
      ((read (Line.content false raw)).mapError (⟨file, 1, ·⟩)).map ([·]) := by
  rw [readLines, String.toList_ofList, Line.significant_of_standsAt stands, List.mapM_cons,
    List.mapM_nil]
  cases read (Line.content false raw) <;> rfl

end

/-- The error of a text is that of a significant line read alone, but for the number, and all such
lines before it can be read. -/
def FirstRefused {α : Type} (readText : String → Except Error (List α)) (text : String)
    (error : Error) : Prop :=
  ∃ raw, Line.StandsAt text.toList error.line raw ∧
    readText (String.ofList raw) = .error { error with line := 1 } ∧
    ∀ number earlier, number < error.line → Line.StandsAt text.toList number earlier →
      ∃ items, readText (String.ofList earlier) = .ok items

theorem readLines_eq_error_iff_firstRefused {α : Type} {read : List Char → Except Fault α}
    {file text : String} {error : Error} :
    readLines read file text = .error error ↔ FirstRefused (readLines read file) text error := by
  have refused {raw : List Char} {number : Nat} (stands : Line.StandsAt text.toList number raw) :
      readLines read file (String.ofList raw) = .error { error with line := 1 } ↔
        error.file = file ∧ read (Line.content false raw) = .error error.fault := by
    rw [readLines_of_standsAt stands]
    cases read (Line.content false raw) with
    | ok item =>
      change Except.ok [item] = Except.error _ ↔ _
      simp
    | error fault =>
      change Except.error (Error.mk file 1 fault) = Except.error _ ↔ _
      simp [eq_comm]
  have accepted {raw : List Char} {number : Nat} (stands : Line.StandsAt text.toList number raw) :
      (∃ items, readLines read file (String.ofList raw) = .ok items) ↔
        ∃ item, read (Line.content false raw) = .ok item := by
    rw [readLines_of_standsAt stands]
    cases read (Line.content false raw) with
    | ok item => exact iff_of_true ⟨[item], rfl⟩ ⟨item, rfl⟩
    | error fault =>
      refine iff_of_false ?_ ?_ <;>
      · rintro ⟨_, same⟩
        cases same
  rw [readLines_eq_error_iff]
  constructor
  · rintro ⟨line, member, named, numbered, fault, before⟩
    obtain ⟨raw, stands, text⟩ := Line.mem_significant_iff.1 member
    rw [← numbered] at stands
    refine ⟨raw, stands, (refused stands).2 ⟨named, text ▸ fault⟩, ?_⟩
    intro number earlier less there
    refine (accepted there).2 (before ⟨number, _⟩ ?_ (numbered ▸ less))
    exact Line.mem_significant_iff.2 ⟨earlier, there, rfl⟩
  · rintro ⟨raw, stands, alone, before⟩
    obtain ⟨named, fault⟩ := (refused stands).1 alone
    refine ⟨⟨error.line, _⟩, Line.mem_significant_iff.2 ⟨raw, stands, rfl⟩, named, rfl, fault, ?_⟩
    intro other member less
    obtain ⟨earlier, there, text⟩ := Line.mem_significant_iff.1 member
    rw [text]
    exact (accepted there).1 (before other.number earlier less there)

/-- Texts are read in turn, and errors say in which line they are, in files of transcription rules as
in files of guess rules. -/
theorem files_read_in_turn {first : String} (closed : Line.Closed first) (file rest : String) :
    readStatements file (first ++ rest) =
        inTurn (first.toList.count '\n') (readStatements file first) (readStatements file rest) ∧
      readGuessRules file (first ++ rest) =
        inTurn (first.toList.count '\n') (readGuessRules file first) (readGuessRules file rest) ∧
      (∀ text error, readStatements file text = .error error ↔
        FirstRefused (readStatements file) text error) ∧
      ∀ text error, readGuessRules file text = .error error ↔
        FirstRefused (readGuessRules file) text error :=
  ⟨readLines_append closed rest, readLines_append closed rest,
    fun _ _ => readLines_eq_error_iff_firstRefused, fun _ _ => readLines_eq_error_iff_firstRefused⟩

theorem files_read_in_turn_behind_comments :
    Line.Closed "\ufeff// list\n\n/*\nau\n*/\r\n" ∧
      readStatements "x.txt" ("\ufeff// list\n\n/*\nau\n*/\r\n" ++ "// more\nau // a\n") =
        .error ⟨"x.txt", 7, .notFourFields "au"⟩ ∧
      readGuessRules "x.txt" ("\ufeff// list\n\n/*\nau\n*/\r\n" ++ "// more\nau // a\n") =
        .error ⟨"x.txt", 7, .notThreeFields "au"⟩ ∧
      FirstRefused (readStatements "x.txt") "// more\nau // a\n"
        ⟨"x.txt", 2, .notFourFields "au"⟩ := by
  have closed : Line.Closed "\ufeff// list\n\n/*\nau\n*/\r\n" :=
    ⟨.inr (by decide +kernel), by decide +kernel⟩
  obtain ⟨statements, guesses, located, _⟩ :=
    files_read_in_turn closed "x.txt" "// more\nau // a\n"
  refine ⟨closed, ?_, ?_, (located _ _).1 rfl⟩
  · rw [statements]
    rfl
  · rw [guesses]
    rfl

end RuleFile

end Homophone
