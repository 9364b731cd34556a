import Homophone.Proofs.RuleNotation

/-! The line that a rule is written as.

Its four fields hold no quotes, no line ends and no comments, since they were read from a line, and so
does what is written of the alternatives. Read as a file of its own, the line gives the rule again,
unless a lone alternative looks like a list.
-/

set_option autoImplicit false

namespace Homophone

namespace RuleFile

/-! ## Fields -/

def quoteField (text rest : List Char) : List Char := '"' :: (text ++ '"' :: rest)

theorem readField?_eq_some_iff {line text rest : List Char} :
    readField? line = some (text, rest) ↔ '"' ∉ text ∧ line = quoteField text rest := by
  constructor
  · intro read
    unfold readField? at read
    split at read
    · next body =>
      by_cases closed : '"' ∈ body
      · obtain ⟨before, after, rfl, free⟩ := List.eq_append_cons_of_mem closed
        rw [Text.dropWhile_ne_append free, Text.takeWhile_ne_append free] at read
        cases read
        exact ⟨free, rfl⟩
      · rw [Text.dropWhile_ne_eq_nil_iff.2 closed] at read
        cases read
    · cases read
  · rintro ⟨free, rfl⟩
    simp only [readField?, quoteField]
    rw [Text.dropWhile_ne_append free, Text.takeWhile_ne_append free]
    rfl

theorem skipBlanks?_isSuffix {text rest : List Char} (skipped : skipBlanks? text = some rest) :
    rest <:+ text := by
  cases text with
  | nil => cases skipped
  | cons c others =>
    rw [skipBlanks?] at skipped
    split at skipped
    · cases skipped
      exact (List.dropWhile_suffix _).trans (List.suffix_cons c others)
    · cases skipped

theorem skipBlanks?_quoteField (text rest : List Char) :
    skipBlanks? (' ' :: quoteField text rest) = some (quoteField text rest) := by
  have blank : Unicode.isWhiteSpace ' ' = true := by decide
  have mark : Unicode.isWhiteSpace '"' = false := by decide
  simp [skipBlanks?, blank, quoteField, Text.trimStart, mark]

def writeFields (pattern left right phonemes : List Char) : List Char :=
  quoteField pattern (' ' :: quoteField left (' ' :: quoteField right (' ' :: quoteField phonemes [])))

theorem readFields?_writeFields {pattern left right phonemes : List Char}
    (free : ∀ text ∈ [pattern, left, right, phonemes], '"' ∉ text) :
    readFields? (writeFields pattern left right phonemes) =
      some (pattern, left, right, phonemes) := by
  simp only [List.forall_mem_cons] at free
  obtain ⟨one, two, three, four, _⟩ := free
  have read : ∀ {text : List Char} (rest : List Char), '"' ∉ text →
      readField? (quoteField text rest) = some (text, rest) :=
    fun rest plain => readField?_eq_some_iff.2 ⟨plain, rfl⟩
  simp [readFields?, writeFields, read _ one, read _ two, read _ three, read _ four,
    skipBlanks?_quoteField]

theorem readField?_isInfix {line text rest : List Char}
    (read : readField? line = some (text, rest)) : text <:+: line ∧ rest <:+ line := by
  obtain ⟨_, rfl⟩ := readField?_eq_some_iff.1 read
  exact ⟨⟨['"'], '"' :: rest, by simp [quoteField]⟩, ⟨'"' :: (text ++ ['"']), by simp [quoteField]⟩⟩

theorem of_readFields? {line pattern left right phonemes : List Char}
    (read : readFields? line = some (pattern, left, right, phonemes)) :
    ∀ text ∈ [pattern, left, right, phonemes], '"' ∉ text ∧ text <:+: line := by
  simp only [readFields?, Option.bind_eq_bind, Option.bind_eq_some_iff, Prod.exists] at read
  obtain ⟨_, rest₁, one, blank₁, skip₁, _, rest₂, two, blank₂, skip₂, _, rest₃, three, blank₃, skip₃,
    _, rest₄, four, last⟩ := read
  split at last
  · cases last
    have later₁ := (skipBlanks?_isSuffix skip₁).trans (readField?_isInfix one).2
    have later₂ := ((skipBlanks?_isSuffix skip₂).trans (readField?_isInfix two).2).trans later₁
    have later₃ := ((skipBlanks?_isSuffix skip₃).trans (readField?_isInfix three).2).trans later₂
    simp only [List.forall_mem_cons, List.not_mem_nil, false_implies, implies_true, and_true]
    exact ⟨⟨(readField?_eq_some_iff.1 one).1, (readField?_isInfix one).1⟩,
      ⟨(readField?_eq_some_iff.1 two).1, (readField?_isInfix two).1.trans later₁.isInfix⟩,
      ⟨(readField?_eq_some_iff.1 three).1, (readField?_isInfix three).1.trans later₂.isInfix⟩,
      ⟨(readField?_eq_some_iff.1 four).1, (readField?_isInfix four).1.trans later₃.isInfix⟩⟩
  · cases last

/-! ## Rules -/

theorem toList_render (rule : Rule) :
    rule.render.toList = writeFields rule.pattern rule.left.source.toList
      rule.right.source.toList (phonemeField rule.phonemes) := by
  rcases alternatives : rule.phonemes with _ | ⟨first, _ | ⟨second, others⟩⟩ <;>
    simp [Rule.render, alternatives, phonemeField, writeFields, quoteField,
      String.toList_intercalate, Function.comp_def]

/-! ## Reading what is written -/

theorem plain_quoteField {text rest : List Char} (plain : Plain ['\n'] text)
    (plain' : Plain ['\n'] rest) : Plain ['\n'] (quoteField text rest) :=
  plain_nil.append_cons (plain.append_cons plain' (by decide)) (by decide)

theorem whole_writeFields {pattern left right phonemes : List Char}
    (plain : ∀ text ∈ [pattern, left, right, phonemes], Plain ['\n'] text) :
    Line.Whole (writeFields pattern left right phonemes) where
  begins := ⟨'"', rfl, by decide, by decide⟩
  trimmed := by
    have mark : Unicode.isWhiteSpace '"' = false := by decide
    have closed : writeFields pattern left right phonemes =
        quoteField pattern (' ' :: quoteField left (' ' :: quoteField right (' ' :: '"' :: phonemes)))
          ++ ['"'] := by simp [writeFields, quoteField]
    constructor
    · simp [writeFields, quoteField, mark]
    · simp [closed, mark]
  plain := by
    simp only [List.forall_mem_cons] at plain
    obtain ⟨one, two, three, four, _⟩ := plain
    have spaced : ∀ {rest : List Char}, Plain ['\n'] rest → Plain ['\n'] (' ' :: rest) :=
      fun later => plain_nil.append_cons later (by decide)
    exact plain_quoteField one (spaced (plain_quoteField two (spaced (plain_quoteField three
      (spaced (plain_quoteField four plain_nil))))))

/-- A rule whose parts can stand between quotes in one line. -/
def Writable (rule : Rule) : Prop :=
  ∀ text ∈ [rule.pattern, rule.left.source.toList, rule.right.source.toList,
    phonemeField rule.phonemes], Plain ['"', '\n'] text

theorem writable_of_readStatement {line : List Char} (plain : Plain ['\n'] line) {rule : Rule}
    (read : readStatement line = .ok (.rule rule)) : Writable rule := by
  obtain ⟨_, field, fields, phonemes, _⟩ := readStatement_eq_rule_iff.1 read
  have parts : ∀ text ∈ [rule.pattern, rule.left.source.toList, rule.right.source.toList, field],
      Plain ['"', '\n'] text := by
    intro text listed
    obtain ⟨unquoted, inside⟩ := of_readFields? fields text listed
    have part := plain.of_isInfix inside
    refine ⟨fun c separates => ?_, part.uncommented⟩
    rcases List.mem_cons.1 separates with rfl | separates
    · exact unquoted
    · exact part.free c separates
  simp only [List.forall_mem_cons] at parts
  obtain ⟨pattern, left, right, alternatives, nothing⟩ := parts
  simp only [Writable, List.forall_mem_cons]
  exact ⟨pattern, left, right, plain_phonemeField phonemes alternatives (by simp), nothing⟩

section

variable {rule : Rule} (writable : Writable rule)

include writable

theorem whole_render : Line.Whole rule.render.toList := by
  rw [toList_render]
  exact whole_writeFields fun text listed => (writable text listed).of_subset (by simp)

theorem readFields?_render :
    readFields? rule.render.toList = some (rule.pattern, rule.left.source.toList,
      rule.right.source.toList, phonemeField rule.phonemes) := by
  rw [toList_render]
  exact readFields?_writeFields fun text listed => (writable text listed).free '"' (by simp)

theorem readStatements_render_iff (file : String) {ending : String}
    (ends : ending = "" ∨ ending = "\n") {again : Rule} :
    readStatements file (rule.render ++ ending) = .ok [.rule again] ↔
      readPhonemes (phonemeField rule.phonemes) = .ok again.phonemes ∧
        rule.pattern = again.pattern ∧ rule.left.source = again.left.source ∧
        rule.right.source = again.right.source ∧
        Rule.new (String.ofList again.pattern) again.left.source again.right.source
          again.phonemes = .ok again := by
  have lineEnd : ending.toList = [] ∨ ending.toList = ['\n'] := by
    rcases ends with rfl | rfl
    · exact .inl rfl
    · exact .inr rfl
  have other : includeDirective.isPrefixOf rule.render.toList = false := by
    have directive : includeDirective = '#' :: "include".toList := rfl
    rw [toList_render, directive, writeFields, quoteField, List.isPrefixOf]
    rfl
  rw [readStatements, readLines_eq_ok_iff, String.toList_append,
    (whole_render writable).map_text_significant lineEnd, List.forall₂_cons,
    readStatement_eq_rule_iff, readFields?_render writable]
  simp [other, String.toList_inj, and_comm, and_assoc]

end

/-- A rule that was read from a file is read again from the line that it is written as, and nothing
else is, unless it has one alternative and the text of this begins with a parenthesis. Then the line
is refused or says something else. -/
theorem readStatements_render {file text : String} {statements : List Statement}
    (read : readStatements file text = .ok statements) {rule : Rule}
    (member : .rule rule ∈ statements) (other : String) {ending : String}
    (ends : ending = "" ∨ ending = "\n") :
    (¬LooksListed rule.phonemes →
      readStatements other (rule.render ++ ending) = .ok [.rule rule]) ∧
    (LooksListed rule.phonemes →
      ∀ again, readStatements other (rule.render ++ ending) = .ok [.rule again] →
        again.phonemes ≠ rule.phonemes) := by
  obtain ⟨line, significant, here⟩ := exists_line_of_readLines read member
  have plain := Line.plain_of_mem_significant significant
  have writable := writable_of_readStatement plain here
  constructor
  · intro unlisted
    obtain ⟨_, field, fields, phonemes, built⟩ := readStatement_eq_rule_iff.1 here
    have uncommented : Uncommented field :=
      plain.uncommented.of_isInfix (of_readFields? fields field (by simp)).2
    exact (readStatements_render_iff writable other ends).2
      ⟨readPhonemes_phonemeField phonemes uncommented unlisted, rfl, rfl, rfl, built⟩
  · intro listed again reread same
    obtain ⟨phonemes, _⟩ := (readStatements_render_iff writable other ends).1 reread
    exact readPhonemes_phonemeField_ne listed (same ▸ phonemes)

def Statement.rule? : Statement → Option Rule
  | .rule written => some written
  | .splice _ => none

theorem exists_rule_of_readStatements (file text render : String) (phonemes : List Phoneme)
    (run : (readStatements file text).toOption.map (·.map fun statement =>
      statement.rule?.map fun rule => (rule.render, rule.phonemes)) =
        some [some (render, phonemes)]) :
    ∃ rule, readStatements file text = .ok [.rule rule] ∧ rule.render = render ∧
      rule.phonemes = phonemes := by
  cases read : readStatements file text with
  | error error =>
    rw [read] at run
    cases run
  | ok statements =>
    rw [read] at run
    obtain ⟨statement, rfl, same⟩ := List.map_eq_singleton_iff.1 (Option.some.inj run)
    cases statement with
    | splice stem => cases same
    | rule rule =>
      obtain ⟨written, alternatives⟩ := Prod.mk.inj (Option.some.inj same)
      exact ⟨rule, rfl, written, alternatives⟩

theorem readStatements_render_lines :
    (∃ rule, readStatements "a.txt" "\"sch\" \"\" \"[aou]\"  \"(S|sk[polish + german]|)\" // list" =
        .ok [.rule rule] ∧
      rule.render = "\"sch\" \"\" \"[aou]\" \"(S|sk[polish+german]|)\"" ∧
      readStatements "b.txt" (rule.render ++ "\n") = .ok [.rule rule]) ∧
    ∃ rule, readStatements "a.txt" "\"x\" \"\" \"\" \"((a))\"" = .ok [.rule rule] ∧
      rule.phonemes = [.plain "(a)"] ∧
      ∀ again, readStatements "b.txt" (rule.render ++ "") = .ok [.rule again] →
        again.phonemes ≠ [.plain "(a)"] := by
  constructor
  · obtain ⟨rule, read, render, phonemes⟩ := exists_rule_of_readStatements "a.txt"
      "\"sch\" \"\" \"[aou]\"  \"(S|sk[polish + german]|)\" // list"
      "\"sch\" \"\" \"[aou]\" \"(S|sk[polish+german]|)\""
      [.plain "S", .restricted "sk" (.ofList [⟨"polish"⟩, ⟨"german"⟩]), .plain ""] (by decide)
    have unlisted : ¬LooksListed rule.phonemes := by
      rintro ⟨phoneme, single, _⟩
      rw [phonemes] at single
      cases single
    exact ⟨rule, read, render,
      (readStatements_render read (by simp) "b.txt" (.inr rfl)).1 unlisted⟩
  · obtain ⟨rule, read, _, phonemes⟩ := exists_rule_of_readStatements "a.txt"
      "\"x\" \"\" \"\" \"((a))\"" "\"x\" \"\" \"\" \"(a)\""
      [.plain "(a)"] (by decide)
    have listed : LooksListed rule.phonemes := ⟨_, phonemes, by decide⟩
    refine ⟨rule, read, phonemes, fun again reread => ?_⟩
    rw [← phonemes]
    exact (readStatements_render read (by simp) "b.txt" (.inl rfl)).2 listed again reread

theorem readStatements_render_unclosed :
    ∃ rule, readStatements "a.txt" "\"x\" \"\" \"\" \"((a)\"\n" = .ok [.rule rule] ∧
      rule.render = "\"x\" \"\" \"\" \"(a\"" ∧
      readStatements "a.txt" (rule.render ++ "\n") =
        .error ⟨"a.txt", 1, .phonemes (.unclosedList "(a")⟩ := by
  obtain ⟨rule, read, render, _⟩ := exists_rule_of_readStatements "a.txt"
    "\"x\" \"\" \"\" \"((a)\"\n" "\"x\" \"\" \"\" \"(a\""
    [.plain "(a"] (by decide)
  refine ⟨rule, read, render, ?_⟩
  rw [render]
  rfl

end RuleFile

end Homophone
