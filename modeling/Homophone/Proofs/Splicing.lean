import Homophone.Proofs.Includes
import Homophone.Proofs.RuleText

/-! Includes as splices of text.

A rule file says the same when the text of another stands in place of the line that includes it. Both
ways the same files must be readable and the same cycles are excluded: a file that is put in place of
a line still leads to all that it led to behind that line.
-/

set_option autoImplicit false

namespace Homophone

/-! ## Writing a file -/

namespace FileTree

def write (tree : FileTree) (path text : String) : FileTree :=
  { tree with entries := (tree.start.reach path, .text text) :: tree.entries }

@[simp] theorem start_write (tree : FileTree) (path text : String) :
    (tree.write path text).start = tree.start := rfl

section

variable {tree : FileTree} {path old : String} (readable : tree.read path = .text old)
  (new : String)

include readable

theorem find?_write (place : Place) :
    (tree.write path new).find? place =
      if place = tree.start.reach path then some (.text new) else tree.find? place := by
  obtain ⟨content, stored, text⟩ := exists_find?_of_read readable
  have known := mem_entries_of_find? stored text
  rw [find?, find?, write, List.lookup_cons, List.any_cons]
  by_cases here : place = tree.start.reach path
  · simp [here]
  · rw [if_neg here, beq_false_of_ne here]
    -- What leads to the file leads to an entry of the old tree.
    have around : (place.isPrefixOf (tree.start.reach path) ||
        tree.entries.any fun entry => place.isPrefixOf entry.1) =
        tree.entries.any fun entry => place.isPrefixOf entry.1 := by
      rw [Bool.or_eq_right_iff_imp]
      exact fun above => List.any_eq_true.2 ⟨_, known, above⟩
    simp only [around]

theorem follow_write (place : Place) (parts : List String) :
    (tree.write path new).follow place parts =
      match tree.follow place parts with
      | .text text =>
        .text (if parts.foldl Place.step place = tree.start.reach path then new else text)
      | other => other := by
  obtain ⟨content, stored, text⟩ := exists_find?_of_read readable
  induction parts generalizing place with
  | nil =>
    rw [follow, follow, find?_write readable, List.foldl_nil]
    by_cases here : place = tree.start.reach path
    · simp only [here, stored, text, if_true]
      rfl
    · simp only [if_neg here]
      cases tree.find? place with
      | none => rfl
      | some other =>
        dsimp only
        cases contentOf other <;> rfl
  | cons part rest ih =>
    rw [follow, follow, find?_write readable, List.foldl_cons]
    by_cases here : place = tree.start.reach path
    -- A path does not lead through a file.
    · rw [if_pos here, here, stored]
      cases content with
      | directory => cases text
      | text _ => rfl
      | bytes _ => rfl
    · rw [if_neg here]
      split
      · split
        · rfl
        · exact ih (place.step part)
      · rfl
      · rfl

theorem read_write_self : (tree.write path new).read path = .text new := by
  have given : path.isEmpty = false := by
    rw [read] at readable
    split at readable
    · cases readable
    · next given => simpa using given
  have start : tree.follow (tree.start.origin path) (Path.parts path) = .text old := by
    simpa [read, given] using readable
  have after := follow_write readable new (tree.start.origin path) (Path.parts path)
  rw [start] at after
  simpa [read, given, Place.reach] using after

/-- Under another path there is what was there before, unless it leads to the same file. -/
theorem read_write (other : String) :
    (tree.write path new).read other = tree.read other ∨
      tree.read other = .text old ∧ (tree.write path new).read other = .text new := by
  have after := follow_write readable new (tree.start.origin other) (Path.parts other)
  rw [read, read]
  split
  · exact .inl rfl
  · rw [start_write, after]
    cases found : tree.follow (tree.start.origin other) (Path.parts other) with
    | missing => exact .inl rfl
    | failed problem => exact .inl rfl
    | text text =>
      by_cases here : (Path.parts other).foldl Place.step (tree.start.origin other) =
          tree.start.reach path
      · obtain ⟨content, stored, same⟩ := exists_find?_of_follow found
        obtain ⟨content', stored', same'⟩ := exists_find?_of_read readable
        rw [here, stored'] at stored
        cases stored
        rw [← same, same']
        exact .inr ⟨rfl, by simp [here]⟩
      · exact .inl (by simp [here])

end

end FileTree

/-! ## Expansions of parts -/

namespace RuleDirectory

open RuleFile (Statement Stem includeLine readStatements)

variable {directory : RuleDirectory}

theorem Expansion.append {first rest : List Statement} {rules others : List Rule}
    (before : directory.Expansion first rules) (after : directory.Expansion rest others) :
    directory.Expansion (first ++ rest) (rules ++ others) := by
  induction before with
  | nil => exact after
  | rule _ ih => exact .rule ih
  | splice parsed inner _ _ ih =>
    rw [List.cons_append, List.append_assoc]
    exact .splice parsed inner ih

theorem expansion_append_iff {first rest : List Statement} {rules : List Rule} :
    directory.Expansion (first ++ rest) rules ↔
      ∃ rules₁ rules₂, directory.Expansion first rules₁ ∧ directory.Expansion rest rules₂ ∧
        rules = rules₁ ++ rules₂ := by
  constructor
  · induction first generalizing rules with
    | nil => exact fun expansion => ⟨[], rules, .nil, expansion, rfl⟩
    | cons statement others ih =>
      intro expansion
      cases expansion with
      | rule later =>
        obtain ⟨rules₁, rules₂, before, after, rfl⟩ := ih later
        exact ⟨_ :: rules₁, rules₂, .rule before, after, rfl⟩
      | splice parsed inner later =>
        obtain ⟨rules₁, rules₂, before, after, rfl⟩ := ih later
        exact ⟨_ ++ rules₁, rules₂, .splice parsed inner before, after, by simp⟩
  · rintro ⟨rules₁, rules₂, before, after, rfl⟩
    exact before.append after

theorem expansion_splice_iff {first rest : List Statement} {stem : Stem} {rules : List Rule} :
    directory.Expansion (first ++ .splice stem :: rest) rules ↔
      ∃ middle, directory.Parses stem.name middle ∧
        directory.Expansion (first ++ (middle ++ rest)) rules := by
  constructor
  · intro expansion
    obtain ⟨rules₁, _, before, after, rfl⟩ := expansion_append_iff.1 expansion
    -- The directive brings the rules of its file, and these come from the file's statements.
    cases after with
    | splice parsed inner later => exact ⟨_, parsed, before.append (inner.append later)⟩
  · rintro ⟨middle, parsed, expansion⟩
    obtain ⟨rules₁, _, before, after, rfl⟩ := expansion_append_iff.1 expansion
    obtain ⟨rules₂, rules₃, inner, later, rfl⟩ := expansion_append_iff.1 after
    exact before.append (.splice parsed inner later)

/-! ## A file in place of a line -/

def rewrite (directory : RuleDirectory) (file text : String) : RuleDirectory :=
  { directory with files := directory.files.write (directory.pathOf file) text }

/-- A line of a file includes another. What stands before it and what it includes end their lines
and comments. -/
structure Splice (directory : RuleDirectory) (file : String) (included : Stem)
    (before inner after : String) : Prop where
  outerText : directory.files.read (directory.pathOf file) =
    .text (before ++ includeLine included ++ after)
  innerText : directory.files.read (directory.pathOf included.name) = .text inner
  closedBefore : RuleFile.Line.Closed before
  closedInner : RuleFile.Line.Closed inner

namespace Splice

variable {file : String} {included : Stem} {before inner after : String}
  (splice : directory.Splice file included before inner after)

include splice

theorem readStatements_outer_iff {name : String} {statements : List Statement} :
    readStatements name (before ++ includeLine included ++ after) = .ok statements ↔
      ∃ first rest, readStatements name before = .ok first ∧
        readStatements name after = .ok rest ∧ statements = first ++ .splice included :: rest := by
  simp only [String.append_assoc, RuleFile.readStatements_append splice.closedBefore,
    RuleFile.readStatements_append (RuleFile.closed_includeLine included),
    RuleFile.readStatements_includeLine_iff]
  constructor
  · rintro ⟨first, _, one, ⟨_, rest, rfl, two, rfl⟩, rfl⟩
    exact ⟨first, rest, one, two, rfl⟩
  · rintro ⟨first, rest, one, two, rfl⟩
    exact ⟨first, _, one, ⟨_, rest, rfl, two, rfl⟩, rfl⟩

theorem readStatements_spliced_iff {name : String} {statements : List Statement} :
    readStatements name (before ++ inner ++ after) = .ok statements ↔
      ∃ first middle rest, readStatements name before = .ok first ∧
        readStatements name inner = .ok middle ∧ readStatements name after = .ok rest ∧
        statements = first ++ (middle ++ rest) := by
  simp only [String.append_assoc, RuleFile.readStatements_append splice.closedBefore,
    RuleFile.readStatements_append splice.closedInner]
  constructor
  · rintro ⟨first, _, one, ⟨middle, rest, two, three, rfl⟩, rfl⟩
    exact ⟨first, middle, rest, one, two, three, rfl⟩
  · rintro ⟨first, middle, rest, one, two, three, rfl⟩
    exact ⟨first, _, one, ⟨middle, rest, two, three, rfl⟩, rfl⟩

/-- What a file says stays, or the file is the one with the line. Then the statements of the other
file come in place of the one that named it. -/
theorem parses_rewrite {reached : String} {statements : List Statement}
    (parsed : directory.Parses reached statements) :
    (directory.rewrite file (before ++ inner ++ after)).Parses reached statements ∨
      ∃ first rest, statements = first ++ .splice included :: rest ∧
        ∀ middle, directory.Parses included.name middle →
          (directory.rewrite file (before ++ inner ++ after)).Parses reached
            (first ++ (middle ++ rest)) := by
  obtain ⟨text, readable, parsed⟩ := parsed
  rcases FileTree.read_write splice.outerText (before ++ inner ++ after)
    (directory.pathOf reached) with same | ⟨old, new⟩
  · exact .inl ⟨text, same.trans readable, parsed⟩
  -- The path leads to the file with the line.
  · cases old.symm.trans readable
    obtain ⟨first, rest, one, two, rfl⟩ := splice.readStatements_outer_iff.1 parsed
    refine .inr ⟨first, rest, rfl, ?_⟩
    rintro middle ⟨_, readable, parsed⟩
    cases splice.innerText.symm.trans readable
    have middleParsed := (RuleFile.readStatements_eq_ok_iff_of_file (fileName reached)).1 parsed
    exact ⟨_, new, splice.readStatements_spliced_iff.2
      ⟨first, middle, rest, one, middleParsed, two, rfl⟩⟩

theorem parses_of_rewrite {reached : String} {statements : List Statement}
    (parsed : (directory.rewrite file (before ++ inner ++ after)).Parses reached statements) :
    directory.Parses reached statements ∨
      ∃ first middle rest, statements = first ++ (middle ++ rest) ∧
        directory.Parses included.name middle ∧
        directory.Parses reached (first ++ .splice included :: rest) := by
  obtain ⟨text, readable, parsed⟩ := parsed
  rcases FileTree.read_write splice.outerText (before ++ inner ++ after)
    (directory.pathOf reached) with same | ⟨old, new⟩
  · exact .inl ⟨text, same.symm.trans readable, parsed⟩
  · cases new.symm.trans readable
    obtain ⟨first, middle, rest, one, two, three, rfl⟩ :=
      splice.readStatements_spliced_iff.1 parsed
    have middleParsed :=
      (RuleFile.readStatements_eq_ok_iff_of_file (fileName included.name)).1 two
    exact .inr ⟨first, middle, rest, rfl, ⟨_, splice.innerText, middleParsed⟩,
      ⟨_, old, splice.readStatements_outer_iff.2 ⟨first, rest, one, three, rfl⟩⟩⟩

/-- A file comes to the same if the files that it includes do. -/
theorem expands_rewrite {reached : String} {statements : List Statement} {rules : List Rule}
    (parsed : directory.Parses reached statements)
    (expansion : (directory.rewrite file (before ++ inner ++ after)).Expansion statements rules) :
    (directory.rewrite file (before ++ inner ++ after)).Expands reached rules := by
  rcases splice.parses_rewrite parsed with same | ⟨first, rest, rfl, replaced⟩
  · exact ⟨statements, same, expansion⟩
  · obtain ⟨middle, read, spliced⟩ := expansion_splice_iff.1 expansion
    rcases splice.parses_of_rewrite read with unchanged | ⟨start, whole, finish, rfl, parsed, again⟩
    · exact ⟨_, replaced middle unchanged, spliced⟩
    -- The included file is the one with the line: it has itself in its text, and no expansion.
    · cases parsed.unique again
      have loop : (directory.rewrite file (before ++ inner ++ after)).Includes included.name
          included.name := .directive read (by simp)
      have resolvable := expansion.resolvable included (by simp)
      exact absurd (.single loop) (resolvable.acyclic included.name .refl)

theorem expands_of_rewrite {reached : String} {statements : List Statement} {rules : List Rule}
    (parsed : (directory.rewrite file (before ++ inner ++ after)).Parses reached statements)
    (expansion : directory.Expansion statements rules) : directory.Expands reached rules := by
  rcases splice.parses_of_rewrite parsed with same | ⟨first, middle, rest, rfl, read, replaced⟩
  · exact ⟨statements, same, expansion⟩
  · exact ⟨_, replaced, expansion_splice_iff.2 ⟨middle, read, expansion⟩⟩

theorem expansion_rewrite_iff {statements : List Statement} {rules : List Rule} :
    (directory.rewrite file (before ++ inner ++ after)).Expansion statements rules ↔
      directory.Expansion statements rules := by
  -- By induction on the expansion: the files that a directive leads to have been dealt with.
  constructor
  · intro expansion
    induction expansion with
    | nil => exact .nil
    | rule _ ih => exact .rule ih
    | splice parsed _ _ ihFirst ihRest =>
      obtain ⟨others, parsed, first⟩ := splice.expands_of_rewrite parsed ihFirst
      exact .splice parsed first ihRest
  · intro expansion
    induction expansion with
    | nil => exact .nil
    | rule _ ih => exact .rule ih
    | splice parsed _ _ ihFirst ihRest =>
      obtain ⟨others, parsed, first⟩ := splice.expands_rewrite parsed ihFirst
      exact .splice parsed first ihRest

theorem expands_rewrite_iff {start : String} {rules : List Rule} :
    (directory.rewrite file (before ++ inner ++ after)).Expands start rules ↔
      directory.Expands start rules := by
  constructor
  · rintro ⟨statements, parsed, expansion⟩
    exact splice.expands_of_rewrite parsed (splice.expansion_rewrite_iff.1 expansion)
  · rintro ⟨statements, parsed, expansion⟩
    exact splice.expands_rewrite parsed (splice.expansion_rewrite_iff.2 expansion)

end Splice

/-- Where a file includes another by a line of its own, it comes to the same rules, if to any, with
the text of the other file in place of that line. So does every file, whatever else there is. -/
theorem rules_rewrite_include (directory : RuleDirectory) (file : String) (included : Stem)
    (before inner after : String)
    (outerText : directory.files.read (directory.pathOf file) =
      .text (before ++ includeLine included ++ after))
    (innerText : directory.files.read (directory.pathOf included.name) = .text inner)
    (closedBefore : RuleFile.Line.Closed before) (closedInner : RuleFile.Line.Closed inner)
    (start : String) (rules : List Rule) :
    directory.rules start = .ok rules ↔
      (directory.rewrite file (before ++ inner ++ after)).rules start = .ok rules := by
  have splice : directory.Splice file included before inner after :=
    ⟨outerText, innerText, closedBefore, closedInner⟩
  rw [rules_eq_ok_iff_expands, rules_eq_ok_iff_expands, splice.expands_rewrite_iff]

theorem rules_rewrite_include_shared :
    let shared : Stem := ⟨"shared", by decide⟩
    let before := "/* vowels */\n\"a\" \"\" \"\" \"1\"\n"
    let inner := "/* shared\n   by all */\n\"b\" \"\" \"\" \"2\" // second\n#include deep\n"
    let after := "\"d\" \"\" \"\" \"4\""
    let directory : RuleDirectory := ⟨.ofPaths [] [
      ("rules/main.txt", .text (before ++ includeLine shared ++ after)),
      ("rules/shared.txt", .text inner),
      ("rules/deep.txt", .text "\"c\" \"\" \"\" \"3\"\n")], "rules"⟩
    directory.files.read (directory.pathOf "main") =
        .text (before ++ includeLine shared ++ after) ∧
      directory.files.read (directory.pathOf shared.name) = .text inner ∧
      RuleFile.Line.Closed before ∧ RuleFile.Line.Closed inner ∧
      ∃ rules, rules.map (·.pattern) = [['a'], ['b'], ['c'], ['d']] ∧
        directory.rules "main" = .ok rules ∧
        (directory.rewrite "main" (before ++ inner ++ after)).rules "main" = .ok rules := by
  intro shared before inner after directory
  have outerText : directory.files.read (directory.pathOf "main") =
      .text (before ++ includeLine shared ++ after) := by decide +kernel
  have innerText : directory.files.read (directory.pathOf shared.name) = .text inner := by
    decide +kernel
  have closedBefore : RuleFile.Line.Closed before := ⟨.inr (by decide +kernel), by decide +kernel⟩
  have closedInner : RuleFile.Line.Closed inner := ⟨.inr (by decide +kernel), by decide +kernel⟩
  refine ⟨outerText, innerText, closedBefore, closedInner, ?_⟩
  have patterns : (directory.rules "main").toOption.map (·.map (·.pattern)) =
      some [['a'], ['b'], ['c'], ['d']] := by decide +kernel
  cases loaded : directory.rules "main" with
  | error error =>
    rw [loaded] at patterns
    cases patterns
  | ok rules =>
    rw [loaded] at patterns
    have spliced := (rules_rewrite_include directory "main" shared before inner after outerText
      innerText closedBefore closedInner "main" rules).1 loaded
    exact ⟨rules, Option.some.inj patterns, rfl, spliced⟩

end RuleDirectory

end Homophone
