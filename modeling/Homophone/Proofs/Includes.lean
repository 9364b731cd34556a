import Homophone.RuleDirectory
import Mathlib.Data.List.Chain
import Mathlib.Logic.Relation

/-! What a rule file includes.

The rules of a file are its expansion, in which every include directive is replaced by the expansion
of the file that it names. There is one just when each file that the file leads to can be read and
none leads back to itself. Otherwise reading stops where a file cannot be read, or with a chain of
files that does lead back.
-/

set_option autoImplicit false

namespace Homophone.RuleDirectory

open RuleFile (Statement Stem)

variable {directory : RuleDirectory}

/-! ## The include graph -/

/-- The file of a stem exists, is text and consists of some statements. -/
def Parses (directory : RuleDirectory) (file : String) (statements : List Statement) : Prop :=
  ∃ text, directory.files.read (directory.pathOf file) = .text text ∧
    RuleFile.readStatements (fileName file) text = .ok statements

theorem parses_iff {file : String} {statements : List Statement} :
    directory.Parses file statements ↔ directory.statements file = .ok statements :=
  statements_eq_ok_iff.symm

theorem Parses.unique {file : String} {statements others : List Statement}
    (parsed : directory.Parses file statements) (again : directory.Parses file others) :
    statements = others :=
  Except.ok.inj ((parses_iff.1 parsed).symm.trans (parses_iff.1 again))

inductive Includes (directory : RuleDirectory) : String → String → Prop where
  | directive {file : String} {statements : List Statement} {stem : Stem} :
      directory.Parses file statements → .splice stem ∈ statements →
      Includes directory file stem.name

/-- A file leads to another, or is it. -/
def Reaches (directory : RuleDirectory) : String → String → Prop :=
  Relation.ReflTransGen directory.Includes

/-- All that a file leads to can be read, and does not lead back. -/
structure Resolvable (directory : RuleDirectory) (file : String) : Prop where
  parses : ∀ reached, directory.Reaches file reached →
    ∃ statements, directory.Parses reached statements
  acyclic : ∀ reached, directory.Reaches file reached →
    ¬Relation.TransGen directory.Includes reached reached

theorem Resolvable.of_includes {file included : String} (resolvable : directory.Resolvable file)
    (step : directory.Includes file included) : directory.Resolvable included where
  parses reached path := resolvable.parses reached (.head step path)
  acyclic reached path := resolvable.acyclic reached (.head step path)

theorem resolvable_of_parses {file : String} {statements : List Statement}
    (parsed : directory.Parses file statements)
    (each : ∀ stem, .splice stem ∈ statements → directory.Resolvable stem.name) :
    directory.Resolvable file := by
  have next : ∀ included, directory.Includes file included → directory.Resolvable included := by
    rintro _ ⟨again, member⟩
    exact each _ (again.unique parsed ▸ member)
  constructor
  · intro reached path
    rcases Relation.ReflTransGen.cases_head path with rfl | ⟨included, step, rest⟩
    · exact ⟨statements, parsed⟩
    · exact (next included step).parses reached rest
  · intro reached path cycle
    rcases Relation.ReflTransGen.cases_head path with rfl | ⟨included, step, rest⟩
    -- A cycle through the file itself also goes through one that it includes.
    · obtain ⟨included, step, rest⟩ := Relation.TransGen.head'_iff.1 cycle
      exact (next included step).acyclic file rest cycle
    · exact (next included step).acyclic reached rest cycle

/-! ## Expansions -/

/-- The rules that statements come to, depth first and in order. -/
inductive Expansion (directory : RuleDirectory) : List Statement → List Rule → Prop where
  | nil : Expansion directory [] []
  | rule {rule : Rule} {rest : List Statement} {rules : List Rule} :
      Expansion directory rest rules → Expansion directory (.rule rule :: rest) (rule :: rules)
  | splice {stem : Stem} {statements rest : List Statement} {first others : List Rule} :
      directory.Parses stem.name statements → Expansion directory statements first →
      Expansion directory rest others →
      Expansion directory (.splice stem :: rest) (first ++ others)

def Expands (directory : RuleDirectory) (file : String) (rules : List Rule) : Prop :=
  ∃ statements, directory.Parses file statements ∧ directory.Expansion statements rules

theorem Expansion.unique {statements : List Statement} {rules others : List Rule}
    (expansion : directory.Expansion statements rules)
    (again : directory.Expansion statements others) : rules = others := by
  -- The statements leave no choice: one constructor fits each of them.
  induction expansion generalizing others with
  | nil =>
    cases again
    rfl
  | rule _ ih =>
    cases again with
    | rule rest => rw [ih rest]
  | splice parsed _ _ ihFirst ihRest =>
    cases again with
    | splice parsed' first rest =>
      cases parsed.unique parsed'
      rw [ihFirst first, ihRest rest]

theorem Expands.unique {file : String} {rules others : List Rule}
    (expands : directory.Expands file rules) (again : directory.Expands file others) :
    rules = others := by
  obtain ⟨statements, parsed, expansion⟩ := expands
  obtain ⟨_, parsed', expansion'⟩ := again
  cases parsed.unique parsed'
  exact expansion.unique expansion'

theorem Expansion.resolvable {statements : List Statement} {rules : List Rule}
    (expansion : directory.Expansion statements rules) :
    ∀ stem, .splice stem ∈ statements → directory.Resolvable stem.name := by
  induction expansion with
  | nil => simp
  | rule _ ih => simpa using ih
  | splice parsed _ _ ihFirst ihRest =>
    intro stem member
    rcases List.mem_cons.1 member with same | later
    · cases same
      exact resolvable_of_parses parsed ihFirst
    · exact ihRest stem later

theorem Expands.resolvable {file : String} {rules : List Rule}
    (expands : directory.Expands file rules) : directory.Resolvable file := by
  obtain ⟨statements, parsed, expansion⟩ := expands
  exact resolvable_of_parses parsed expansion.resolvable

/-! ## Splicing -/

section

variable {expand : Stem → Except LoadError (List Rule)}

theorem spliceAll_rule_eq_ok_iff {rule : Rule} {rest : List Statement} {rules : List Rule} :
    spliceAll expand (.rule rule :: rest) = .ok rules ↔
      ∃ others, spliceAll expand rest = .ok others ∧ rule :: others = rules := by
  rw [spliceAll]
  cases spliceAll expand rest <;> simp [bind, Except.bind, pure, Except.pure]

theorem spliceAll_splice_eq_ok_iff {stem : Stem} {rest : List Statement} {rules : List Rule} :
    spliceAll expand (.splice stem :: rest) = .ok rules ↔
      ∃ first others, expand stem = .ok first ∧ spliceAll expand rest = .ok others ∧
        first ++ others = rules := by
  rw [spliceAll]
  cases expand stem <;> cases spliceAll expand rest <;>
    simp [bind, Except.bind, pure, Except.pure]

theorem expansion_of_spliceAll
    (each : ∀ stem first, expand stem = .ok first → directory.Expands stem.name first)
    {statements : List Statement} {rules : List Rule}
    (spliced : spliceAll expand statements = .ok rules) :
    directory.Expansion statements rules := by
  induction statements generalizing rules with
  | nil =>
    cases spliced
    exact .nil
  | cons statement rest ih =>
    cases statement with
    | rule rule =>
      obtain ⟨others, done, rfl⟩ := spliceAll_rule_eq_ok_iff.1 spliced
      exact .rule (ih done)
    | splice stem =>
      obtain ⟨first, others, entered, done, rfl⟩ := spliceAll_splice_eq_ok_iff.1 spliced
      obtain ⟨statements, parsed, expansion⟩ := each stem first entered
      exact .splice parsed expansion (ih done)

theorem exists_spliceAll {statements : List Statement}
    (each : ∀ stem, .splice stem ∈ statements → ∃ rules, expand stem = .ok rules) :
    ∃ rules, spliceAll expand statements = .ok rules := by
  induction statements with
  | nil => exact ⟨[], rfl⟩
  | cons statement rest ih =>
    obtain ⟨others, done⟩ := ih fun stem member => each stem (List.mem_cons_of_mem _ member)
    cases statement with
    | rule rule => exact ⟨rule :: others, spliceAll_rule_eq_ok_iff.2 ⟨others, done, rfl⟩⟩
    | splice stem =>
      obtain ⟨first, entered⟩ := each stem List.mem_cons_self
      exact ⟨first ++ others, spliceAll_splice_eq_ok_iff.2 ⟨first, others, entered, done, rfl⟩⟩

theorem exists_of_spliceAll_eq_error {statements : List Statement} {error : LoadError}
    (failed : spliceAll expand statements = .error error) :
    ∃ stem, .splice stem ∈ statements ∧ expand stem = .error error := by
  induction statements with
  | nil => cases failed
  | cons statement rest ih =>
    have later : spliceAll expand rest = .error error →
        ∃ stem, .splice stem ∈ statement :: rest ∧ expand stem = .error error := by
      intro failed
      obtain ⟨stem, member, entered⟩ := ih failed
      exact ⟨stem, List.mem_cons_of_mem _ member, entered⟩
    cases statement with
    | rule rule =>
      apply later
      rw [spliceAll] at failed
      cases done : spliceAll expand rest <;> simp_all [bind, Except.bind, pure, Except.pure]
    | splice stem =>
      rw [spliceAll] at failed
      cases entered : expand stem with
      | error other =>
        rw [entered] at failed
        cases failed
        exact ⟨stem, List.mem_cons_self, entered⟩
      | ok first =>
        apply later
        cases done : spliceAll expand rest <;> simp_all [bind, Except.bind, pure, Except.pure]

end

/-! ## Reading with includes -/

theorem expands_of_expand {stack : List String} {stem : Stem} {rules : List Rule}
    (entered : directory.expand stack stem = .ok rules) : directory.Expands stem.name rules := by
  fun_induction expand directory stack stem generalizing rules with
  | case1 => cases entered
  | case2 => cases entered
  | case3 stack stem fresh statements found ih =>
    refine ⟨statements, parses_iff.2 found, expansion_of_spliceAll ?_ entered⟩
    exact fun included first => ih included

/-- A file that leads to nothing unreadable, nor back to itself or to a file that is being read, can
be read. -/
theorem exists_expand {stack : List String} {stem : Stem} (resolvable : directory.Resolvable stem.name)
    (outside : ∀ file ∈ stack, ¬directory.Reaches stem.name file) :
    ∃ rules, directory.expand stack stem = .ok rules := by
  fun_induction expand directory stack stem with
  | case1 stack stem entered => exact absurd .refl (outside stem.name entered)
  | case2 stack stem fresh error failed =>
    obtain ⟨statements, parsed⟩ := resolvable.parses stem.name .refl
    rw [parses_iff, failed] at parsed
    cases parsed
  | case3 stack stem fresh statements found ih =>
    apply exists_spliceAll
    intro included member
    have step : directory.Includes stem.name included.name :=
      .directive (parses_iff.2 found) member
    apply ih included (resolvable.of_includes step)
    intro file reading path
    -- A path back to the file itself, or to one that is being read, was excluded.
    rcases List.mem_append.1 reading with before | last
    · exact outside file before (.head step path)
    · cases List.mem_singleton.1 last
      exact resolvable.acyclic stem.name .refl (.head' step path)

theorem rules_eq_ok_iff {file : String} {rules : List Rule} :
    directory.rules file = .ok rules ↔
      ∃ statements, directory.Parses file statements ∧
        spliceAll (directory.expand [file]) statements = .ok rules := by
  rw [RuleDirectory.rules]
  cases found : directory.statements file <;> simp [bind, Except.bind, parses_iff, found]

theorem expands_of_rules {file : String} {rules : List Rule}
    (loaded : directory.rules file = .ok rules) : directory.Expands file rules := by
  obtain ⟨statements, parsed, spliced⟩ := rules_eq_ok_iff.1 loaded
  exact ⟨statements, parsed, expansion_of_spliceAll (fun _ _ => expands_of_expand) spliced⟩

theorem exists_rules {file : String} (resolvable : directory.Resolvable file) :
    ∃ rules, directory.rules file = .ok rules := by
  obtain ⟨statements, parsed⟩ := resolvable.parses file .refl
  have each : ∀ included, .splice included ∈ statements →
      ∃ rules, directory.expand [file] included = .ok rules := by
    intro included member
    have step : directory.Includes file included.name := .directive parsed member
    apply exists_expand (resolvable.of_includes step)
    intro other reading path
    cases List.mem_singleton.1 reading
    exact resolvable.acyclic file .refl (.head' step path)
  obtain ⟨rules, spliced⟩ := exists_spliceAll each
  exact ⟨rules, rules_eq_ok_iff.2 ⟨statements, parsed, spliced⟩⟩

theorem rules_eq_ok_iff_expands {file : String} {rules : List Rule} :
    directory.rules file = .ok rules ↔ directory.Expands file rules := by
  constructor
  · exact expands_of_rules
  · intro expands
    obtain ⟨others, loaded⟩ := exists_rules expands.resolvable
    rw [loaded, (expands_of_rules loaded).unique expands]

/-! ## Termination -/

/-- However one include is followed after another, there are no more files to enter than the tree
holds: in the end comes one that is being read already, or cannot be read. -/
theorem exists_entered_or_unreadable (directory : RuleDirectory) (stack : List String)
    (path : Nat → Stem) :
    ∃ depth ≤ directory.files.entries.length,
      (path depth).name ∈ stack ++ (List.range depth).map (fun level => (path level).name) ∨
        ∀ statements, ¬directory.Parses (path depth).name statements := by
  apply Classical.byContradiction
  intro endless
  -- Otherwise each level leaves fewer files to enter, for more levels than there are files.
  have entered : ∀ depth ≤ directory.files.entries.length + 1,
      (directory.entriesBeside
        (stack ++ (List.range depth).map fun level => (path level).name)).length + depth ≤
        directory.files.entries.length := by
    intro depth
    induction depth with
    | zero => exact fun _ => List.length_filter_le _ _
    | succ depth ih =>
      intro inside
      have before := ih (by omega)
      have next : ¬(_ ∨ _) := fun stops => endless ⟨depth, by omega, stops⟩
      obtain ⟨fresh, readable⟩ := not_or.1 next
      obtain ⟨statements, parsed⟩ := Classical.not_forall_not.1 readable
      have fewer := length_entriesBeside_lt fresh (parses_iff.1 parsed)
      rw [List.range_succ, List.map_append, List.map_singleton, ← List.append_assoc]
      omega
  have beyond := entered _ (Nat.le_refl _)
  omega

/-! ## Cycles -/

/-- Files that include each other in turn, the last of which is one of the others. No two of these
are the same. -/
structure Loop (directory : RuleDirectory) (chain : List String) : Prop where
  included : chain.IsChain directory.Includes
  distinct : chain.dropLast.Nodup
  closed : ∃ last ∈ chain.dropLast, chain.getLast? = some last

theorem statements_ne_includeCycle (file : String) (chain : List String) :
    directory.statements file ≠ .error (.includeCycle chain) := by
  rw [RuleDirectory.statements, read?]
  cases directory.files.read (directory.pathOf file) with
  | text text =>
    change (RuleFile.readStatements (fileName file) text).mapError LoadError.malformed ≠ _
    cases RuleFile.readStatements (fileName file) text with
    | ok found =>
      intro same
      cases same
    | error error =>
      intro same
      cases same
  | missing => simp [bind, Except.bind, throw, throwThe, MonadExceptOf.throw]
  | failed problem => simp [bind, Except.bind]

/-- The files that are being read stand at the head of a cycle that is found. -/
theorem loop_of_expand {stack chain : List String} {stem : Stem} (distinct : stack.Nodup)
    (linked : (stack ++ [stem.name]).IsChain directory.Includes)
    (failed : directory.expand stack stem = .error (.includeCycle chain)) :
    stack <+: chain ∧ directory.Loop chain := by
  -- The chain that is reported grows with the stack, which it begins with.
  fun_induction expand directory stack stem with
  | case1 stack stem entered =>
    cases failed
    refine ⟨List.prefix_append _ _, linked, ?_, stem.name, ?_, List.getLast?_concat⟩
    · rw [List.dropLast_concat]
      exact distinct
    · rw [List.dropLast_concat]
      exact entered
  | case2 stack stem fresh error found =>
    cases failed
    exact absurd found (statements_ne_includeCycle stem.name chain)
  | case3 stack stem fresh statements found ih =>
    obtain ⟨included, member, failed⟩ := exists_of_spliceAll_eq_error failed
    have step : directory.Includes stem.name included.name :=
      .directive (parses_iff.2 found) member
    have distinct' : (stack ++ [stem.name]).Nodup :=
      List.nodup_append.2 ⟨distinct, by simp, by
        rintro file reading _ last rfl
        exact fresh (List.mem_singleton.1 last ▸ reading)⟩
    have linked' : (stack ++ [stem.name] ++ [included.name]).IsChain directory.Includes := by
      rw [List.append_assoc]
      exact List.isChain_append_cons_cons.2 ⟨linked, step, .singleton _⟩
    obtain ⟨head, loop⟩ := ih included distinct' linked' failed
    exact ⟨(List.prefix_append _ _).trans head, loop⟩

theorem loop_of_rules {file : String} {chain : List String}
    (failed : directory.rules file = .error (.includeCycle chain)) :
    chain.head? = some file ∧ directory.Loop chain := by
  rw [RuleDirectory.rules] at failed
  cases found : directory.statements file with
  | error error =>
    rw [found] at failed
    cases failed
    exact absurd found (statements_ne_includeCycle file chain)
  | ok statements =>
    rw [found] at failed
    obtain ⟨included, member, failed⟩ := exists_of_spliceAll_eq_error failed
    have step : directory.Includes file included.name := .directive (parses_iff.2 found) member
    have linked : ([file] ++ [included.name]).IsChain directory.Includes :=
      .cons_cons step (.singleton _)
    obtain ⟨⟨rest, rfl⟩, loop⟩ := loop_of_expand (by simp) linked failed
    exact ⟨rfl, loop⟩

/-- Reading ends: files nest no deeper than there are files. A file has rules just when every file
that it leads to exists, is text and can be parsed, and none of these leads back to itself. The rules
are then its expansion. When a cycle is reported there is one: a chain of files from the first one
on, each included by the one before it. -/
theorem rules_of_include_graph (directory : RuleDirectory) (file : String) :
    (∀ path : Nat → Stem, ∃ depth ≤ directory.files.entries.length,
      (path depth).name ∈ file :: (List.range depth).map (fun level => (path level).name) ∨
        ∀ statements, ¬directory.Parses (path depth).name statements) ∧
    ((∃ rules, directory.rules file = .ok rules) ↔
      (∀ reached, directory.Reaches file reached →
        ∃ statements, directory.Parses reached statements) ∧
      ∀ reached, directory.Reaches file reached →
        ¬Relation.TransGen directory.Includes reached reached) ∧
    (∀ rules, directory.rules file = .ok rules ↔ directory.Expands file rules) ∧
    ∀ chain, directory.rules file = .error (.includeCycle chain) →
      chain.head? = some file ∧ directory.Loop chain := by
  refine ⟨directory.exists_entered_or_unreadable [file], ⟨?_, ?_⟩,
    fun rules => rules_eq_ok_iff_expands, fun chain => loop_of_rules⟩
  · rintro ⟨rules, loaded⟩
    have resolvable := (expands_of_rules loaded).resolvable
    exact ⟨resolvable.parses, resolvable.acyclic⟩
  · rintro ⟨parses, acyclic⟩
    exact exists_rules ⟨parses, acyclic⟩

end Homophone.RuleDirectory
