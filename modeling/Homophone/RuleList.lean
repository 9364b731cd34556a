import Homophone.Rule
import Std.Data.TreeMap

/-! Lists of rules, indexed by the first character of what they replace.

The index only narrows the search: it keeps the order of the list, so the first rule found through
it is the first that a scan of the whole list would find.
-/

set_option autoImplicit false

namespace Homophone

namespace Rule

def firstChar (rule : Rule) : Char := rule.pattern.head rule.pattern_ne_nil

theorem charAtByte?_of_matchesAt {rule : Rule} {text : String} {offset : Nat}
    (found : rule.matchesAt text offset = true) :
    Text.charAtByte? offset text.toList = some rule.firstChar := by
  obtain ⟨before, after, parts, length⟩ := exists_parts_of_matchesAt found
  refine Text.charAtByte?_eq_some_iff.2 ⟨before, rule.pattern.tail ++ after, ?_, length⟩
  rw [parts, List.append_assoc, ← List.cons_append, firstChar, List.cons_head_tail]

end Rule

/-- The rules of a list by the first character of their pattern. -/
abbrev RuleIndex := Std.TreeMap Char (List Rule)

namespace RuleIndex

def rulesFor (index : RuleIndex) (c : Char) : List Rule := index.getD c []

def addFirst (rule : Rule) (index : RuleIndex) : RuleIndex :=
  index.insert rule.firstChar (rule :: index.rulesFor rule.firstChar)

def ofList (rules : List Rule) : RuleIndex := rules.foldr addFirst ∅

theorem rulesFor_ofList (rules : List Rule) (c : Char) :
    (ofList rules).rulesFor c = rules.filter (·.firstChar == c) := by
  induction rules with
  | nil => exact Std.TreeMap.getD_emptyc
  | cons rule rest ih =>
    change (addFirst rule (ofList rest)).rulesFor c = _
    rw [addFirst, rulesFor, Std.TreeMap.getD_insert]
    split
    · next same =>
      have same : rule.firstChar = c := Std.LawfulEqOrd.eq_of_compare same
      rw [same, ih, List.filter_cons_of_pos (by simpa using same)]
    · next different =>
      have different : rule.firstChar ≠ c := fun same =>
        different (same ▸ Std.ReflOrd.compare_self)
      rw [List.filter_cons_of_neg (by simpa using different)]
      exact ih

end RuleIndex

structure RuleList where
  rules : List Rule
  index : RuleIndex
  index_eq : index = RuleIndex.ofList rules

namespace RuleList

def ofList (rules : List Rule) : RuleList := ⟨rules, RuleIndex.ofList rules, rfl⟩

instance : Inhabited RuleList := ⟨ofList []⟩

def size (list : RuleList) : Nat := list.rules.length

def isEmpty (list : RuleList) : Bool := list.rules.isEmpty

def candidatesAt (list : RuleList) (text : String) (offset : Nat) : List Rule :=
  match Text.charAtByte? offset text.toList with
  | some c => list.index.rulesFor c
  | none => []

theorem candidatesAt_eq_filter {list : RuleList} {text : String} {offset : Nat} {c : Char}
    (found : Text.charAtByte? offset text.toList = some c) :
    list.candidatesAt text offset = list.rules.filter (·.firstChar == c) := by
  simp only [candidatesAt, found, list.index_eq, RuleIndex.rulesFor_ofList]

/-- The alternatives for `language` that a rule writes at a byte offset, if it applies there and has
any. -/
def choose? (language : Option Language) (text : String) (offset : Nat) (rule : Rule) :
    Option (Rule × List String) :=
  if rule.matchesAt text offset then
    match rule.alternativesFor language with
    | [] => none
    | alternatives => some (rule, alternatives)
  else none

/-- The first rule that applies at a byte offset and has alternatives for `language`, with these. -/
def select? (list : RuleList) (language : Option Language) (text : String) (offset : Nat) :
    Option (Rule × List String) :=
  (list.candidatesAt text offset).findSome? (choose? language text offset)

theorem choose?_eq_some_iff {language : Option Language} {text : String} {offset : Nat}
    {rule chosen : Rule} {alternatives : List String} :
    choose? language text offset rule = some (chosen, alternatives) ↔
      rule.matchesAt text offset = true ∧ alternatives ≠ [] ∧ chosen = rule ∧
        alternatives = rule.alternativesFor language := by
  rw [choose?]
  split
  · next applies =>
    cases written : rule.alternativesFor language with
    | nil => simp +contextual
    | cons first rest =>
      simp only [Option.some.injEq, Prod.mk.injEq, applies, true_and]
      constructor
      · rintro ⟨rfl, rfl⟩
        exact ⟨List.cons_ne_nil first rest, rfl, rfl⟩
      · rintro ⟨_, rfl, rfl⟩
        exact ⟨rfl, rfl⟩
  · next fails => simp [fails]

theorem exists_of_select? {list : RuleList} {language : Option Language} {text : String}
    {offset : Nat} {rule : Rule} {alternatives : List String}
    (selected : list.select? language text offset = some (rule, alternatives)) :
    rule.matchesAt text offset = true ∧ alternatives = rule.alternativesFor language := by
  obtain ⟨found, _, chosen⟩ := List.exists_of_findSome?_eq_some selected
  obtain ⟨applies, _, rfl, written⟩ := choose?_eq_some_iff.1 chosen
  exact ⟨applies, written⟩

end RuleList

end Homophone
