import Homophone.Phoneme
import Homophone.Regex.Compile
import Homophone.Text.Offset
import Homophone.Text.Quoted

/-! Transcription rules, which look at what stands around the text they apply to. -/

set_option autoImplicit false

namespace Homophone

inductive RuleError where
  | emptyPattern
  | noPhonemes (pattern : String)
  | invalidContext (context : String)
  | invalidGuessPattern (pattern : String)
  | noGuessLanguages (pattern : String)
  deriving DecidableEq, Repr

namespace RuleError

def message : RuleError → String
  | emptyPattern => "rule input pattern must not be empty"
  | noPhonemes pattern =>
    "rule for pattern " ++ Text.quoted pattern ++ " lists no phoneme alternatives"
  | invalidContext context => "invalid context " ++ Text.quoted context
  | invalidGuessPattern pattern => "invalid language guess pattern " ++ Text.quoted pattern
  | noGuessLanguages pattern =>
    "language guess rule for " ++ Text.quoted pattern ++ " names no languages"

/-- Whether the error lies in a regular expression. What is wrong with that is not said. -/
def isMalformedRegex : RuleError → Bool
  | invalidContext _ | invalidGuessPattern _ => true
  | _ => false

end RuleError

structure Context where
  source : String
  /-- The expression to be found, or `none` where any text will do. -/
  regex : Option Regex

namespace Context

def always : Context := ⟨"", none⟩

def leftPattern (source : List Char) : List Char := "(?:".toList ++ source ++ ")$".toList

def rightPattern (source : List Char) : List Char := "^(?:".toList ++ source ++ ")".toList

def ofPattern (anchor : List Char → List Char) (source : String) : Except RuleError Context :=
  if source.isEmpty then .ok always
  else match Regex.ofPattern? (anchor source.toList) with
    | some regex => .ok ⟨source, some regex⟩
    | none => .error (.invalidContext source)

def left (source : String) : Except RuleError Context := ofPattern leftPattern source

def right (source : String) : Except RuleError Context := ofPattern rightPattern source

theorem source_of_ofPattern {anchor : List Char → List Char} {source : String} {context : Context}
    (read : Context.ofPattern anchor source = .ok context) : context.source = source := by
  rw [Context.ofPattern] at read
  split at read
  · next empty =>
    cases read
    exact (String.isEmpty_iff.1 empty).symm
  · split at read
    · cases read
      rfl
    · cases read

def holds (context : Context) (text : List Char) : Bool :=
  match context.regex with
  | some regex => regex.occursIn text
  | none => true

end Context

/-- A rule replaces `pattern` by any of its phonemes where both contexts hold. -/
structure Rule where
  pattern : List Char
  left : Context
  right : Context
  phonemes : List Phoneme
  pattern_ne_nil : pattern ≠ []
  phonemes_ne_nil : phonemes ≠ []

namespace Rule

/-- Build a rule. Of several faults, the first in the order pattern, phonemes, left context, right
context is reported. -/
def new (pattern left right : String) (phonemes : List Phoneme) : Except RuleError Rule :=
  if emptyPattern : pattern.toList = [] then .error .emptyPattern
  else if noPhonemes : phonemes = [] then .error (.noPhonemes pattern)
  else do
    let left ← Context.left left
    let right ← Context.right right
    return ⟨pattern.toList, left, right, phonemes, emptyPattern, noPhonemes⟩

theorem of_new {pattern left right : String} {phonemes : List Phoneme} {rule : Rule}
    (built : new pattern left right phonemes = .ok rule) :
    rule.pattern = pattern.toList ∧ rule.left.source = left ∧ rule.right.source = right ∧
      rule.phonemes = phonemes := by
  rw [new] at built
  split at built
  · cases built
  · split at built
    · cases built
    · cases readLeft : Context.left left <;> cases readRight : Context.right right <;>
        rw [readLeft, readRight] at built <;> cases built
      exact ⟨rfl, Context.source_of_ofPattern readLeft, Context.source_of_ofPattern readRight, rfl⟩

def matchesBetween (rule : Rule) (before rest : List Char) : Bool :=
  rule.pattern.isPrefixOf rest && rule.right.holds (rest.drop rule.pattern.length) &&
    rule.left.holds before

/-- Whether the rule applies at a byte offset. It does not apply inside a character. -/
def matchesAt (rule : Rule) (text : String) (offset : Nat) : Bool :=
  match Text.splitAtByte? offset text.toList with
  | some (before, rest) => rule.matchesBetween before rest
  | none => false

theorem exists_parts_of_matchesAt {rule : Rule} {text : String} {offset : Nat}
    (found : rule.matchesAt text offset = true) :
    ∃ before after, text.toList = before ++ rule.pattern ++ after ∧
      Text.byteLength before = offset := by
  rw [matchesAt] at found
  split at found
  · next before rest cut =>
    obtain ⟨parts, length⟩ := Text.splitAtByte?_eq_some_iff.1 cut
    simp only [matchesBetween, Bool.and_eq_true, List.isPrefixOf_iff_prefix] at found
    obtain ⟨after, rfl⟩ := found.1.1
    exact ⟨before, after, by rw [parts, List.append_assoc], length⟩
  · cases found

def alternativesFor (rule : Rule) (language : Option Language) : List String :=
  (rule.phonemes.filter (·.appliesTo language)).map (·.text)

/-- The rule as a line of a rule file. Several phonemes stand in parentheses. -/
def render (rule : Rule) : String :=
  let phonemes := match rule.phonemes with
    | [single] => single.render
    | several => "(" ++ "|".intercalate (several.map Phoneme.render) ++ ")"
  let field (text : String) := "\"" ++ text ++ "\""
  field (String.ofList rule.pattern) ++ " " ++ field rule.left.source ++ " " ++
    field rule.right.source ++ " " ++ field phonemes

end Rule

end Homophone
