import Homophone.Guess
import Homophone.Rule
import Homophone.RuleFile.Line
import Homophone.RuleFile.Phonemes

/-! What the files of a rule directory say, line by line. -/

set_option autoImplicit false

namespace Homophone.RuleFile

def isStem (text : List Char) : Bool :=
  !text.isEmpty && text.all fun c => !(Unicode.isWhiteSpace c || c = '/' || c = '\\')

/-- The name, without its ending, of a rule file beside the one that names it. -/
structure Stem where
  name : String
  valid : isStem name.toList = true
  deriving DecidableEq

namespace Stem

instance : Coe Stem String := ⟨name⟩

theorem name_ne_empty (stem : Stem) : stem.name ≠ "" := by
  have valid := stem.valid
  simp only [isStem, Bool.and_eq_true, Bool.not_eq_true', List.isEmpty_eq_false_iff] at valid
  exact fun empty => valid.1 (by simp [empty])

theorem not_isWhiteSpace (stem : Stem) {c : Char} (member : c ∈ stem.name.toList) :
    Unicode.isWhiteSpace c = false := by
  have valid := stem.valid
  simp only [isStem, Bool.and_eq_true, List.all_eq_true] at valid
  have plain := valid.2 c member
  simp_all

theorem slash_not_mem (stem : Stem) : '/' ∉ stem.name.toList := by
  have valid := stem.valid
  simp only [isStem, Bool.and_eq_true, List.all_eq_true] at valid
  intro member
  simpa using valid.2 '/' member

end Stem

inductive Statement where
  | rule (rule : Rule)
  /-- The statements of another file in place of this line. -/
  | splice (stem : Stem)

inductive Fault where
  | malformedInclude (line : String)
  | notFourFields (line : String)
  | phonemes (error : PhonemeError)
  | notThreeFields (line : String)
  | notTrueOrFalse (text : String)
  | invalidRule (error : RuleError)
  deriving DecidableEq, Repr

namespace Fault

def message : Fault → String
  | malformedInclude line => "malformed include directive " ++ Text.quoted line
  | notFourFields line => "expected four quoted fields, found " ++ Text.quoted line
  | phonemes error => error.message
  | notThreeFields line =>
    "expected <pattern> <languages> <true|false>, found " ++ Text.quoted line
  | notTrueOrFalse text => "expected true or false, found " ++ Text.quoted text
  | invalidRule error => error.message

end Fault

structure Error where
  file : String
  line : Nat
  fault : Fault
  deriving DecidableEq, Repr

def Error.message (error : Error) : String :=
  error.file ++ ":" ++ toString error.line ++ ": " ++ error.fault.message

def readLines {α : Type} (read : List Char → Except Fault α) (file text : String) :
    Except Error (List α) :=
  (Line.significant text.toList).mapM fun line => (read line.text).mapError (⟨file, line.number, ·⟩)

/-! ## Transcription rules -/

def readField? : List Char → Option (List Char × List Char)
  | '"' :: rest =>
    match rest.dropWhile (· ≠ '"') with
    | '"' :: left => some (rest.takeWhile (· ≠ '"'), left)
    | _ => none
  | _ => none

def skipBlanks? : List Char → Option (List Char)
  | c :: rest => if Unicode.isWhiteSpace c then some (Text.trimStart rest) else none
  | [] => none

def readFields? (line : List Char) :
    Option (List Char × List Char × List Char × List Char) := do
  let (pattern, rest) ← readField? line
  let (left, rest) ← readField? (← skipBlanks? rest)
  let (right, rest) ← readField? (← skipBlanks? rest)
  let (phonemes, rest) ← readField? (← skipBlanks? rest)
  if rest.isEmpty then some (pattern, left, right, phonemes) else none

def includeDirective : List Char := "#include".toList

def readStem? (text : List Char) : Option Stem :=
  let stem := Text.trim text
  if valid : isStem stem = true then
    some ⟨String.ofList stem, by rwa [String.toList_ofList]⟩
  else none

def readStatement (line : List Char) : Except Fault Statement :=
  if includeDirective.isPrefixOf line then
    match readStem? (line.drop includeDirective.length) with
    | some stem => .ok (.splice stem)
    | none => .error (.malformedInclude (String.ofList line))
  else
    match readFields? line with
    | none => .error (.notFourFields (String.ofList line))
    | some (pattern, left, right, phonemes) => do
      let phonemes ← (readPhonemes phonemes).mapError .phonemes
      let rule ← (Rule.new (String.ofList pattern) (String.ofList left) (String.ofList right)
        phonemes).mapError .invalidRule
      return .rule rule

def readStatements (file text : String) : Except Error (List Statement) :=
  readLines readStatement file text

/-! ## Guess rules -/

def readGuessRule (line : List Char) : Except Fault GuessRule :=
  match Text.words line with
  | [pattern, languages, accepts] => do
    let accepts ←
      if accepts = "true".toList then pure true
      else if accepts = "false".toList then pure false
      else throw (.notTrueOrFalse (String.ofList accepts))
    (GuessRule.new (String.ofList pattern) (readLanguages languages) accepts).mapError .invalidRule
  | _ => .error (.notThreeFields (String.ofList line))

def readGuessRules (file text : String) : Except Error (List GuessRule) :=
  readLines readGuessRule file text

/-! ## Lists -/

def readLanguageList (text : String) : List Language :=
  (LanguageSet.ofNames ((Line.significant text.toList).map fun line =>
    String.ofList line.text)).members

/-- A file with one prefix in each line, in any case. -/
def readPrefixes (text : String) : List String :=
  (Line.significant text.toList).map fun line => String.ofList (Unicode.lowerCase line.text)

end Homophone.RuleFile
