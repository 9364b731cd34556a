import Homophone.Phoneme
import Homophone.Text.Pieces
import Homophone.Text.Quoted

/-! The notation for the alternatives of a rule.

One alternative is written as it is, several between parentheses with bars between them. Languages
between brackets restrict an alternative.
-/

set_option autoImplicit false

namespace Homophone.RuleFile

inductive PhonemeError where
  | unclosedList (text : String)
  | unbalancedRestriction (text : String)
  | unclosedRestriction (text : String)
  | emptyRestriction (text : String)
  deriving DecidableEq, Repr

def PhonemeError.message : PhonemeError → String
  | unclosedList text => "unclosed phoneme list " ++ Text.quoted text
  | unbalancedRestriction text => "unbalanced language restriction in " ++ Text.quoted text
  | unclosedRestriction text => "unclosed language restriction in " ++ Text.quoted text
  | emptyRestriction text => "empty language restriction in " ++ Text.quoted text

def languagesBetween (isSeparator : Char → Bool) (text : List Char) : LanguageSet :=
  .ofNames ((((Text.pieces isSeparator text).map Text.trim).filter (!·.isEmpty)).map String.ofList)

def readLanguages (text : List Char) : LanguageSet := languagesBetween (· == '+') text

def dropLast? (c : Char) (text : List Char) : Option (List Char) :=
  if text.getLast? = some c then some text.dropLast else none

def readPhoneme (text : List Char) : Except PhonemeError Phoneme :=
  match text.dropWhile (· ≠ '[') with
  | [] =>
    if text.contains ']' then .error (.unbalancedRestriction (String.ofList text))
    else .ok (.plain (String.ofList text))
  | _ :: restriction =>
    match dropLast? ']' restriction with
    | none => .error (.unclosedRestriction (String.ofList text))
    | some names =>
      let languages := readLanguages names
      if languages.isEmpty then .error (.emptyRestriction (String.ofList text))
      else .ok (.restricted (String.ofList (text.takeWhile (· ≠ '['))) languages)

def readPhonemes (text : List Char) : Except PhonemeError (List Phoneme) :=
  match text with
  | '(' :: body =>
    match dropLast? ')' body with
    | none => .error (.unclosedList (String.ofList text))
    | some alternatives => (Text.pieces (· == '|') alternatives).mapM readPhoneme
  | _ => do return [← readPhoneme text]

end Homophone.RuleFile
