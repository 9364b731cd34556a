import Homophone.Unicode.Cased
import Homophone.Unicode.LowerCaseTable

/-! Lower case of whole texts.

A character is mapped on its own, with two exceptions: the dotted capital I keeps its dot as a
combining mark, and the capital sigma takes its final form at the end of a word.
-/

set_option autoImplicit false

namespace Homophone.Unicode

def lowerCaseOf (c : Char) : List Char :=
  if c = 'İ' then ['i', '\u0307'] else [lowerCaseRuns.map c]

def meetsCased (chars : List Char) : Bool :=
  match chars.dropWhile isCaseIgnorable with
  | [] => false
  | c :: _ => isCased c

/-- The lower case of the capital sigma between `before`, read backwards, and `after`. -/
def lowerCaseSigma (before after : List Char) : Char :=
  if meetsCased before && !meetsCased after then 'ς' else 'σ'

/-- The lower case of a text that follows `before`, which is given backwards. -/
def lowerCaseAfter : List Char → List Char → List Char
  | _, [] => []
  | before, c :: rest =>
    (if c = 'Σ' then [lowerCaseSigma before rest] else lowerCaseOf c) ++
      lowerCaseAfter (c :: before) rest

def lowerCase (text : List Char) : List Char := lowerCaseAfter [] text

end Homophone.Unicode
