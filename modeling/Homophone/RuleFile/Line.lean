import Homophone.Text.Pieces

/-! The lines of a rule file that count.

Two slashes begin a comment that ends with the line. A line that begins with a slash and a star
opens a block comment, which lasts to the end of the first line that ends with a star and a slash.
-/

set_option autoImplicit false

namespace Homophone.RuleFile

/-- A line without comments, blanks around it and byte order marks before it, and its number,
counted from 1. -/
structure Line where
  number : Nat
  text : List Char
  deriving DecidableEq, Repr

namespace Line

def blockStart : List Char := ['/', '*']
def blockEnd : List Char := ['*', '/']

def bare (raw : List Char) : List Char := Text.trim (raw.dropWhile (· = '\ufeff'))

def beforeComment : List Char → List Char
  | [] => []
  | '/' :: '/' :: _ => []
  | c :: rest => c :: beforeComment rest

def blockAfter (isOpen : Bool) (raw : List Char) : Bool :=
  let line := bare raw
  let closes := blockEnd.isSuffixOf line
  if isOpen then !closes
  -- The two marks of a comment on one line do not share their star.
  else blockStart.isPrefixOf line && !(4 ≤ line.length && closes)

def content (isOpen : Bool) (raw : List Char) : List Char :=
  let line := bare raw
  if isOpen || blockStart.isPrefixOf line then [] else Text.trimEnd (beforeComment line)

def scan : Bool → Nat → List (List Char) → List Line
  | _, _, [] => []
  | isOpen, number, raw :: rest =>
    let later := scan (blockAfter isOpen raw) (number + 1) rest
    match content isOpen raw with
    | [] => later
    | text => ⟨number, text⟩ :: later

def significant (text : List Char) : List Line := scan false 1 (Text.lines text)

end Line

end Homophone.RuleFile
