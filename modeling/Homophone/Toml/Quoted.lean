/-! Strings as they are written in TOML documents.

Of four pairs of quotes the first that can hold the text as it is stands around it: double quotes,
single quotes, then each of them three times. Otherwise double quotes do, with escapes between.
-/

set_option autoImplicit false

namespace Homophone.Toml

def needsEscape (c : Char) : Bool := (c < ' ' && c ≠ '\t' && c ≠ '\n') || c = '\x7f'

def longestRun (c : Char) : Nat → List Char → Nat
  | _, [] => 0
  | current, first :: rest =>
    if first = c then max (current + 1) (longestRun c (current + 1) rest) else longestRun c 0 rest

def hexDigit (n : Nat) : Char := "0123456789ABCDEF".toList.getD n '0'

structure Quotes where
  double : Bool
  long : Bool
  deriving DecidableEq, Repr

def quotesFor (text : List Char) : Quotes :=
  let line := !text.contains '\n'
  let raw := !text.any needsEscape
  let plain := raw && !text.contains '\\'
  let doubles := longestRun '"' 0 text
  let singles := longestRun '\'' 0 text
  if plain && doubles = 0 && line then ⟨true, false⟩
  else if raw && singles = 0 && line then ⟨false, false⟩
  else if plain && doubles ≤ 2 then ⟨true, true⟩
  else if raw && singles ≤ 2 then ⟨false, true⟩
  else ⟨true, !line⟩

/-- A character other than a quote between double quotes. Line feeds stay between long ones. -/
def escapedChar (long : Bool) (c : Char) : List Char :=
  if c = '\\' then ['\\', '\\']
  else if c = '\n' then if long then ['\n'] else ['\\', 'n']
  else if c = '\t' then ['\\', 't']
  else if c = '\r' then ['\\', 'r']
  else if c = '\x08' then ['\\', 'b']
  else if c = '\x0c' then ['\\', 'f']
  else if needsEscape c then
    ['\\', 'u', '0', '0', hexDigit (c.toNat / 16), hexDigit (c.toNat % 16)]
  else [c]

/-- A text between double quotes, `run` quotes before it. Long quotes end at the third one in a
row. -/
def escaped (long : Bool) : Nat → List Char → List Char
  | _, [] => []
  | run, c :: rest =>
    if c ≠ '"' then escapedChar long c ++ escaped long 0 rest
    else if long && run < 2 then '"' :: escaped long (run + 1) rest
    else '\\' :: '"' :: escaped long 0 rest

def quote (text : List Char) : List Char :=
  let quotes := quotesFor text
  let mark := if quotes.double then '"' else '\''
  let delimiter := List.replicate (if quotes.long then 3 else 1) mark
  let start := if text.contains '\n' then ['\n'] else []
  let body := if quotes.double then escaped quotes.long 0 text else text
  delimiter ++ start ++ body ++ delimiter

end Homophone.Toml
