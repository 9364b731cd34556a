import Homophone.Regex.Reader
import Homophone.Regex.Size
import Homophone.Unicode.Age
import Homophone.Unicode.CaseFold
import Homophone.Unicode.GraphemeBreak
import Homophone.Unicode.ScriptExtension
import Homophone.Unicode.SentenceBreak
import Homophone.Unicode.WordBreak

/-! From the tree of a pattern to the expression that it means.

The meaning of a piece depends on the flags in force. Without the Unicode flag a pattern speaks of
ASCII only: what could match half of a longer character is refused.
-/

set_option autoImplicit false

namespace Homophone.Regex

open Unicode (Ranges)

structure Mode where
  caseInsensitive : Bool := false
  multiLine : Bool := false
  dotMatchesNewLine : Bool := false
  unicode : Bool := true
  crlf : Bool := false
  deriving DecidableEq, Repr

namespace Mode

def apply (mode : Mode) (change : FlagChange) : Mode where
  caseInsensitive := (change.state? .caseInsensitive).getD mode.caseInsensitive
  multiLine := (change.state? .multiLine).getD mode.multiLine
  dotMatchesNewLine := (change.state? .dotMatchesNewLine).getD mode.dotMatchesNewLine
  unicode := (change.state? .unicode).getD mode.unicode
  crlf := (change.state? .crlf).getD mode.crlf

def alphabet (mode : Mode) : Alphabet := if mode.unicode then .unicode else .ascii

def fold (mode : Mode) (set : Ranges) : Ranges :=
  if mode.caseInsensitive then
    if mode.unicode then set.foldCase else set.foldAsciiCase
  else set

/-- The complement of a set of characters. Where one range ends right before the surrogates and
another one starts right behind them, these two ends are taken for a gap. -/
def complement (set : Ranges) : Ranges :=
  let gap : Ranges :=
    if set.any (·.2 = 0xD7FF) && set.any (·.1 = 0xE000) then [(0xD7FF, 0xE000)] else []
  set.compl.union gap

/-- The complement, if it is asked for: without the Unicode flag, within the first 256 code
points. -/
def negate (mode : Mode) (negated : Bool) (set : Ranges) : Ranges :=
  if negated then
    if mode.unicode then complement set else Ranges.diff [(0, 0xFF)] set
  else set

def check (mode : Mode) (set : Ranges) : Option Ranges :=
  if mode.unicode || set.all (·.2 ≤ 0x7F) then some set else none

end Mode

/-! ## Properties -/

/-- A property's name in lower case, without what does not count in it: blanks, hyphens,
underscores, characters beyond ASCII and a leading "is". -/
def propertyKey (name : String) : String :=
  let chars := name.toList
  let (isPrefixed, chars) := match chars with
    | first :: second :: rest =>
      if first.toLower = 'i' && second.toLower = 's' then (true, rest) else (false, chars)
    | _ => (false, chars)
  let kept := (chars.filter fun c =>
    c ≠ ' ' && c ≠ '_' && c ≠ '-' && c.toNat < 0x80).map Char.toLower
  -- What is left of this name alone would be taken for a category.
  if isPrefixed && kept == ['c'] then "isc" else String.ofList kept

def propertySet? : PropertyQuery → Option Ranges
  | .named name =>
    let key := propertyKey name
    Unicode.Property.ranges? key <|> Unicode.Category.ranges? key <|> Unicode.Script.ranges? key
  | .valued name value =>
    let key := propertyKey value
    match propertyKey name with
    | "gc" | "generalcategory" => Unicode.Category.ranges? key
    | "sc" | "script" => Unicode.Script.ranges? key
    | "scx" | "scriptextensions" => Unicode.ScriptExtension.ranges? key
    | "age" => Unicode.Age.ranges? key
    | "gcb" | "graphemeclusterbreak" => Unicode.GraphemeBreak.ranges? key
    | "wb" | "wordbreak" => Unicode.WordBreak.ranges? key
    | "sb" | "sentencebreak" => Unicode.SentenceBreak.ranges? key
    | _ => none

/-! ## Classes -/

def shorthandSet (mode : Mode) : Shorthand → Ranges
  | .digit => if mode.unicode then Unicode.Category.decimalNumber else .ofChars [('0', '9')]
  | .space =>
    if mode.unicode then Unicode.whiteSpace else .ofChars [('\t', '\r'), (' ', ' ')]
  | .word =>
    if mode.unicode then Unicode.wordCharacter
    else .ofChars [('0', '9'), ('A', 'Z'), ('_', '_'), ('a', 'z')]

def shorthand? (mode : Mode) (shorthand : Shorthand) (negated : Bool) : Option Ranges :=
  mode.check (mode.negate negated (shorthandSet mode shorthand))

def property? (mode : Mode) (query : PropertyQuery) (negated : Bool) : Option Ranges :=
  if mode.unicode then (propertySet? query).map fun set => mode.negate negated (mode.fold set)
  else none

def member? (mode : Mode) (literal : Literal) : Option Char :=
  if mode.unicode || literal.char.toNat < 0x80 then some literal.char else none

def ClassNode.toSet? (mode : Mode) : ClassNode → Option Ranges
  | .empty => some []
  | .literal single => (member? mode single).map .singleton
  | .range first last => do return .ofChars [(← member? mode first, ← member? mode last)]
  | .named ranges negated => mode.check (mode.negate negated (mode.fold (.ofChars ranges)))
  | .shorthand kind negated => shorthand? mode kind negated
  | .property query negated => property? mode query negated
  | .union left right => do return (← left.toSet? mode).union (← right.toSet? mode)
  | .bracketed negated inner => do
    mode.check (mode.negate negated (mode.fold (← inner.toSet? mode)))
  | .combined operator left right => do
    let left := mode.fold (← left.toSet? mode)
    let right := mode.fold (← right.toSet? mode)
    return match operator with
      | .intersection => left.inter right
      | .difference => left.diff right
      | .symmetricDifference => left.symmDiff right

/-! ## Patterns -/

def lookOf (mode : Mode) : Assertion → Look
  | .lineStart => if mode.multiLine then .lineStart mode.crlf else .textStart
  | .lineEnd => if mode.multiLine then .lineEnd mode.crlf else .textEnd
  | .textStart => .textStart
  | .textEnd => .textEnd
  | .wordBoundary => .wordBoundary mode.alphabet
  | .notWordBoundary => .notWordBoundary mode.alphabet
  | .wordStart => .wordStart mode.alphabet
  | .wordEnd => .wordEnd mode.alphabet
  | .wordStartHalf => .wordStartHalf mode.alphabet
  | .wordEndHalf => .wordEndHalf mode.alphabet

def dotSet (mode : Mode) : Ranges :=
  if mode.dotMatchesNewLine then .full
  else if mode.crlf then Ranges.compl (.ofChars [('\n', '\n'), ('\r', '\r')])
  else Ranges.compl (.singleton '\n')

def Primitive.compile (mode : Mode) : Primitive → Option Regex
  | .literal single =>
    if !mode.unicode && single.isByte && 0x80 ≤ single.char.toNat then none
    else some (.char (mode.fold (.singleton single.char)))
  | .assertion condition => some (.look (lookOf mode condition))
  | .dot => if mode.unicode then some (.char (dotSet mode)) else none
  | .shorthand kind negated => (shorthand? mode kind negated).map .char
  | .property query negated => (property? mode query negated).map .char

/-- The expression of a pattern under a mode, and the mode that is in force after it. -/
def Node.compile : Node → Mode → Option (Regex × Mode)
  | .empty, mode => some (.empty, mode)
  | .flags change, mode => some (.empty, mode.apply change)
  | .primitive piece, mode => do return (← piece.compile mode, mode)
  | .bracketed negated inner, mode => do
    let set ← mode.check (mode.negate negated (mode.fold (← inner.toSet? mode)))
    return (.char set, mode)
  | .repeated node least most, mode => do
    let (regex, mode) ← node.compile mode
    return (.repeated regex least most, mode)
  | .group number change node, mode => do
    let (regex, _) ← node.compile (mode.apply change)
    return (.group number regex, mode)
  | .sequence left right, mode => do
    let (first, mode) ← left.compile mode
    let (second, mode) ← right.compile mode
    return (.sequence first second, mode)
  | .either left right, mode => do
    let (first, mode) ← left.compile mode
    let (second, mode) ← right.compile mode
    return (.either first second, mode)

def ofPattern? (pattern : List Char) : Option Regex := do
  let node ← Reader.read pattern
  let (regex, _) ← node.compile {}
  if regex.isWithinLimit then some regex else none

end Homophone.Regex
