import Homophone.Unicode.WordCharacter
import Std.Data.TreeSet

/-! Regular expressions and the search for a match.

A search follows all ways to match at once: an expression takes the set of places where it may start
to the set of places where it may end. Places are counted in characters.
-/

set_option autoImplicit false

namespace Homophone

inductive Regex.Alphabet where
  | unicode
  | ascii
  deriving DecidableEq, Repr

inductive Regex.Look where
  | textStart
  | textEnd
  /-- The start of a line. With `crlf`, carriage returns and their pairs with line feeds end lines
  too. -/
  | lineStart (crlf : Bool)
  | lineEnd (crlf : Bool)
  | wordBoundary (alphabet : Alphabet)
  | notWordBoundary (alphabet : Alphabet)
  | wordStart (alphabet : Alphabet)
  | wordEnd (alphabet : Alphabet)
  | wordStartHalf (alphabet : Alphabet)
  | wordEndHalf (alphabet : Alphabet)
  deriving DecidableEq, Repr

inductive Regex where
  | empty
  /-- One character of a set. -/
  | char (set : Unicode.Ranges)
  | look (look : Regex.Look)
  | sequence (left right : Regex)
  | either (left right : Regex)
  | repeated (regex : Regex) (least : Nat) (most : Option Nat)
  /-- What stands between parentheses, with its number if it is captured. -/
  | group (number : Option Nat) (regex : Regex)

namespace Regex

def Alphabet.isWord : Alphabet → Char → Bool
  | unicode, c => Unicode.isWordCharacter c
  | ascii, c => c.isAlphanum || c = '_'

/-- Whether a condition holds between `before` and `after`, which are missing at the ends. -/
def Look.holds (before after : Option Char) : Look → Bool
  | textStart => before.isNone
  | textEnd => after.isNone
  | lineStart false => before.isNone || before = some '\n'
  | lineStart true =>
    before.isNone || before = some '\n' || (before = some '\r' && after ≠ some '\n')
  | lineEnd false => after.isNone || after = some '\n'
  | lineEnd true =>
    after.isNone || after = some '\r' || (after = some '\n' && before ≠ some '\r')
  | wordBoundary alphabet => before.any alphabet.isWord != after.any alphabet.isWord
  | notWordBoundary alphabet => before.any alphabet.isWord == after.any alphabet.isWord
  | wordStart alphabet => !before.any alphabet.isWord && after.any alphabet.isWord
  | wordEnd alphabet => before.any alphabet.isWord && !after.any alphabet.isWord
  | wordStartHalf alphabet => !before.any alphabet.isWord
  | wordEndHalf alphabet => !after.any alphabet.isWord

def charBefore (text : Array Char) : Nat → Option Char
  | 0 => none
  | place + 1 => text[place]?

/-- The places that are not seen yet, in order and each once, and all that are seen then. -/
def fresh (seen : Std.TreeSet Nat) : List Nat → List Nat × Std.TreeSet Nat
  | [] => ([], seen)
  | place :: rest =>
    if seen.contains place then fresh seen rest
    else
      let (new, seen) := fresh (seen.insert place) rest
      (place :: new, seen)

def union (first second : List Nat) : List Nat := first ++ (fresh (.ofList first) second).1

/-- Apply `advance` exactly `count` times, or until it changes nothing. -/
def iterate (advance : List Nat → List Nat) : Nat → List Nat → List Nat
  | 0, places => places
  | count + 1, places =>
    let next := advance places
    if next = places then places else iterate advance count next

/-- The places that are not seen yet and reached by applying `advance` to `latest` at least once and
at most `count` times. -/
def spread (advance : List Nat → List Nat) : Nat → Std.TreeSet Nat → List Nat → List Nat
  | 0, _, _ => []
  | count + 1, seen, latest =>
    match fresh seen (advance latest) with
    | ([], _) => []
    | (new, seen) => new ++ spread advance count seen new

def ends (text : Array Char) : Regex → List Nat → List Nat
  | empty, starts => starts
  | char set, starts =>
    (starts.filter fun place => text[place]?.any set.contains).map (· + 1)
  | look condition, starts =>
    starts.filter fun place => condition.holds (charBefore text place) text[place]?
  | sequence left right, starts => ends text right (ends text left starts)
  | either left right, starts => union (ends text left starts) (ends text right starts)
  | repeated regex least most, starts =>
    let reached := iterate (ends text regex) least starts
    -- Beyond one round for each place, nothing new is reached.
    let rounds := match most with
      | none => text.size + 1
      | some most => min (most - least) (text.size + 1)
    reached ++ spread (ends text regex) rounds (.ofList reached) reached
  | group _ regex, starts => ends text regex starts

def occursIn (regex : Regex) (text : List Char) : Bool :=
  !(regex.ends text.toArray (List.range (text.length + 1))).isEmpty

end Regex

end Homophone
