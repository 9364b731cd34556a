import Std.Data.TreeSet

/-! Bounded, ordered sets of candidate texts.

Every operation keeps the first candidates that it generates, up to the cap, and of equal ones the
first. So a smaller cap gives a head of what a larger one gives.
-/

set_option autoImplicit false

namespace Homophone

structure Frontier where
  items : Array String
  /-- The items again, for looking them up. -/
  seen : Std.TreeSet String
  cap : Nat

namespace Frontier

def new (cap : Nat) : Frontier := ⟨#[], ∅, cap⟩

def size (frontier : Frontier) : Nat := frontier.items.size

def isEmpty (frontier : Frontier) : Bool := frontier.items.isEmpty

def isFull (frontier : Frontier) : Bool := frontier.cap ≤ frontier.size

def toList (frontier : Frontier) : List String := frontier.items.toList

def accepts (frontier : Frontier) (candidate : String) : Bool :=
  !frontier.isFull && !frontier.seen.contains candidate

def push (frontier : Frontier) (candidate : String) : Frontier :=
  if frontier.accepts candidate then
    { frontier with
      items := frontier.items.push candidate
      seen := frontier.seen.insert candidate }
  else frontier

def pushAll (frontier : Frontier) : List String → Frontier
  | [] => frontier
  | candidate :: rest =>
    if frontier.isFull then frontier else (frontier.push candidate).pushAll rest

/-- The frontier with the empty text as its one candidate, if the cap leaves room for it. -/
def seed (cap : Nat) : Frontier := (new cap).push ""

def ofList (cap : Nat) (candidates : List String) : Frontier := (new cap).pushAll candidates

/-- Every candidate followed by every alternative, the candidate varying slowest. -/
def products (candidates alternatives : List String) : List String :=
  candidates.flatMap fun candidate => alternatives.map (candidate ++ ·)

def expand (frontier : Frontier) (alternatives : List String) : Frontier :=
  ofList frontier.cap (products frontier.toList alternatives)

def append (frontier : Frontier) (suffix : String) : Frontier :=
  if suffix.isEmpty then frontier
  else
    let items := frontier.items.map (· ++ suffix)
    { frontier with items, seen := .ofList items.toList }

def union (frontier other : Frontier) : Frontier := frontier.pushAll other.toList

def join (frontier : Frontier) (separator : String) : String :=
  separator.intercalate frontier.toList

instance : BEq Frontier := ⟨fun first second => first.items == second.items⟩

end Frontier

end Homophone
