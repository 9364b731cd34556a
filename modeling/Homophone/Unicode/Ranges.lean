/-! Sets of characters as ranges of code points, and the operations on them. -/

set_option autoImplicit false

namespace Homophone.Unicode

/-- Ascending, disjoint ranges of code points, both ends included. A range may run across the
surrogates, which are no characters. -/
abbrev Ranges := List (Nat × Nat)

namespace Ranges

def containsPoint (n : Nat) : Ranges → Bool
  | [] => false
  | (first, last) :: rest => first ≤ n && (n ≤ last || containsPoint n rest)

def contains (ranges : Ranges) (c : Char) : Bool := ranges.containsPoint c.toNat

theorem containsPoint_sound {n : Nat} {ranges : Ranges} (found : ranges.containsPoint n = true) :
    ∃ range ∈ ranges, range.1 ≤ n ∧ n ≤ range.2 := by
  induction ranges with
  | nil => simp [containsPoint] at found
  | cons range rest ih =>
    simp only [containsPoint, Bool.and_eq_true, Bool.or_eq_true, decide_eq_true_eq] at found
    obtain ⟨first, last | later⟩ := found
    · exact ⟨range, by simp, first, last⟩
    · obtain ⟨other, mem, bounds⟩ := ih later
      exact ⟨other, by simp [mem], bounds⟩

/-! ## Operations -/

def joinFrom (first last : Nat) : Ranges → Ranges
  | [] => [(first, last)]
  | (start, stop) :: rest =>
    if start ≤ last + 1 then joinFrom first (max last stop) rest
    else (first, last) :: joinFrom start stop rest

def join : Ranges → Ranges
  | [] => []
  | (first, last) :: rest => joinFrom first last rest

def insert (range : Nat × Nat) : Ranges → Ranges
  | [] => [range]
  | other :: rest =>
    if range.1 ≤ other.1 then range :: other :: rest else other :: insert range rest

def ofList (ranges : List (Nat × Nat)) : Ranges := join (ranges.foldr insert [])

def mergeWithin : Nat → Ranges → Ranges → Ranges
  | 0, _, _ => []
  | _ + 1, [], right => right
  | _ + 1, left, [] => left
  | fuel + 1, a :: left, b :: right =>
    if a.1 ≤ b.1 then a :: mergeWithin fuel left (b :: right)
    else b :: mergeWithin fuel (a :: left) right

def union (left right : Ranges) : Ranges :=
  join (mergeWithin (left.length + right.length + 1) left right)

def unions (sets : List Ranges) : Ranges := sets.foldl union []

def limit : Nat := 0x10FFFF

def after (n : Nat) : Nat := if n = 0xD7FF then 0xE000 else n + 1

def before (n : Nat) : Nat := if n = 0xE000 then 0xD7FF else n - 1

def gapsFrom (start : Nat) : Ranges → Ranges
  | [] => if start ≤ limit then [(start, limit)] else []
  | (first, last) :: rest =>
    if start < first then (start, before first) :: gapsFrom (after last) rest
    else gapsFrom (after last) rest

def compl (set : Ranges) : Ranges := gapsFrom 0 set

def full : Ranges := [(0, limit)]

def within (range : Nat × Nat) : Ranges → Ranges
  | [] => []
  | (first, last) :: rest =>
    if range.2 < first then []
    else if last < range.1 then within range rest
    else (max range.1 first, min range.2 last) :: within range rest

def inter (left right : Ranges) : Ranges := left.flatMap fun range => right.within range

def diff (left right : Ranges) : Ranges := left.inter right.compl

def symmDiff (left right : Ranges) : Ranges := (left.union right).diff (left.inter right)

def ofChars (chars : List (Char × Char)) : Ranges :=
  ofList (chars.map fun (first, last) => (first.toNat, last.toNat))

def singleton (c : Char) : Ranges := [(c.toNat, c.toNat)]

/-! ## Tables -/

def hexValue (c : Char) : Nat := if c ≤ '9' then c.toNat - '0'.toNat else c.toNat - 'a'.toNat + 10

def closed (first : Option Nat) : Option Nat → Ranges
  | some last => [(first.getD last, last)]
  | none => []

/-- Read on after `first` and a hyphen, if there was one, and the digits that make `n`, if any. -/
def ofDigits : List Char → Option Nat → Option Nat → Ranges
  | [], first, n => closed first n
  | c :: rest, first, n =>
    if c = '-' then ofDigits rest n none
    else if c.isWhitespace then closed first n ++ ofDigits rest none none
    else ofDigits rest first (some (16 * n.getD 0 + hexValue c))

/-- Ranges written in hexadecimal, `first-last` or a single number each, with blanks between. -/
def ofText (text : String) : Ranges := ofDigits text.toList none none

end Ranges

end Homophone.Unicode
