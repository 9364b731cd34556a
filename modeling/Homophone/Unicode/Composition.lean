import Homophone.Unicode.CombiningClass
import Homophone.Unicode.Decomposition

/-! The composed normal form of a text (NFC).

The text is decomposed, the marks after each starter are put in the order of their classes, and
what composes is composed again from left to right.
-/

set_option autoImplicit false

namespace Homophone.Unicode

namespace Hangul

def syllableBase : Nat := 0xAC00
def leadBase : Nat := 0x1100
def vowelBase : Nat := 0x1161
def tailBase : Nat := 0x11A7
def leadCount : Nat := 19
def vowelCount : Nat := 21
def tailCount : Nat := 28

def decompose? (n : Nat) : Option (List Char) :=
  let index := n - syllableBase
  if n < syllableBase || leadCount * vowelCount * tailCount ≤ index then none
  else
    let lead := Char.ofNat (leadBase + index / (vowelCount * tailCount))
    let vowel := Char.ofNat (vowelBase + index % (vowelCount * tailCount) / tailCount)
    let tail := index % tailCount
    some (lead :: vowel :: if tail = 0 then [] else [Char.ofNat (tailBase + tail)])

def compose? (a b : Nat) : Option Char :=
  if leadBase ≤ a && a < leadBase + leadCount && vowelBase ≤ b && b < vowelBase + vowelCount then
    some (Char.ofNat (syllableBase + ((a - leadBase) * vowelCount + (b - vowelBase)) * tailCount))
  else if syllableBase ≤ a && a < syllableBase + leadCount * vowelCount * tailCount &&
      (a - syllableBase) % tailCount == 0 && tailBase < b && b < tailBase + tailCount then
    some (Char.ofNat (a + (b - tailBase)))
  else none

end Hangul

def splitOnce (c : Char) : List Char :=
  let n := c.toNat
  -- Below U+00C0 nothing decomposes.
  if n < 0xC0 then [c]
  else match Hangul.decompose? n with
    | some letters => letters
    | none =>
      match pairs.find? (·.1 == n) with
      | some (_, first, second) => [Char.ofNat first, Char.ofNat second]
      | none =>
        match singletons.find? (·.1 == n) with
        | some (_, part) => [Char.ofNat part]
        | none =>
          match exclusions.find? (·.1 == n) with
          | some (_, parts) => parts.map Char.ofNat
          | none => [c]

/-- The longest chain of pairs under one character. -/
def deepestPair : Nat := 4

def decomposeWithin : Nat → Char → List Char
  | 0, c => [c]
  | fuel + 1, c =>
    match splitOnce c with
    | [single] => [single]
    | parts => parts.flatMap (decomposeWithin fuel)

def decomposeChar (c : Char) : List Char := decomposeWithin deepestPair c

/-- Insert a mark before the first mark of a higher class. -/
def insertMark (mark : Char) : List Char → List Char
  | [] => [mark]
  | other :: rest =>
    if combiningClass other ≤ combiningClass mark then other :: insertMark mark rest
    else mark :: other :: rest

/-- Put the marks of each run in the order of their classes, without disturbing equal ones. `marks`
holds the marks met since the last starter, in order. -/
def reorderAfter : List Char → List Char → List Char
  | marks, [] => marks
  | marks, c :: rest =>
    if combiningClass c = 0 then marks ++ c :: reorderAfter [] rest
    else reorderAfter (insertMark c marks) rest

def decompose (text : List Char) : List Char := reorderAfter [] (text.flatMap decomposeChar)

def composePair? (a b : Char) : Option Char :=
  -- No second part lies below U+0300.
  if b.toNat < 0x300 then none
  else match Hangul.compose? a.toNat b.toNat with
    | some c => some c
    | none => (pairs.find? fun p => p.2.1 == a.toNat && p.2.2 == b.toNat).map (Char.ofNat ·.1)

/-- Compose the rest of a text. `starter` is the last starter, `marks` the marks kept after it,
backwards. A mark is blocked by a kept mark of its own or a higher class, a starter by any. -/
def composeAfter : Option Char → List Char → List Char → List Char
  | starter, marks, [] => starter.toList ++ marks.reverse
  | starter, marks, c :: rest =>
    let blocked := match marks with
      | [] => false
      | mark :: _ => combiningClass c ≤ combiningClass mark
    match if blocked then none else starter.bind (composePair? · c) with
    | some whole => composeAfter (some whole) marks rest
    | none =>
      if combiningClass c = 0 then starter.toList ++ marks.reverse ++ composeAfter (some c) [] rest
      else composeAfter starter (c :: marks) rest

def compose (text : List Char) : List Char := composeAfter none [] (decompose text)

end Homophone.Unicode
