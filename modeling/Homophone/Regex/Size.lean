import Homophone.Regex.Shape
import Homophone.Unicode.Utf8

/-! The size of the automata for an expression, in bytes, and the limit on it.

A search runs an automaton forward over the bytes of a text and another one backward. A state takes
32 bytes; one with many ways out takes eight bytes more for each range of bytes that it accepts, or
four for each state that it leads to without reading.
-/

set_option autoImplicit false

namespace Homophone.Regex

open Unicode (Ranges ByteSequence)

inductive Direction where
  | forward
  | backward
  deriving DecidableEq

namespace Size

def state : Nat := 32

def reading (count : Nat) : Nat := state + 8 * count

def forking (count : Nat) : Nat := state + 4 * count

/-! ## Sets of characters -/

def remainders : Nat → List ByteSequence → List (List ByteSequence)
  | 0, _ => []
  | length + 1, sequences =>
    match Unicode.followers sequences with
    | [] => []
    | groups => sequences :: groups.flatMap fun group => remainders length group.2

def beginnings : Nat → List ByteSequence → Nat
  | 0, _ => 0
  | length + 1, sequences =>
    (Unicode.followers sequences).foldl (fun n group => n + 1 + beginnings length group.2) 0

/-- An automaton for one character of a set. Forward, states are shared that have the same left to
read; backward, what leads to a beginning is shared. -/
def ofSet (direction : Direction) (set : Ranges) : Nat :=
  if set.all (·.2 ≤ 0x7F) then reading set.length + state
  else
    let sequences := set.byteSequences
    match direction with
    | .forward =>
      (remainders 4 sequences).eraseDups.foldl
        (fun n sequences => n + reading (Unicode.followers sequences).length) state
    | .backward => state + forking sequences.length + state * beginnings 4 sequences

/-! ## Literals -/

def bytesOf (direction : Direction) (text : List Char) : List UInt8 :=
  let bytes := text.flatMap String.utf8EncodeChar
  match direction with
  | .forward => bytes
  | .backward => bytes.reverse

def byFirst (texts : List (List UInt8)) : List (List (List UInt8)) :=
  (texts.filterMap List.head?).eraseDups.map fun byte =>
    texts.filterMap fun
      | first :: rest => if first = byte then some rest else none
      | [] => none

/-- Texts cut where one of them is at its end. Such an end counts once before the first text that
goes on. -/
def chunks (texts : List (List UInt8)) : List (List (List UInt8)) :=
  let cut := (texts.dropWhile List.isEmpty).foldr
    (fun text chunks =>
      match text, chunks with
      | [], _ => [] :: chunks
      | _, chunk :: rest => (text :: chunk) :: rest
      | _, [] => [[text]]) [[]]
  if (texts.headD [0]).isEmpty then [] :: cut else cut

def ofTree : Nat → List (List UInt8) → Nat
  | 0, _ => 0
  | length + 1, texts =>
    if texts.all List.isEmpty then 0
    else
      let chunks := chunks texts
      let ways := (chunks.filter (!·.isEmpty)).length + (chunks.length - 1)
      chunks.foldl (fun n chunk =>
        let groups := byFirst chunk
        let reader := match groups.length with
          | 0 => 0
          | 1 => state
          | count => reading count
        groups.foldl (fun n rests => n + ofTree length rests) (n + reader)) (forking ways)

def texts? (direction : Direction) (branches : List Shape) : Option (List (List UInt8)) :=
  branches.mapM fun
    | .literal text => some (bytesOf direction text)
    | _ => none

/-! ## Repetitions -/

/-- Copies of what takes `inner` bytes, at least `least` and at most `most` of them. `reads` tells
whether every match of it reads something. -/
def ofRepeated (inner : Nat) (reads : Bool) (least : Nat) : Option Nat → Nat
  | none =>
    if least = 0 then if reads then inner + forking 2 else inner + 2 * forking 2 + state
    else least * inner + forking 2
  | some most =>
    if least = 0 && most = 1 then forking 2 + inner + state
    else if least = most then least * inner
    else (if least = 0 then state else least * inner) + state + (most - least) * (inner + forking 2)

end Size

namespace Shape

mutual

/-- The states for a shape. Only forward it matters where a captured group begins and ends. -/
def size (direction : Direction) : Shape → Nat
  | empty | look _ => Size.state
  | literal text => Size.state * (Size.bytesOf direction text).length
  | oneOf set => Size.ofSet direction set
  | repeated shape least most =>
    Size.ofRepeated (shape.size direction) (shape.reads? == some true) least most
  | captured _ shape =>
    match direction with
    | .forward => shape.size direction + 2 * Size.state
    | .backward => shape.size direction
  | sequence parts => totalSize direction parts
  | either branches =>
    match Size.texts? direction branches with
    | some texts =>
      Size.state + Size.ofTree (texts.foldl (fun n text => max n text.length) 0) texts
    | none => Size.forking branches.length + totalSize direction branches + Size.state

def totalSize (direction : Direction) : List Shape → Nat
  | [] => 0
  | shape :: rest => shape.size direction + totalSize direction rest

end

mutual

def isAnchored (direction : Direction) : Shape → Bool
  | empty | literal _ | oneOf _ => false
  | look condition =>
    match direction with
    | .forward => condition = .textStart
    | .backward => condition = .textEnd
  | repeated shape least _ => least ≠ 0 && shape.isAnchored direction
  | captured _ shape => shape.isAnchored direction
  | sequence parts => oneAnchored direction parts
  | either branches => allAnchored direction branches

/-- Whether one of the parts is anchored that only the empty text is read before. -/
def oneAnchored (direction : Direction) : List Shape → Bool
  | [] => false
  | shape :: rest =>
    match direction with
    | .forward => shape.isAnchored direction || (shape.isNull && oneAnchored direction rest)
    | .backward => oneAnchored direction rest || (areNull rest && shape.isAnchored direction)

def allAnchored (direction : Direction) : List Shape → Bool
  | [] => true
  | shape :: rest => shape.isAnchored direction && allAnchored direction rest

end

/-- The automaton for a whole expression. It begins by passing over bytes, unless the expression is
anchored, and ends in one more state. -/
def automatonSize (direction : Direction) (shape : Shape) : Nat :=
  let start :=
    if shape.isAnchored direction then Size.state
    else Size.forking 2 + Size.reading 1 + Size.state
  start + (captured 0 shape).size direction + Size.state

end Shape

def sizeLimit : Nat := 10 * 1024 * 1024

def isWithinLimit (regex : Regex) : Bool :=
  let shape := regex.shape
  shape.automatonSize .forward ≤ sizeLimit && shape.automatonSize .backward ≤ sizeLimit

end Homophone.Regex
