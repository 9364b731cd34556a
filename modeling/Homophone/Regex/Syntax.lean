/-! Patterns as they are written: the tree that a pattern's text stands for. -/

set_option autoImplicit false

namespace Homophone.Regex

inductive Flag where
  | caseInsensitive
  | multiLine
  | dotMatchesNewLine
  | swapGreed
  | unicode
  | crlf
  | verbose
  deriving DecidableEq, Repr

abbrev FlagChange := List (Flag × Bool)

def FlagChange.state? (change : FlagChange) (flag : Flag) : Option Bool :=
  (change.find? (·.1 == flag)).map (·.2)

inductive Assertion where
  | lineStart
  | lineEnd
  | textStart
  | textEnd
  | wordBoundary
  | notWordBoundary
  | wordStart
  | wordEnd
  | wordStartHalf
  | wordEndHalf
  deriving DecidableEq, Repr

inductive Shorthand where
  | digit
  | space
  | word
  deriving DecidableEq, Repr

inductive PropertyQuery where
  | named (name : String)
  | valued (name value : String)
  deriving DecidableEq, Repr

/-- A character, and whether it was written as two hexadecimal digits after `\x`. -/
structure Literal where
  char : Char
  isByte : Bool
  deriving DecidableEq, Repr

inductive Primitive where
  | literal (literal : Literal)
  | assertion (assertion : Assertion)
  | dot
  | shorthand (shorthand : Shorthand) (negated : Bool)
  | property (query : PropertyQuery) (negated : Bool)
  deriving DecidableEq, Repr

inductive ClassOperator where
  | intersection
  | difference
  | symmetricDifference
  deriving DecidableEq, Repr

inductive ClassNode where
  | empty
  | literal (literal : Literal)
  | range (first last : Literal)
  /-- A class by its ASCII name, such as `[:alpha:]`. -/
  | named (ranges : List (Char × Char)) (negated : Bool)
  | shorthand (shorthand : Shorthand) (negated : Bool)
  | property (query : PropertyQuery) (negated : Bool)
  | union (left right : ClassNode)
  | bracketed (negated : Bool) (inner : ClassNode)
  | combined (operator : ClassOperator) (left right : ClassNode)

/-- A pattern. `sequence` and `either` lean to the left. -/
inductive Node where
  | empty
  | flags (change : FlagChange)
  | primitive (primitive : Primitive)
  | bracketed (negated : Bool) (inner : ClassNode)
  | repeated (node : Node) (least : Nat) (most : Option Nat)
  /-- A group that sets flags, with its number if it is captured. -/
  | group (number : Option Nat) (change : FlagChange) (node : Node)
  | sequence (left right : Node)
  | either (left right : Node)

namespace ClassNode

def ofItems : List ClassNode → ClassNode
  | [] => empty
  | first :: rest => rest.foldl union first

def depth : ClassNode → Nat
  | union (union a b) c => max (union a b).depth (1 + c.depth)
  | union left right => 1 + max left.depth right.depth
  | bracketed _ inner => 1 + inner.depth
  | combined _ left right => 1 + max left.depth right.depth
  | _ => 0

end ClassNode

namespace Node

def ofItems : List Node → Node
  | [] => empty
  | first :: rest => rest.foldl sequence first

def ofBranches : List Node → Node
  | [] => empty
  | first :: rest => rest.foldl either first

def depth : Node → Nat
  | sequence (sequence a b) c => max (sequence a b).depth (1 + c.depth)
  | sequence left right => 1 + max left.depth right.depth
  | either (either a b) c => max (either a b).depth (1 + c.depth)
  | either left right => 1 + max left.depth right.depth
  | repeated node _ _ => 1 + node.depth
  | group _ _ node => 1 + node.depth
  | bracketed _ inner => 1 + inner.depth
  | _ => 0

end Node

end Homophone.Regex
